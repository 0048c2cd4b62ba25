/-
A path continued by a name.

* `Path.IsName`, `Path.IsAccepted`: what a file or a directory can be called, and what can be a
  path;
* `pieces_append`, `pieces_of_not_mem`: the pieces of a text that is put together;
* `parts_join`, `steps_join`: a path continued by a name leads one step further;
* `join_injective`: to different files with different names;
* `isName_of_mem_parts`: a part of a path is a name;
* `slashed`, `steps_slashed`: a name with slashes behind it, which is as long as one likes.
-/
import Mathlib.Data.List.Basic
import Census.Files.Path

namespace Census.Path

variable {dir name : String}

/-- What an entry of a directory can be called. -/
structure IsName (name : String) : Prop where
  ne_empty : name ≠ ""
  ne_point : name ≠ "."
  ne_parent : name ≠ ".."
  slash : '/' ∉ name.toList
  zero : '\x00' ∉ name.toList
  short : name.utf8ByteSize ≤ maxNameLength

instance : DecidablePred IsName := fun name =>
  decidable_of_iff (name ≠ "" ∧ name ≠ "." ∧ name ≠ ".." ∧ '/' ∉ name.toList ∧
      '\x00' ∉ name.toList ∧ name.utf8ByteSize ≤ maxNameLength)
    ⟨fun ⟨hempty, hpoint, hparent, hslash, hzero, hshort⟩ =>
        ⟨hempty, hpoint, hparent, hslash, hzero, hshort⟩,
      fun ⟨hempty, hpoint, hparent, hslash, hzero, hshort⟩ =>
        ⟨hempty, hpoint, hparent, hslash, hzero, hshort⟩⟩

/-- A path that a file system takes, whether it leads anywhere or not. -/
structure IsAccepted (path : String) : Prop where
  zero : '\x00' ∉ path.toList
  short : path.utf8ByteSize ≤ maxLength

/-! ### Pieces -/

lemma pieces_ne_nil (cs : List Char) : pieces cs ≠ [] := by
  cases cs with
  | nil => exact List.cons_ne_nil _ _
  | cons c cs =>
      rw [pieces]
      split
      · exact List.cons_ne_nil _ _
      · split <;> exact List.cons_ne_nil _ _

/-- A slash separates the pieces in front of it from those behind it. -/
lemma pieces_append (as bs : List Char) : pieces (as ++ '/' :: bs) = pieces as ++ pieces bs := by
  induction as with
  | nil => rfl
  | cons c as ih =>
      rw [List.cons_append, pieces, pieces, ih]
      split
      · rfl
      · cases h : pieces as with
        | nil => exact absurd h (pieces_ne_nil as)
        | cons piece more => rfl

lemma pieces_of_not_mem {cs : List Char} (h : '/' ∉ cs) : pieces cs = [cs] := by
  induction cs with
  | nil => rfl
  | cons c cs ih =>
      obtain ⟨hc, hcs⟩ := not_or.mp fun hor => h (List.mem_cons.mpr hor)
      rw [pieces, if_neg (Ne.symm hc), ih hcs]

/-- A piece has no slash, and its characters are those of the text. -/
lemma of_mem_pieces {cs piece : List Char} (h : piece ∈ pieces cs) :
    '/' ∉ piece ∧ piece ⊆ cs := by
  induction cs generalizing piece with
  | nil =>
      obtain rfl := List.mem_singleton.mp h
      exact ⟨List.not_mem_nil, List.Subset.refl _⟩
  | cons c cs ih =>
      rw [pieces] at h
      split at h
      · rcases List.mem_cons.mp h with rfl | h
        · exact ⟨List.not_mem_nil, List.nil_subset _⟩
        · exact ⟨(ih h).1, List.subset_cons_of_subset c (ih h).2⟩
      · next hc =>
        cases hp : pieces cs with
        | nil => exact absurd hp (pieces_ne_nil cs)
        | cons first more =>
            rw [hp] at h ih
            rcases List.mem_cons.mp h with rfl | h
            · obtain ⟨hslash, hsub⟩ := ih List.mem_cons_self
              exact ⟨List.not_mem_cons_of_ne_of_not_mem (Ne.symm hc) hslash,
                List.cons_subset_cons c hsub⟩
            · obtain ⟨hslash, hsub⟩ := ih (List.mem_cons_of_mem _ h)
              exact ⟨hslash, List.subset_cons_of_subset c hsub⟩

/-- A part of a path can be the name of an entry, unless it leads to the parent. -/
lemma isName_of_mem_parts {path part : String} (h : part ∈ parts path) (hparent : part ≠ "..")
    (hzero : '\x00' ∉ path.toList) (hshort : part.utf8ByteSize ≤ maxNameLength) :
    IsName part := by
  obtain ⟨hmem, hkept⟩ := List.mem_filter.mp h
  obtain ⟨piece, hpiece, rfl⟩ := List.mem_map.mp hmem
  obtain ⟨hempty, hpoint⟩ := of_decide_eq_true hkept
  obtain ⟨hslash, hsub⟩ := of_mem_pieces hpiece
  refine ⟨hempty, hpoint, hparent, ?_, ?_, hshort⟩
  · rwa [String.toList_ofList]
  · rw [String.toList_ofList]
    exact fun hmem => hzero (hsub hmem)

/-- A step of an accepted path can be the name of an entry, unless it leads nowhere or to the
parent. -/
lemma isName_of_mem_steps {path step : String} (h : step ∈ steps path) (haccepted : IsAccepted path)
    (hpoint : step ≠ ".") (hparent : step ≠ "..") (hshort : step.utf8ByteSize ≤ maxNameLength) :
    IsName step := by
  refine isName_of_mem_parts ?_ hparent haccepted.zero hshort
  rw [steps, List.mem_append] at h
  refine h.resolve_right fun hlast => hpoint ?_
  split at hlast
  · exact List.mem_singleton.mp hlast
  · cases hlast

/-! ### Joining -/

lemma endsInSlash_eq_true_iff {path : String} :
    endsInSlash path = true ↔ ∃ cs, path.toList = cs ++ ['/'] := by
  rw [endsInSlash, beq_iff_eq, List.getLast?_eq_some_iff]

/-- A name continues a path as it is, behind a slash that ends it or behind a further one. -/
lemma join_cases (dir : String) (h : IsName name) :
    dir = "" ∧ join dir name = name ∨
      (∃ cs, dir.toList = cs ++ ['/'] ∧ (join dir name).toList = cs ++ '/' :: name.toList) ∨
      dir ≠ "" ∧ (join dir name).toList = dir.toList ++ '/' :: name.toList := by
  have hhead : name.toList.head? ≠ some '/' :=
    fun hhead => h.slash (List.mem_of_head? hhead)
  by_cases hempty : dir = ""
  · exact Or.inl ⟨hempty, by rw [join, if_pos (Or.inr hempty)]⟩
  rw [join, if_neg (not_or.mpr ⟨hhead, hempty⟩)]
  by_cases hslash : endsInSlash dir = true
  · obtain ⟨cs, hcs⟩ := endsInSlash_eq_true_iff.mp hslash
    refine Or.inr (Or.inl ⟨cs, hcs, ?_⟩)
    rw [if_pos hslash, String.toList_append, hcs, List.append_assoc, List.singleton_append]
  · refine Or.inr (Or.inr ⟨hempty, ?_⟩)
    rw [if_neg hslash, String.toList_append, String.toList_append, List.append_assoc]
    rfl

/-- The last piece of a joined path is the name, and those in front of it are the path's. -/
lemma pieces_join (dir : String) (h : IsName name) :
    ∃ front, pieces (join dir name).toList = front ++ [name.toList] ∧
      (pieces dir.toList = front ∨ pieces dir.toList = front ++ [[]]) := by
  have hname : pieces name.toList = [name.toList] := pieces_of_not_mem h.slash
  rcases join_cases dir h with ⟨rfl, hjoin⟩ | ⟨cs, hcs, hjoin⟩ | ⟨-, hjoin⟩
  · exact ⟨[], by rw [hjoin, hname]; rfl, Or.inr rfl⟩
  · refine ⟨pieces cs, by rw [hjoin, pieces_append, hname], Or.inr ?_⟩
    rw [hcs]
    exact pieces_append cs []
  · exact ⟨pieces dir.toList, by rw [hjoin, pieces_append, hname], Or.inl rfl⟩

/-- The last part of a joined path is the name, and those in front of it are the path's. -/
lemma parts_join (h : IsName name) : parts (join dir name) = parts dir ++ [name] := by
  obtain ⟨front, hjoin, hdir⟩ := pieces_join dir h
  have hname : [name].filter (fun piece => decide (piece ≠ "" ∧ piece ≠ ".")) = [name] := by
    simp [h.ne_empty, h.ne_point]
  have hblank : (String.ofList []) = "" := rfl
  rw [parts, parts, hjoin, List.map_append, List.filter_append, List.map_singleton,
    String.ofList_toList, hname]
  rcases hdir with hdir | hdir
  · rw [hdir]
  · rw [hdir, List.map_append, List.filter_append, List.map_singleton, hblank]
    simp

lemma endsInPoint_join (h : IsName name) : endsInPoint (join dir name) = false := by
  obtain ⟨front, hjoin, -⟩ := pieces_join dir h
  have hne : name.toList ≠ [] := fun hnil => h.ne_empty (String.toList_eq_nil_iff.mp hnil)
  rw [endsInPoint, hjoin, List.filter_append, List.filter_singleton, decide_eq_true hne, cond_true,
    List.getLast?_concat]
  refine beq_eq_false_iff_ne.mpr fun hpoint => h.ne_point ?_
  rw [← String.ofList_toList (s := name), Option.some.inj hpoint]

/-- A path continued by a name leads one step further. -/
lemma steps_join (h : IsName name) : steps (join dir name) = parts dir ++ [name] := by
  rw [steps, endsInPoint_join h, parts_join h]
  simp

/-- The characters of a joined path end with those of the name. -/
lemma exists_toList_join (dir : String) (h : IsName name) :
    ∃ cs, (join dir name).toList = cs ++ name.toList ∧ ('\x00' ∈ cs ↔ '\x00' ∈ dir.toList) := by
  rcases join_cases dir h with ⟨rfl, hjoin⟩ | ⟨cs, hcs, hjoin⟩ | ⟨-, hjoin⟩
  · exact ⟨[], by rw [hjoin]; rfl, Iff.rfl⟩
  · exact ⟨cs ++ ['/'], by rw [hjoin, List.append_assoc]; rfl, by rw [hcs]⟩
  · exact ⟨dir.toList ++ ['/'], by rw [hjoin, List.append_assoc]; rfl, by simp⟩

lemma join_ne_empty (h : IsName name) : join dir name ≠ "" := by
  obtain ⟨cs, hjoin, -⟩ := exists_toList_join dir h
  intro hempty
  rw [hempty] at hjoin
  have hnil := (List.append_eq_nil_iff.mp hjoin.symm).2
  exact h.ne_empty (String.toList_eq_nil_iff.mp hnil)

lemma endsInSlash_join (h : IsName name) : endsInSlash (join dir name) = false := by
  obtain ⟨cs, hjoin, -⟩ := exists_toList_join dir h
  have hne : name.toList ≠ [] := fun hnil => h.ne_empty (String.toList_eq_nil_iff.mp hnil)
  rw [endsInSlash, hjoin, List.getLast?_append_of_ne_nil _ hne]
  refine beq_eq_false_iff_ne.mpr fun hslash => h.slash (List.mem_of_getLast? hslash)

lemma zero_mem_join (h : IsName name) :
    '\x00' ∈ (join dir name).toList ↔ '\x00' ∈ dir.toList := by
  obtain ⟨cs, hjoin, hzero⟩ := exists_toList_join dir h
  rw [hjoin, List.mem_append, hzero, or_iff_left h.zero]

/-- A joined path is accepted unless it is too long. -/
lemma isAccepted_join_iff (hdir : IsAccepted dir) (h : IsName name) :
    IsAccepted (join dir name) ↔ (join dir name).utf8ByteSize ≤ maxLength :=
  ⟨IsAccepted.short, fun hshort => ⟨fun hzero => hdir.zero ((zero_mem_join h).mp hzero), hshort⟩⟩

/-- A joined path starts at the top if the path does. -/
lemma head?_join (h : IsName name) (hdir : dir ≠ "") :
    (join dir name).toList.head? = dir.toList.head? := by
  have hne : dir.toList ≠ [] := fun hnil => hdir (String.toList_eq_nil_iff.mp hnil)
  rcases join_cases dir h with ⟨hempty, -⟩ | ⟨cs, hcs, hjoin⟩ | ⟨-, hjoin⟩
  · exact absurd hempty hdir
  · rw [hjoin, hcs]
    cases cs <;> rfl
  · rw [hjoin, List.head?_append_of_ne_nil _ hne]

/-- Different names continue a path to different paths. -/
lemma join_injective {other : String} (h : IsName name) (ho : IsName other)
    (heq : join dir name = join dir other) : name = other := by
  have hparts : parts dir ++ [name] = parts dir ++ [other] := by
    rw [← parts_join h, heq, parts_join ho]
  exact List.singleton_inj.mp (List.append_cancel_left hparts)

/-- A joined path is at least as long as its two parts. -/
lemma add_le_utf8ByteSize_join (dir name : String) (h : IsName name) :
    dir.utf8ByteSize + name.utf8ByteSize ≤ (join dir name).utf8ByteSize := by
  have hhead : name.toList.head? ≠ some '/' :=
    fun hhead => h.slash (List.mem_of_head? hhead)
  rw [join]
  split
  · next hor =>
    rw [hor.resolve_left hhead]
    exact Nat.le_of_eq (Nat.zero_add _)
  · split
    · exact Nat.le_of_eq (String.utf8ByteSize_append ..).symm
    · rw [String.utf8ByteSize_append, String.utf8ByteSize_append]
      omega

/-! ### Slashes at the end -/

/-- A name with some slashes behind it. -/
def slashed (name : String) (count : ℕ) : String :=
  name ++ String.ofList (List.replicate count '/')

lemma toList_slashed (name : String) (count : ℕ) :
    (slashed name count).toList = name.toList ++ List.replicate count '/' := by
  rw [slashed, String.toList_append, String.toList_ofList]

lemma utf8ByteSize_slashed (name : String) (count : ℕ) :
    (slashed name count).utf8ByteSize = name.utf8ByteSize + count := by
  have hslashes : (String.ofList (List.replicate count '/')).utf8ByteSize = count := by
    induction count with
    | zero => rfl
    | succ count ih =>
        have happend : String.ofList (List.replicate (count + 1) '/') =
            "/" ++ String.ofList (List.replicate count '/') := by
          rw [← String.toList_inj, String.toList_append]
          simp only [String.toList_ofList]
          rfl
        rw [happend, String.utf8ByteSize_append, ih, Nat.add_comm]
        rfl
  rw [slashed, String.utf8ByteSize_append, hslashes]

lemma pieces_slashed (h : IsName name) (count : ℕ) :
    pieces (slashed name count).toList = name.toList :: List.replicate count [] := by
  have hslashes : ∀ n, pieces (List.replicate n '/') = List.replicate (n + 1) [] := by
    intro n
    induction n with
    | zero => rfl
    | succ n ih => rw [List.replicate_succ, pieces, if_pos rfl, ih, ← List.replicate_succ]
  rw [toList_slashed]
  cases count with
  | zero =>
      rw [List.replicate_zero, List.append_nil, pieces_of_not_mem h.slash, List.replicate_zero]
  | succ count =>
      rw [List.replicate_succ, pieces_append, pieces_of_not_mem h.slash, hslashes]
      rfl

/-- Slashes at the end lead nowhere further. -/
lemma steps_slashed (h : IsName name) (count : ℕ) : steps (slashed name count) = [name] := by
  have hne : name.toList ≠ [] := fun hnil => h.ne_empty (String.toList_eq_nil_iff.mp hnil)
  have hparts : parts (slashed name count) = [name] := by
    rw [parts, pieces_slashed h, List.map_cons, List.map_replicate, String.ofList_toList,
      List.filter_cons_of_pos (by simp [h.ne_empty, h.ne_point]), List.filter_replicate_of_neg]
    simp
  have hpoint : endsInPoint (slashed name count) = false := by
    rw [endsInPoint, pieces_slashed h, List.filter_cons_of_pos (by simpa using hne),
      List.filter_replicate_of_neg (by simp)]
    refine beq_eq_false_iff_ne.mpr fun hlast => h.ne_point ?_
    have hlist : name.toList = ['.'] := Option.some.inj hlast
    rw [← String.ofList_toList (s := name), hlist]
  rw [steps, hparts, hpoint]
  simp

end Census.Path
