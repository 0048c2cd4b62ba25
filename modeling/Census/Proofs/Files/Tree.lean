/-
Trees of files location by location.

* `FileTree.Item`, `item?`: what is at a location;
* `item?_putAt`: a change at a location changes nothing anywhere else;
* `FileTree.WellFormed`, `WellFormed.putAt`: the names in a directory are names and different;
* `FileTree.Grows`: there may be more directories, but apart from some locations no other files.
-/
import Mathlib.Data.Set.Basic
import Census.Files.Tree
import Census.Proofs.Files.Path
import Census.Proofs.Keyed

namespace Census.FileTree

/-- What can be at a location: a file with its bytes, or a directory, whatever it holds. -/
inductive Item
  | file (content : ByteArray)
  | directory

/-- What is at the top of a tree. -/
def item : FileTree → Item
  | file content => .file content
  | directory _ => .directory

/-- What is at a location. -/
def item? (t : FileTree) (l : Location) : Option Item :=
  (t.at? l).map item

variable {t t' t'' new : FileTree} {entries : List (String × FileTree)} {l p : Location}
  {n : String}

/-! ### Locations -/

@[simp] lemma item?_nil (t : FileTree) : t.item? [] = some t.item := by
  cases t <;> rfl

@[simp] lemma item?_directory_cons (entries : List (String × FileTree)) (n : String)
    (l : Location) :
    (directory entries).item? (n :: l) = (entries.lookup n).bind fun child => child.item? l := by
  simp only [item?, at?, Option.map_bind]
  rfl

lemma item?_eq_directory_iff :
    t.item? l = some .directory ↔ ∃ entries, t.at? l = some (directory entries) := by
  rw [item?]
  cases h : t.at? l with
  | none => simp
  | some child => cases child <;> simp [item]

lemma item?_eq_file_iff {content : ByteArray} :
    t.item? l = some (.file content) ↔ t.at? l = some (file content) := by
  rw [item?]
  cases h : t.at? l with
  | none => simp
  | some child => cases child <;> simp [item]

lemma at?_append (t : FileTree) (p l : Location) :
    t.at? (p ++ l) = (t.at? p).bind fun child => child.at? l := by
  induction p generalizing t with
  | nil => cases t <;> rfl
  | cons n p ih =>
      cases t with
      | file content => rfl
      | directory entries =>
          rw [List.cons_append, at?, at?]
          cases entries.lookup n with
          | none => rfl
          | some child => exact ih child

/-- What is in a directory, is in its entries. -/
lemma at?_concat (h : t.at? p = some (directory entries)) :
    t.at? (p ++ [n]) = entries.lookup n := by
  rw [at?_append, h]
  show (entries.lookup n).bind (fun child => child.at? []) = entries.lookup n
  cases entries.lookup n with
  | none => rfl
  | some child => cases child <;> rfl

/-- What has something in it is a directory. -/
lemma item?_of_concat {i : Item} (h : t.item? (p ++ [n]) = some i) :
    t.item? p = some .directory := by
  obtain ⟨child, hchild, -⟩ := Option.map_eq_some_iff.mp h
  rw [at?_append] at hchild
  obtain ⟨parent, hparent, hin⟩ := Option.bind_eq_some_iff.mp hchild
  cases parent with
  | file content => cases hin
  | directory entries => exact item?_eq_directory_iff.mpr ⟨entries, hparent⟩

/-- The parent of a directory is a directory. -/
lemma item?_dropLast (h : t.item? l = some .directory) :
    t.item? l.dropLast = some .directory := by
  rcases List.eq_nil_or_concat l with rfl | ⟨p, n, rfl⟩
  · exact h
  · rw [List.concat_eq_append] at h ⊢
    rw [List.dropLast_concat]
    exact item?_of_concat h

/-! ### Changes -/

/-- What is put where no directory is, in a directory and with nothing in it, is the only thing that
changes. -/
lemma item?_putAt (hparent : t.item? p = some .directory)
    (hthere : t.item? (p ++ [n]) ≠ some .directory) (hnew : ∀ x r, new.item? (x :: r) = none)
    (l : Location) :
    (putAt new t (p ++ [n])).item? l = if l = p ++ [n] then some new.item else t.item? l := by
  induction p generalizing t l with
  | nil =>
      cases t with
      | file content => cases hparent
      | directory entries =>
          have hput : putAt new (directory entries) [n] = directory (setEntry n new entries) := by
            simp [putAt]
          cases l with
          | nil => rfl
          | cons x r =>
              rw [List.nil_append, hput, item?_directory_cons, lookup_setEntry,
                item?_directory_cons]
              by_cases hx : x = n
              · subst hx
                cases r with
                | nil => simp
                | cons y r =>
                    rw [if_pos rfl, if_neg (by simp), Option.bind_some, hnew]
                    cases hchild : entries.lookup x with
                    | none => rfl
                    | some child =>
                        cases child with
                        | file content => rfl
                        | directory _ => exact absurd (by simp [hchild, item]) hthere
              · rw [if_neg hx, if_neg fun h => hx (List.cons.inj h).1]
  | cons first p ih =>
      cases t with
      | file content => cases hparent
      | directory entries =>
          rw [item?_directory_cons] at hparent
          obtain ⟨child, hchild, hbelow⟩ := Option.bind_eq_some_iff.mp hparent
          rw [List.cons_append, item?_directory_cons, hchild] at hthere
          cases l with
          | nil => rfl
          | cons x r =>
              rw [List.cons_append, putAt, item?_directory_cons, lookup_setEntry, hchild,
                item?_directory_cons]
              by_cases hx : x = first
              · subst hx
                rw [if_pos rfl, Option.bind_some, Option.getD_some, ih hbelow hthere, hchild]
                simp
              · rw [if_neg hx, if_neg fun h => hx (List.cons.inj h).1]

/-- A file in a directory, and everything else as it was. -/
lemma item?_putAt_file (content : ByteArray) (hparent : t.item? p = some .directory)
    (hthere : t.item? (p ++ [n]) ≠ some .directory) (l : Location) :
    (putAt (file content) t (p ++ [n])).item? l =
      if l = p ++ [n] then some (.file content) else t.item? l :=
  item?_putAt hparent hthere (fun _ _ => rfl) l

/-- A file in a directory makes no directory and takes none away. -/
lemma item?_putAt_file_eq_directory_iff (content : ByteArray)
    (hparent : t.item? p = some .directory) (hthere : t.item? (p ++ [n]) ≠ some .directory) :
    (putAt (file content) t (p ++ [n])).item? l = some .directory ↔
      t.item? l = some .directory := by
  rw [item?_putAt_file content hparent hthere]
  split
  · next heq =>
    subst heq
    exact iff_of_false (fun h => Item.noConfusion (Option.some.inj h)) hthere
  · exact Iff.rfl

/-- A directory in another one, and everything else as it was. -/
lemma item?_putAt_default (hparent : t.item? p = some .directory)
    (hthere : t.item? (p ++ [n]) = none) (l : Location) :
    (putAt default t (p ++ [n])).item? l =
      if l = p ++ [n] then some .directory else t.item? l :=
  item?_putAt hparent (by simp [hthere]) (fun _ _ => rfl) l

/-! ### Well-formed trees -/

/-- What a directory holds has different names that a system can give, at every depth. -/
inductive WellFormed : FileTree → Prop
  | file (content : ByteArray) : WellFormed (file content)
  | directory {entries : List (String × FileTree)} (nodup : (entries.map Prod.fst).Nodup)
      (names : ∀ e ∈ entries, Path.IsName e.1) (children : ∀ e ∈ entries, WellFormed e.2) :
      WellFormed (directory entries)

lemma mem_setEntry {e : String × FileTree} (h : e ∈ setEntry n t entries) :
    e = (n, t) ∨ e ∈ entries := by
  induction entries with
  | nil => exact Or.inl (List.mem_singleton.mp h)
  | cons first entries ih =>
      rw [setEntry] at h
      split at h
      · rcases List.mem_cons.mp h with h | h
        · exact Or.inl h
        · exact Or.inr (List.mem_cons_of_mem _ h)
      · rcases List.mem_cons.mp h with rfl | h
        · exact Or.inr List.mem_cons_self
        · exact (ih h).imp_right (List.mem_cons_of_mem _)

lemma nodup_setEntry (h : (entries.map Prod.fst).Nodup) :
    ((setEntry n t entries).map Prod.fst).Nodup := by
  induction entries with
  | nil => simp [setEntry]
  | cons first entries ih =>
      obtain ⟨hfirst, hrest⟩ := List.nodup_cons.mp h
      rw [setEntry]
      split
      · next heq => exact List.nodup_cons.mpr ⟨by rw [heq]; exact hfirst, hrest⟩
      · next hne =>
        refine List.nodup_cons.mpr ⟨fun hmem => ?_, ih hrest⟩
        obtain ⟨e, he, heq⟩ := List.mem_map.mp hmem
        rcases mem_setEntry he with rfl | he
        · exact hne heq
        · exact hfirst (List.mem_map.mpr ⟨e, he, heq⟩)

lemma wellFormed_directory_iff : (directory entries).WellFormed ↔
    (entries.map Prod.fst).Nodup ∧ (∀ e ∈ entries, Path.IsName e.1) ∧
      ∀ e ∈ entries, e.2.WellFormed := by
  constructor
  · rintro (_ | ⟨hnodup, hnames, hchildren⟩)
    exact ⟨hnodup, hnames, hchildren⟩
  · rintro ⟨hnodup, hnames, hchildren⟩
    exact .directory hnodup hnames hchildren

/-- A directory with an entry more, or another one in its place. -/
lemma wellFormed_setEntry (h : (directory entries).WellFormed) (hname : Path.IsName n)
    (ht : t.WellFormed) : (directory (setEntry n t entries)).WellFormed := by
  obtain ⟨hnodup, hnames, hchildren⟩ := wellFormed_directory_iff.mp h
  refine .directory (nodup_setEntry hnodup) (fun e he => ?_) fun e he => ?_
  · rcases mem_setEntry he with rfl | he
    exacts [hname, hnames e he]
  · rcases mem_setEntry he with rfl | he
    exacts [ht, hchildren e he]

namespace WellFormed

lemma default : (default : FileTree).WellFormed :=
  .directory List.nodup_nil (by simp) (by simp)

lemma at? (h : t.WellFormed) {child : FileTree} (hchild : t.at? l = some child) :
    child.WellFormed := by
  induction l generalizing t with
  | nil =>
      have hself : t.at? [] = some t := by cases t <;> rfl
      rw [hself] at hchild
      exact Option.some.inj hchild ▸ h
  | cons n l ih =>
      cases t with
      | file content => cases hchild
      | directory entries =>
          obtain ⟨next, hnext, hin⟩ := Option.bind_eq_some_iff.mp hchild
          exact ih ((wellFormed_directory_iff.mp h).2.2 _ (Keyed.mem_of_lookup hnext)) hin

/-- What is in a directory has a name. -/
lemma isName (h : t.WellFormed) {i : Item} (hitem : t.item? (p ++ [n]) = some i) :
    Path.IsName n := by
  obtain ⟨entries, hat⟩ := item?_eq_directory_iff.mp (item?_of_concat hitem)
  obtain ⟨child, hchild, -⟩ := Option.map_eq_some_iff.mp hitem
  rw [at?_concat hat] at hchild
  exact (wellFormed_directory_iff.mp (h.at? hat)).2.1 _ (Keyed.mem_of_lookup hchild)

/-- A tree stays well-formed when something is put into a directory under a name. -/
lemma putAt (h : t.WellFormed) (hnew : new.WellFormed) (hname : Path.IsName n)
    (hparent : t.item? p = some .directory) : (putAt new t (p ++ [n])).WellFormed := by
  induction p generalizing t with
  | nil =>
      cases t with
      | file content => cases hparent
      | directory entries =>
          rw [List.nil_append, FileTree.putAt, FileTree.putAt]
          exact wellFormed_setEntry h hname hnew
  | cons first p ih =>
      cases t with
      | file content => cases hparent
      | directory entries =>
          rw [item?_directory_cons] at hparent
          obtain ⟨child, hchild, hbelow⟩ := Option.bind_eq_some_iff.mp hparent
          have hmem := Keyed.mem_of_lookup hchild
          obtain ⟨-, hnames, hchildren⟩ := wellFormed_directory_iff.mp h
          rw [List.cons_append, FileTree.putAt, hchild]
          exact wellFormed_setEntry h (hnames _ hmem) (ih (hchildren _ hmem) hbelow)

end WellFormed

/-! ### Growth -/

/-- Nothing has been taken away, and all that has been added is directories.  At some locations,
where no directories are, there can have been any changes. -/
structure Grows (apart : Set Location) (t t' : FileTree) : Prop where
  file_iff : ∀ l ∉ apart, ∀ content,
    t'.item? l = some (.file content) ↔ t.item? l = some (.file content)
  directory : ∀ l, t.item? l = some .directory → t'.item? l = some .directory
  no_directory : ∀ l ∈ apart, t'.item? l ≠ some .directory

namespace Grows

variable {apart : Set Location}

lemma refl (h : ∀ l ∈ apart, t.item? l ≠ some .directory) : Grows apart t t :=
  ⟨fun _ _ _ => Iff.rfl, fun _ => id, h⟩

lemma trans (h : Grows apart t t') (h' : Grows apart t' t'') : Grows apart t t'' :=
  ⟨fun l hl content => (h'.file_iff l hl content).trans (h.file_iff l hl content),
    fun l hl => h'.directory l (h.directory l hl), h'.no_directory⟩

/-- Any changes at locations where no directories are. -/
lemma of_agree (h : ∀ l ∉ apart, t'.item? l = t.item? l)
    (hbefore : ∀ l ∈ apart, t.item? l ≠ some .directory)
    (hafter : ∀ l ∈ apart, t'.item? l ≠ some .directory) : Grows apart t t' where
  file_iff := by
    intro l hl content
    rw [h l hl]
  directory := by
    intro l hl
    have hout : l ∉ apart := fun hin => hbefore l hin hl
    rwa [h l hout]
  no_directory := hafter

/-- Where there are no directories, any changes can have been. -/
lemma mono (h : Grows ∅ t t') (hno : ∀ l ∈ apart, t'.item? l ≠ some .directory) :
    Grows apart t t' :=
  ⟨fun l _ => h.file_iff l (Set.notMem_empty l), h.directory, hno⟩

/-- A directory at the same place in both trees. -/
lemma add_directory {u u' : FileTree} (h : Grows apart t t') (hl : l ∉ apart)
    (hu : ∀ m, u.item? m = if m = l then some .directory else t.item? m)
    (hu' : ∀ m, u'.item? m = if m = l then some .directory else t'.item? m) :
    Grows apart u u' where
  file_iff := by
    intro m hm content
    rw [hu, hu']
    split
    · exact Iff.rfl
    · exact h.file_iff m hm content
  directory := by
    intro m hm
    rw [hu] at hm
    rw [hu']
    split
    · rfl
    · next hne =>
      rw [if_neg hne] at hm
      exact h.directory m hm
  no_directory := by
    intro m hm
    have hne : m ≠ l := by
      rintro rfl
      exact hl hm
    rw [hu', if_neg hne]
    exact h.no_directory m hm

/-- A directory is where there was nothing. -/
lemma putAt_default (hparent : t.item? p = some .directory) (hthere : t.item? (p ++ [n]) = none) :
    Grows ∅ t (putAt default t (p ++ [n])) where
  file_iff := by
    intro l _ content
    rw [item?_putAt_default hparent hthere]
    split
    · next heq =>
      subst heq
      rw [hthere]
      simp
    · exact Iff.rfl
  directory := by
    intro l hl
    rw [item?_putAt_default hparent hthere]
    split
    · rfl
    · exact hl
  no_directory := fun _ h => absurd h (Set.notMem_empty _)

end Grows

end Census.FileTree
