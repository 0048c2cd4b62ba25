/-
What paths lead to, and what the changes at paths do location by location.

* `FileTree.walk`, `goal`: the location at the end of steps, and of a path;
* `FileTree.Passable`: steps lead through directories only;
* `made_of_makeFrom`, `Passable.makeFrom`: directories are made where there are none, once;
* `Grows.makeFrom`: and just as well in a tree that has more of them;
* `read?_join`, `write_join_eq_ok_iff`: the file of some name in the directory of a path;
* `mem_fileNames_iff`, `nodup_fileNames`: the names that are listed;
* `fileLocation_eq_ok_iff`, `change_eq_ok_iff`: the place of a file at any path, and its change.
-/
import Census.Proofs.Files.Tree

namespace Census.FileTree

variable {t t' : FileTree} {here l p : Location} {step name dir path text : String}
  {steps more : List String}

/-! ### Steps -/

/-- The location that steps lead to, whatever is on the way. -/
def walk (here : Location) (steps : List String) : Location :=
  steps.foldl stepTo here

/-- The location that a path leads to, whatever is on the way. -/
def goal (here : Location) (path : String) : Location :=
  walk (startOf here path) (Path.steps path)

/-- The steps lead from directory to directory. -/
def Passable (t : FileTree) (here : Location) : List String → Prop
  | [] => t.item? here = some .directory
  | step :: rest =>
    t.item? here = some .directory ∧ step.utf8ByteSize ≤ Path.maxNameLength ∧
      Passable t (stepTo here step) rest

lemma walk_append (here : Location) (steps more : List String) :
    walk here (steps ++ more) = walk (walk here steps) more :=
  List.foldl_append

lemma stepTo_name (h : Path.IsName name) (here : Location) : stepTo here name = here ++ [name] := by
  rw [stepTo, if_neg h.ne_point, if_neg h.ne_parent]

lemma stepTo_point (here : Location) : stepTo here "." = here :=
  if_pos rfl

/-- One step from a directory leads to a directory or to what the directory has under its name. -/
lemma item?_stepTo (h : t.item? here = some .directory) (step : String) :
    t.item? (stepTo here step) = some .directory ∨
      stepTo here step = here ++ [step] ∧ step ≠ "." ∧ step ≠ ".." := by
  by_cases hpoint : step = "."
  · exact Or.inl (by rw [hpoint, stepTo_point, h])
  by_cases hparent : step = ".."
  · refine Or.inl ?_
    rw [stepTo, if_neg hpoint, if_pos hparent]
    exact item?_dropLast h
  · exact Or.inr ⟨by rw [stepTo, if_neg hpoint, if_neg hparent], hpoint, hparent⟩

lemma locate_cons_eq_ok_iff : t.locate here (step :: steps) = .ok l ↔
    t.item? here = some .directory ∧ step.utf8ByteSize ≤ Path.maxNameLength ∧
      t.locate (stepTo here step) steps = .ok l := by
  rw [locate]
  cases hat : t.at? here with
  | none => simp [item?, hat]
  | some there =>
      cases there with
      | file content => simp [item?, hat, item]
      | directory entries =>
          by_cases hlong : Path.maxNameLength < step.utf8ByteSize
          · simp [hlong, Nat.not_le.mpr hlong]
          · simp [item?, hat, item, hlong, Nat.not_lt.mp hlong]

/-- Steps still lead to the same place when there are more directories. -/
lemma locate_mono (hmono : ∀ l, t.item? l = some .directory → t'.item? l = some .directory)
    (h : t.locate here steps = .ok l) : t'.locate here steps = .ok l := by
  induction steps generalizing here with
  | nil => exact h
  | cons step steps ih =>
      obtain ⟨hhere, hshort, hrest⟩ := locate_cons_eq_ok_iff.mp h
      exact locate_cons_eq_ok_iff.mpr ⟨hmono _ hhere, hshort, ih hrest⟩

/-- What steps lead to, unless it is a directory, is or can be in one, under the name of a step. -/
lemma exists_parent_of_locate (hhere : t.item? here = some .directory)
    (h : t.locate here steps = .ok l) (hl : t.item? l ≠ some .directory) :
    ∃ p n, l = p ++ [n] ∧ t.item? p = some .directory ∧ n ∈ steps ∧ n ≠ "." ∧ n ≠ ".." ∧
      n.utf8ByteSize ≤ Path.maxNameLength := by
  induction steps generalizing here with
  | nil => exact absurd (Except.ok.inj h ▸ hhere) hl
  | cons step steps ih =>
      obtain ⟨-, hshort, hrest⟩ := locate_cons_eq_ok_iff.mp h
      have hlater : t.item? (stepTo here step) = some .directory → ∃ p n, l = p ++ [n] ∧
          t.item? p = some .directory ∧ n ∈ step :: steps ∧ n ≠ "." ∧ n ≠ ".." ∧
            n.utf8ByteSize ≤ Path.maxNameLength := by
        intro hdir
        obtain ⟨p, n, heq, hparent, hmem, hname⟩ := ih hdir hrest
        exact ⟨p, n, heq, hparent, List.mem_cons_of_mem _ hmem, hname⟩
      rcases item?_stepTo hhere step with hdir | ⟨hname, hpoint, hup⟩
      · exact hlater hdir
      · cases steps with
        | nil =>
            have heq : here ++ [step] = l := by
              rw [← hname]
              exact Except.ok.inj hrest
            exact ⟨here, step, heq.symm, hhere, List.mem_cons_self, hpoint, hup, hshort⟩
        | cons next steps => exact hlater (locate_cons_eq_ok_iff.mp hrest).1

namespace Passable

lemma start (h : t.Passable here steps) : t.item? here = some .directory := by
  cases steps with
  | nil => exact h
  | cons step steps => exact h.1

lemma target (h : t.Passable here steps) : t.item? (walk here steps) = some .directory := by
  induction steps generalizing here with
  | nil => exact h
  | cons step steps ih => exact ih h.2.2

/-- Steps that go on behind passable ones. -/
lemma locate_append (h : t.Passable here steps) (more : List String) :
    t.locate here (steps ++ more) = t.locate (walk here steps) more := by
  induction steps generalizing here with
  | nil => rfl
  | cons step steps ih =>
      obtain ⟨hhere, hshort, hrest⟩ := h
      obtain ⟨entries, hat⟩ := item?_eq_directory_iff.mp hhere
      rw [List.cons_append, locate, hat]
      simp only [Nat.not_lt.mpr hshort, if_false]
      exact ih hrest

lemma locate (h : t.Passable here steps) : t.locate here steps = .ok (walk here steps) := by
  have happend := h.locate_append []
  rwa [List.append_nil] at happend

lemma of_append (h : t.Passable here (steps ++ more)) : t.Passable here steps := by
  induction steps generalizing here with
  | nil => exact h.start
  | cons step steps ih => exact ⟨h.1, h.2.1, ih h.2.2⟩

lemma mono (hmono : ∀ l, t.item? l = some .directory → t'.item? l = some .directory)
    (h : t.Passable here steps) : t'.Passable here steps := by
  induction steps generalizing here with
  | nil => exact hmono _ h
  | cons step steps ih => exact ⟨hmono _ h.1, h.2.1, ih h.2.2⟩

/-- Where all directories are there, none is made. -/
lemma makeFrom (h : t.Passable here steps) : t.makeFrom here steps = .ok t := by
  induction steps generalizing here with
  | nil => rfl
  | cons step steps ih =>
      obtain ⟨-, hshort, hrest⟩ := h
      obtain ⟨entries, hat⟩ := item?_eq_directory_iff.mp hrest.start
      rw [FileTree.makeFrom, if_neg (Nat.not_lt.mpr hshort)]
      simp only [hat]
      exact ih hrest

end Passable

/-- Every stage on the way is a directory. -/
lemma Passable.stage (h : t.Passable here steps) (k : ℕ) :
    t.item? (walk here (steps.take k)) = some .directory := by
  rw [← List.take_append_drop k steps] at h
  exact h.of_append.target

lemma passable_of_locate (h : t.locate here steps = .ok l) (hl : t.item? l = some .directory) :
    t.Passable here steps := by
  induction steps generalizing here with
  | nil => exact (Except.ok.inj h) ▸ hl
  | cons step steps ih =>
      obtain ⟨hhere, hshort, hrest⟩ := locate_cons_eq_ok_iff.mp h
      exact ⟨hhere, hshort, ih hrest⟩

/-! ### Directories made -/

/-- One stage on the way: the directory is there, or it is made. -/
lemma makeFrom_cons_eq_ok_iff : t.makeFrom here (step :: steps) = .ok t' ↔
    step.utf8ByteSize ≤ Path.maxNameLength ∧
      (t.item? (stepTo here step) = some .directory ∧
          t.makeFrom (stepTo here step) steps = .ok t' ∨
        t.item? (stepTo here step) = none ∧ steps ≠ ["."] ∧
          (putAt default t (stepTo here step)).makeFrom (stepTo here step) steps = .ok t') := by
  rw [makeFrom]
  by_cases hlong : Path.maxNameLength < step.utf8ByteSize
  · simp [hlong, Nat.not_le.mpr hlong]
  · simp only [hlong, if_false, Nat.not_lt.mp hlong, true_and]
    cases hat : t.at? (stepTo here step) with
    | none =>
        by_cases hpoint : steps = ["."]
        · simp [item?, hat, hpoint]
        · simp [item?, hat, hpoint]
    | some there => cases there <;> simp [item?, hat, item]

/-- Making directories along steps leaves all that there was and adds directories on the way, so
that the steps can be passed. -/
structure Made (t t' : FileTree) (here : Location) (steps : List String) : Prop where
  passable : t'.Passable here steps
  grows : Grows ∅ t t'
  stages : ∀ l, t'.item? l = some .directory →
    t.item? l = some .directory ∨ ∃ k, l = walk here (steps.take k)

/-- What is at a location was there before, or it is a directory on the way. -/
lemma Made.item?_eq (h : Made t t' here steps) (l : Location) : t'.item? l = t.item? l ∨
    t.item? l = none ∧ t'.item? l = some .directory ∧ ∃ k, l = walk here (steps.take k) := by
  have hfile := h.grows.file_iff l (Set.notMem_empty l)
  cases hitem : t.item? l with
  | some i =>
      cases i with
      | file content => exact Or.inl ((hfile content).mpr hitem)
      | directory => exact Or.inl (h.grows.directory l hitem)
  | none =>
      cases hitem' : t'.item? l with
      | none => exact Or.inl rfl
      | some i =>
          cases i with
          | file content =>
              rw [(hfile content).mp hitem'] at hitem
              cases hitem
          | directory =>
              refine Or.inr ⟨rfl, rfl, (h.stages l hitem').resolve_left fun hthere => ?_⟩
              rw [hitem] at hthere
              cases hthere

lemma made_of_makeFrom (hhere : t.item? here = some .directory)
    (h : t.makeFrom here steps = .ok t') : Made t t' here steps := by
  induction steps generalizing t here with
  | nil =>
      obtain rfl := Except.ok.inj h
      exact ⟨hhere, .refl fun _ hl => absurd hl (Set.notMem_empty _), fun _ => Or.inl⟩
  | cons step steps ih =>
      -- a stage of the rest is the next stage of all steps
      have hstage : ∀ {l : Location}, (∃ k, l = walk (stepTo here step) (steps.take k)) →
          ∃ k, l = walk here ((step :: steps).take k) := by
        rintro l ⟨k, rfl⟩
        exact ⟨k + 1, rfl⟩
      obtain ⟨hshort, ⟨hthere, hrest⟩ | ⟨hnone, -, hrest⟩⟩ := makeFrom_cons_eq_ok_iff.mp h
      · obtain ⟨hpass, hgrows, hstages⟩ := ih hthere hrest
        exact ⟨⟨hgrows.directory _ hhere, hshort, hpass⟩, hgrows,
          fun l hl => (hstages l hl).imp_right hstage⟩
      · rcases item?_stepTo hhere step with hdir | ⟨hname, -, -⟩
        · rw [hnone] at hdir
          cases hdir
        rw [hname] at hnone hrest hstage
        have hput := item?_putAt_default hhere hnone
        obtain ⟨hpass, hgrows, hstages⟩ := ih (by rw [hput, if_pos rfl]) hrest
        have hgrows' := (Grows.putAt_default hhere hnone).trans hgrows
        refine ⟨⟨hgrows'.directory _ hhere, hshort, by rwa [hname]⟩, hgrows', fun l hl => ?_⟩
        rcases hstages l hl with hbefore | hlater
        · rw [hput] at hbefore
          split at hbefore
          · next heq => exact Or.inr ⟨1, by rw [heq, ← hname]; rfl⟩
          · exact Or.inl hbefore
        · exact Or.inr (hstage hlater)

/-- What has been made in a tree can be made in one with more directories, and with other files at
places where no directory is made. -/
lemma Grows.makeFrom {apart : Set Location} {t₁ : FileTree} (h : Grows apart t t')
    (hhere : t.item? here = some .directory) (hmake : t.makeFrom here steps = .ok t₁)
    (hapart : ∀ l ∈ apart, t₁.item? l ≠ some .directory) :
    ∃ t₁', t'.makeFrom here steps = .ok t₁' ∧ Grows apart t₁ t₁' := by
  induction steps generalizing t t' here with
  | nil =>
      obtain rfl := Except.ok.inj hmake
      exact ⟨t', rfl, h⟩
  | cons step steps ih =>
      obtain ⟨hshort, ⟨hthere, hrest⟩ | ⟨hnone, hpoint, hrest⟩⟩ := makeFrom_cons_eq_ok_iff.mp hmake
      · have hthere' := h.directory _ hthere
        obtain ⟨t₁', hmake', hgrows⟩ := ih h hthere hrest
        exact ⟨t₁', makeFrom_cons_eq_ok_iff.mpr ⟨hshort, Or.inl ⟨hthere', hmake'⟩⟩, hgrows⟩
      · rcases item?_stepTo hhere step with hdir | ⟨hname, -, -⟩
        · rw [hnone] at hdir
          cases hdir
        rw [hname] at hnone hrest
        have hput := item?_putAt_default hhere hnone
        have hthere : (putAt default t (here ++ [step])).item? (here ++ [step]) =
            some .directory := by rw [hput, if_pos rfl]
        have hfree : here ++ [step] ∉ apart := fun hin =>
          hapart _ hin ((made_of_makeFrom hthere hrest).grows.directory _ hthere)
        cases hitem : t'.item? (here ++ [step]) with
        | none =>
            have hput' := item?_putAt_default (h.directory _ hhere) hitem
            obtain ⟨t₁', hmake', hgrows⟩ := ih (h.add_directory hfree hput hput') hthere hrest
            refine ⟨t₁', makeFrom_cons_eq_ok_iff.mpr ⟨hshort, Or.inr ?_⟩, hgrows⟩
            rw [hname]
            exact ⟨hitem, hpoint, hmake'⟩
        | some i =>
            cases i with
            | file content =>
                rw [h.file_iff _ hfree, hnone] at hitem
                cases hitem
            | directory =>
                -- here the directory is there already
                have hput' : ∀ m, t'.item? m =
                    if m = here ++ [step] then some .directory else t'.item? m := by
                  intro m
                  split
                  · next heq => rw [heq, hitem]
                  · rfl
                obtain ⟨t₁', hmake', hgrows⟩ := ih (h.add_directory hfree hput hput') hthere hrest
                refine ⟨t₁', makeFrom_cons_eq_ok_iff.mpr ⟨hshort, Or.inl ?_⟩, hgrows⟩
                rw [hname]
                exact ⟨hitem, hmake'⟩

/-- A tree stays well-formed when directories are made under names. -/
lemma WellFormed.makeFrom (hwf : t.WellFormed) (hhere : t.item? here = some .directory)
    (hnames : ∀ step ∈ steps, step ≠ "." → step ≠ ".." →
      step.utf8ByteSize ≤ Path.maxNameLength → Path.IsName step)
    (h : t.makeFrom here steps = .ok t') : t'.WellFormed := by
  induction steps generalizing t here with
  | nil => exact Except.ok.inj h ▸ hwf
  | cons step steps ih =>
      obtain ⟨hfirst, hnames⟩ := List.forall_mem_cons.mp hnames
      obtain ⟨hshort, ⟨hthere, hrest⟩ | ⟨hnone, -, hrest⟩⟩ := makeFrom_cons_eq_ok_iff.mp h
      · exact ih hwf hthere hnames hrest
      · rcases item?_stepTo hhere step with hdir | ⟨hname, hpoint, hparent⟩
        · rw [hnone] at hdir
          cases hdir
        rw [hname] at hnone hrest
        refine ih (hwf.putAt .default (hfirst hpoint hparent hshort) hhere) ?_ hnames hrest
        rw [item?_putAt_default hhere hnone, if_pos rfl]

/-! ### Paths -/

lemma item?_startOf (hhere : t.item? here = some .directory) (path : String) :
    t.item? (startOf here path) = some .directory := by
  rw [startOf]
  split
  · cases t with
    | file content => cases here <;> cases hhere
    | directory entries => rfl
  · exact hhere

lemma stepsOf_eq_ok_iff : stepsOf path = .ok steps ↔
    Path.IsAccepted path ∧ steps = Path.steps path := by
  rw [stepsOf]
  by_cases hzero : '\x00' ∈ path.toList
  · have hnot : ¬Path.IsAccepted path := fun h => h.zero hzero
    simp [hzero, hnot]
  · by_cases hlong : Path.maxLength < path.utf8ByteSize
    · have hnot : ¬Path.IsAccepted path := fun h => Nat.not_le.mpr hlong h.short
      simp [hzero, hlong, hnot]
    · have hyes : Path.IsAccepted path := ⟨hzero, Nat.not_lt.mp hlong⟩
      simp [hzero, hlong, hyes, eq_comm]

/-- What is done with the steps of a path succeeds when the path is accepted. -/
lemma stepsOf_bind_eq_ok_iff {α : Type} {f : List String → Except FileError α} {a : α} :
    (stepsOf path).bind f = .ok a ↔ Path.IsAccepted path ∧ f (Path.steps path) = .ok a := by
  cases hsteps : stepsOf path with
  | error e =>
      have hnot : ¬Path.IsAccepted path := by
        intro h
        rw [stepsOf_eq_ok_iff.mpr ⟨h, rfl⟩] at hsteps
        cases hsteps
      simp [Except.bind, hnot]
  | ok steps =>
      obtain ⟨haccepted, rfl⟩ := stepsOf_eq_ok_iff.mp hsteps
      simp [Except.bind, haccepted]

/-- A point at the end of a path leads nowhere further. -/
lemma walk_steps (here : Location) (path : String) :
    walk here (Path.steps path) = walk here (Path.parts path) := by
  rw [Path.steps, walk_append]
  split
  · exact stepTo_point _
  · rfl

lemma Passable.parts (h : t.Passable here (Path.steps path)) : t.Passable here (Path.parts path) :=
  of_append h

lemma startOf_join (h : Path.IsName name) (here : Location) (dir : String) :
    startOf here (Path.join dir name) = startOf here dir := by
  by_cases hdir : dir = ""
  · have hhead : name.toList.head? ≠ some '/' :=
      fun hhead => h.slash (List.mem_of_head? hhead)
    have hjoin : Path.join "" name = name := by rw [Path.join, if_pos (Or.inr rfl)]
    rw [hdir, hjoin, startOf, startOf, if_neg hhead]
    rfl
  · rw [startOf, startOf, Path.head?_join h hdir]

/-- A path continued by a name leads to what the directory has under this name. -/
lemma goal_join (h : Path.IsName name) (here : Location) (dir : String) :
    goal here (Path.join dir name) = goal here dir ++ [name] := by
  rw [goal, startOf_join h, Path.steps_join h, walk_append, goal, walk_steps]
  exact stepTo_name h _

/-- A path leads to a location when the system takes it and its steps do. -/
lemma resolve_eq_ok_iff : t.resolve here path = .ok l ↔
    path ≠ "" ∧ Path.IsAccepted path ∧
      t.locate (startOf here path) (Path.steps path) = .ok l := by
  rw [resolve]
  by_cases hempty : path = ""
  · rw [if_pos hempty]
    refine iff_of_false (fun h => ?_) fun h => h.1 hempty
    cases (show Except.error FileError.notFound = Except.ok l from h)
  · rw [if_neg hempty, ← stepsOf_bind_eq_ok_iff, and_iff_right hempty]
    rfl

lemma find?_eq_some_iff : t.find? here path = some t' ↔
    ∃ l, t.resolve here path = .ok l ∧ t.at? l = some t' := by
  rw [find?]
  cases t.resolve here path <;> simp

lemma isDirectory_iff : t.isDirectory here path = true ↔
    path ≠ "" ∧ Path.IsAccepted path ∧ t.Passable (startOf here path) (Path.steps path) := by
  have hfind : t.isDirectory here path = true ↔
      ∃ entries, t.find? here path = some (directory entries) := by
    rw [isDirectory]
    split
    · next entries heq => simp [heq]
    · next hno => simpa using hno
  rw [hfind]
  constructor
  · rintro ⟨entries, h⟩
    obtain ⟨l, hl, hat⟩ := find?_eq_some_iff.mp h
    obtain ⟨hempty, haccepted, hlocate⟩ := resolve_eq_ok_iff.mp hl
    exact ⟨hempty, haccepted, passable_of_locate hlocate (item?_eq_directory_iff.mpr ⟨_, hat⟩)⟩
  · rintro ⟨hempty, haccepted, hpass⟩
    obtain ⟨entries, hat⟩ := item?_eq_directory_iff.mp hpass.target
    refine ⟨entries, find?_eq_some_iff.mpr ⟨_, ?_, hat⟩⟩
    exact resolve_eq_ok_iff.mpr ⟨hempty, haccepted, hpass.locate⟩

lemma read?_eq_some_iff {content : ByteArray} : t.read? here path = some content ↔
    ∃ l, t.resolve here path = .ok l ∧ t.item? l = some (.file content) := by
  have hfind : t.read? here path = some content ↔ t.find? here path = some (file content) := by
    rw [read?]
    split
    · next c heq => simp [heq]
    · next hno =>
      simpa using hno content
  rw [hfind, find?_eq_some_iff]
  simp only [item?_eq_file_iff]

lemma isFile_iff : t.isFile here path = true ↔ ∃ content, t.read? here path = some content := by
  rw [isFile, read?]
  split <;> simp

/-! ### The directory of a path -/

/-- What a path that is continued by a name leads to. -/
lemma locate_join (h : t.Passable (startOf here dir) (Path.steps dir)) (hname : Path.IsName name) :
    t.locate (startOf here (Path.join dir name)) (Path.steps (Path.join dir name)) =
      .ok (goal here dir ++ [name]) := by
  obtain ⟨entries, hat⟩ := item?_eq_directory_iff.mp h.parts.target
  rw [startOf_join hname, Path.steps_join hname, h.parts.locate_append, locate, hat, goal,
    walk_steps]
  simp only [Nat.not_lt.mpr hname.short, if_false, stepTo_name hname]
  rfl

/-- **Reading in a directory**: a file of the directory is read as long as its path is short
enough. -/
lemma read?_join (h : t.Passable (startOf here dir) (Path.steps dir)) (hdir : Path.IsAccepted dir)
    (hname : Path.IsName name) {content : ByteArray} :
    t.read? here (Path.join dir name) = some content ↔
      (Path.join dir name).utf8ByteSize ≤ Path.maxLength ∧
        t.item? (goal here dir ++ [name]) = some (.file content) := by
  rw [read?_eq_some_iff]
  simp only [resolve_eq_ok_iff, locate_join h hname, Path.isAccepted_join_iff hdir hname]
  constructor
  · rintro ⟨l, ⟨-, hshort, hl⟩, hitem⟩
    exact ⟨hshort, Except.ok.inj hl ▸ hitem⟩
  · rintro ⟨hshort, hitem⟩
    exact ⟨_, ⟨Path.join_ne_empty hname, hshort, rfl⟩, hitem⟩

/-- The entries of the directory that a path leads to. -/
lemma exists_entries (hwf : t.WellFormed) (h : t.isDirectory here dir = true) :
    ∃ entries, t.at? (goal here dir) = some (directory entries) ∧ (directory entries).WellFormed ∧
      t.fileNames here dir =
        (entries.map Prod.fst).filter fun name => t.isFile here (Path.join dir name) := by
  obtain ⟨hempty, haccepted, hpass⟩ := isDirectory_iff.mp h
  obtain ⟨entries, hat⟩ := item?_eq_directory_iff.mp hpass.target
  have hfind : t.find? here dir = some (directory entries) :=
    find?_eq_some_iff.mpr ⟨_, resolve_eq_ok_iff.mpr ⟨hempty, haccepted, hpass.locate⟩, hat⟩
  exact ⟨entries, hat, hwf.at? hat, by rw [fileNames, hfind]⟩

lemma nodup_fileNames (hwf : t.WellFormed) (h : t.isDirectory here dir = true) :
    (t.fileNames here dir).Nodup := by
  obtain ⟨entries, -, hdir, hnames⟩ := exists_entries hwf h
  rw [hnames]
  exact (wellFormed_directory_iff.mp hdir).1.filter _

/-- The names that are listed are those of the files that can be read. -/
lemma mem_fileNames_iff (hwf : t.WellFormed) (h : t.isDirectory here dir = true) :
    name ∈ t.fileNames here dir ↔
      Path.IsName name ∧ ∃ content, t.read? here (Path.join dir name) = some content := by
  obtain ⟨entries, hat, hdir, hnames⟩ := exists_entries hwf h
  obtain ⟨-, haccepted, hpass⟩ := isDirectory_iff.mp h
  rw [hnames, List.mem_filter, isFile_iff]
  refine and_congr_left ?_
  rintro ⟨content, hread⟩
  constructor
  · intro hmem
    obtain ⟨e, he, rfl⟩ := List.mem_map.mp hmem
    exact (wellFormed_directory_iff.mp hdir).2.1 e he
  · intro hname
    have hitem := item?_eq_file_iff.mp ((read?_join hpass haccepted hname).mp hread).2
    rw [at?_concat hat] at hitem
    exact List.mem_map.mpr ⟨_, Keyed.mem_of_lookup hitem, rfl⟩

/-! ### Changes at paths -/

lemma makeDirectories_eq_ok_iff : t.makeDirectories here path = .ok t' ↔
    Path.IsAccepted path ∧ t.makeFrom (startOf here path) (Path.steps path) = .ok t' := by
  exact stepsOf_bind_eq_ok_iff

/-- The directory of a path is made with those on the way to it. -/
lemma made_of_makeDirectories (hhere : t.item? here = some .directory)
    (h : t.makeDirectories here path = .ok t') :
    Made t t' (startOf here path) (Path.steps path) :=
  made_of_makeFrom (item?_startOf hhere path) (makeDirectories_eq_ok_iff.mp h).2

/-- What has been made at a path in one tree can be made in a larger one. -/
lemma Grows.makeDirectories {apart : Set Location} {t₁ : FileTree} (h : Grows apart t t')
    (hhere : t.item? here = some .directory) (hmake : t.makeDirectories here path = .ok t₁)
    (hapart : ∀ l ∈ apart, t₁.item? l ≠ some .directory) :
    ∃ t₁', t'.makeDirectories here path = .ok t₁' ∧ Grows apart t₁ t₁' := by
  obtain ⟨haccepted, hfrom⟩ := makeDirectories_eq_ok_iff.mp hmake
  obtain ⟨t₁', hfrom', hgrows⟩ := h.makeFrom (item?_startOf hhere path) hfrom hapart
  exact ⟨t₁', makeDirectories_eq_ok_iff.mpr ⟨haccepted, hfrom'⟩, hgrows⟩

/-- A tree stays well-formed when directories are made. -/
lemma WellFormed.makeDirectories (hwf : t.WellFormed) (hhere : t.item? here = some .directory)
    (h : t.makeDirectories here path = .ok t') : t'.WellFormed := by
  obtain ⟨haccepted, hmake⟩ := makeDirectories_eq_ok_iff.mp h
  exact hwf.makeFrom (item?_startOf hhere path)
    (fun _ hstep => Path.isName_of_mem_steps hstep haccepted) hmake

/-- The steps to the place of a file. -/
def fileSteps (path : String) : List String :=
  if Path.endsInSlash path then (Path.steps path).dropLast ++ ["."] else Path.steps path

/-- A file can be where a path leads to no directory. -/
lemma fileLocation_eq_ok_iff : t.fileLocation here path = .ok l ↔
    path ≠ "" ∧ Path.IsAccepted path ∧ t.locate (startOf here path) (fileSteps path) = .ok l ∧
      t.item? l ≠ some .directory := by
  rw [fileLocation]
  by_cases hempty : path = ""
  · rw [if_pos hempty]
    refine iff_of_false (fun h => ?_) fun h => h.1 hempty
    cases (show Except.error FileError.notFound = Except.ok l from h)
  rw [if_neg hempty, and_iff_right hempty]
  refine (stepsOf_bind_eq_ok_iff).trans (and_congr_right fun _ => ?_)
  show (t.locate (startOf here path) (fileSteps path)).bind _ = _ ↔ _
  cases t.locate (startOf here path) (fileSteps path) with
  | error e => simp [Except.bind]
  | ok there =>
      dsimp only [Except.bind]
      cases hat : t.at? there with
      | none =>
          refine ⟨?_, And.left⟩
          rintro ⟨⟩
          exact ⟨rfl, by simp [item?, hat]⟩
      | some child =>
          cases child with
          | file content =>
              refine ⟨?_, And.left⟩
              rintro ⟨⟩
              exact ⟨rfl, by simp [item?, hat, item]⟩
          | directory entries =>
              refine iff_of_false (fun h => by cases h) ?_
              rintro ⟨⟨⟩, hno⟩
              exact hno (by simp [item?, hat, item])

/-- The file of some name in the directory of a path can be there, unless its path is too long or it
is a directory. -/
lemma fileLocation_join (h : t.Passable (startOf here dir) (Path.steps dir))
    (hdir : Path.IsAccepted dir) (hname : Path.IsName name) :
    t.fileLocation here (Path.join dir name) = .ok l ↔
      (Path.join dir name).utf8ByteSize ≤ Path.maxLength ∧
        t.item? (goal here dir ++ [name]) ≠ some .directory ∧ l = goal here dir ++ [name] := by
  have hsteps : fileSteps (Path.join dir name) = Path.steps (Path.join dir name) := by
    rw [fileSteps, Path.endsInSlash_join hname]
    rfl
  rw [fileLocation_eq_ok_iff, hsteps, locate_join h hname, Path.isAccepted_join_iff hdir hname,
    and_iff_right (Path.join_ne_empty hname), Except.ok.injEq]
  constructor
  · rintro ⟨hshort, rfl, hitem⟩
    exact ⟨hshort, hitem, rfl⟩
  · rintro ⟨hshort, hitem, rfl⟩
    exact ⟨hshort, rfl, hitem⟩

/-- The bytes of the file at a location; none where there is no file. -/
def bytes (t : FileTree) (l : Location) : ByteArray :=
  match t.at? l with
  | some (file content) => content
  | _ => .empty

lemma change_eq_ok_iff {content : ByteArray → ByteArray} :
    t.change here path content = .ok t' ↔
      ∃ l, t.fileLocation here path = .ok l ∧ t' = putAt (file (content (t.bytes l))) t l := by
  have hbind : t.change here path content = (t.fileLocation here path).bind fun l =>
      .ok (putAt (file (content (t.bytes l))) t l) := by
    rw [change]
    cases t.fileLocation here path with
    | error e => rfl
    | ok l =>
        show (match t.at? l with
          | some (file old) => Except.ok (putAt (file (content old)) t l)
          | _ => Except.ok (putAt (file (content .empty)) t l)) =
            Except.ok (putAt (file (content (t.bytes l))) t l)
        rw [bytes]
        split <;> rfl
  rw [hbind]
  cases t.fileLocation here path with
  | error e => simp [Except.bind]
  | ok l => simp [Except.bind, eq_comm]

/-- **Writing in a directory**: a file of some name can be written when its path is short enough and
it is no directory, and then it is what changes. -/
lemma write_join_eq_ok_iff (h : t.Passable (startOf here dir) (Path.steps dir))
    (hdir : Path.IsAccepted dir) (hname : Path.IsName name) :
    t.write here (Path.join dir name) text = .ok t' ↔
      (Path.join dir name).utf8ByteSize ≤ Path.maxLength ∧
        t.item? (goal here dir ++ [name]) ≠ some .directory ∧
        t' = putAt (file text.toUTF8) t (goal here dir ++ [name]) := by
  rw [write, change_eq_ok_iff]
  simp only [fileLocation_join h hdir hname]
  constructor
  · rintro ⟨l, ⟨hshort, hitem, rfl⟩, ht⟩
    exact ⟨hshort, hitem, ht⟩
  · rintro ⟨hshort, hitem, ht⟩
    exact ⟨_, ⟨hshort, hitem, rfl⟩, ht⟩

/-- The place of a file is in a directory, under a name. -/
lemma exists_parent_of_fileLocation (hhere : t.item? here = some .directory)
    (h : t.fileLocation here path = .ok l) :
    ∃ p n, l = p ++ [n] ∧ t.item? p = some .directory ∧ Path.IsName n := by
  obtain ⟨-, haccepted, hlocate, hitem⟩ := fileLocation_eq_ok_iff.mp h
  obtain ⟨p, n, rfl, hparent, hmem, hpoint, hup, hshort⟩ :=
    exists_parent_of_locate (item?_startOf hhere path) hlocate hitem
  refine ⟨p, n, rfl, hparent, Path.isName_of_mem_steps ?_ haccepted hpoint hup hshort⟩
  rw [fileSteps] at hmem
  split at hmem
  · refine List.mem_of_mem_dropLast ((List.mem_append.mp hmem).resolve_right fun hlast => ?_)
    exact hpoint (List.mem_singleton.mp hlast)
  · exact hmem

/-- A file can be at the same place when there are more directories, but none there. -/
lemma fileLocation_mono (hmono : ∀ l, t.item? l = some .directory → t'.item? l = some .directory)
    (h : t.fileLocation here path = .ok l) (hl : t'.item? l ≠ some .directory) :
    t'.fileLocation here path = .ok l := by
  obtain ⟨hempty, haccepted, hlocate, -⟩ := fileLocation_eq_ok_iff.mp h
  exact fileLocation_eq_ok_iff.mpr ⟨hempty, haccepted, locate_mono hmono hlocate, hl⟩

end Census.FileTree
