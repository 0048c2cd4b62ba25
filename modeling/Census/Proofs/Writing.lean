/-
The files of a report written into a directory.

* `FileTree.CanWrite`, `canWrite_iff`: a file can be written into a directory that is made first;
* `FileTree.Written`: the report files hold their texts, and the rest is as it was;
* `Host.writeFile_of_made`: one file;
* `Host.writeFiles_of_made`, `writeFiles_cases`: several files, which succeeds when each of them can
  be written before any has been.
-/
import Census.Proofs.Files.Walk
import Census.Proofs.Host

namespace Census

open FileTree (Location goal startOf)

lemma ReportFile.isName (f : ReportFile) : Path.IsName f.name := by
  cases f <;> decide

lemma ReportFile.name_injective {f g : ReportFile} (h : f.name = g.name) : f = g := by
  cases f <;> cases g <;> first | rfl | exact absurd h (by decide)

lemma ReportFormat.nodup_files (f : ReportFormat) : f.files.Nodup := by
  cases f <;> decide

lemma ReportFormat.files_ne_nil (f : ReportFormat) : f.files ≠ [] := by
  cases f <;> decide

namespace FileTree

variable {t t₁ : FileTree} {here : Location} {dir name : String}

/-- A file of some name can be written into a directory, which is made unless it is there. -/
def CanWrite (t : FileTree) (here : Location) (dir name : String) : Prop :=
  ∃ t₁ t₂, t.makeDirectories here dir = .ok t₁ ∧ t₁.write here (Path.join dir name) "" = .ok t₂

/-- There is room for a file of some name in the directory of a path: the path to the file is not
too long, and there is no directory in its place. -/
structure Fits (t : FileTree) (here : Location) (dir name : String) : Prop where
  short : (Path.join dir name).utf8ByteSize ≤ Path.maxLength
  free : t.item? (goal here dir ++ [name]) ≠ some .directory

lemma write_eq_ok_iff_fits {t₂ : FileTree} {text : String}
    (hmade : Made t t₁ (startOf here dir) (Path.steps dir)) (hdir : Path.IsAccepted dir)
    (hname : Path.IsName name) : t₁.write here (Path.join dir name) text = .ok t₂ ↔
      t₁.Fits here dir name ∧ t₂ = putAt (file text.toUTF8) t₁ (goal here dir ++ [name]) := by
  rw [write_join_eq_ok_iff hmade.passable hdir hname]
  exact ⟨fun ⟨hshort, hfree, heq⟩ => ⟨⟨hshort, hfree⟩, heq⟩,
    fun ⟨⟨hshort, hfree⟩, heq⟩ => ⟨hshort, hfree, heq⟩⟩

/-- A file can be written exactly when the directory can be made and then has room. -/
lemma canWrite_iff (hhere : t.item? here = some .directory) (hname : Path.IsName name) :
    t.CanWrite here dir name ↔
      ∃ t₁, t.makeDirectories here dir = .ok t₁ ∧ t₁.Fits here dir name := by
  have key : ∀ {t₁ : FileTree}, t.makeDirectories here dir = .ok t₁ →
      ∀ {t₂ : FileTree}, t₁.write here (Path.join dir name) "" = .ok t₂ ↔
        t₁.Fits here dir name ∧ t₂ = putAt (file "".toUTF8) t₁ (goal here dir ++ [name]) :=
    fun hmake _ => write_eq_ok_iff_fits (made_of_makeDirectories hhere hmake)
      (makeDirectories_eq_ok_iff.mp hmake).1 hname
  constructor
  · rintro ⟨t₁, t₂, hmake, hwrite⟩
    exact ⟨t₁, hmake, ((key hmake).mp hwrite).1⟩
  · rintro ⟨t₁, hmake, hfits⟩
    exact ⟨t₁, _, hmake, (key hmake).mpr ⟨hfits, rfl⟩⟩

/-- A file that can be written in a tree can be written in one with the same directories, where all
that differs are files. -/
lemma CanWrite.of_grows {apart : Set Location} {t' : FileTree} (h : t.CanWrite here dir name)
    (hhere : t.item? here = some .directory) (hname : Path.IsName name) (hg : Grows apart t t')
    (hg' : Grows apart t' t) (hfile : ∀ l ∈ apart, ∃ content, t.item? l = some (.file content)) :
    t'.CanWrite here dir name := by
  obtain ⟨t₁, hmake, hshort, hfree⟩ := (canWrite_iff hhere hname).mp h
  have hhere' := hg.directory _ hhere
  have hmade := made_of_makeDirectories hhere hmake
  have hapart : ∀ l ∈ apart, t₁.item? l ≠ some .directory := by
    intro l hl hdir
    obtain ⟨content, hitem⟩ := hfile l hl
    rw [(hmade.grows.file_iff l (Set.notMem_empty l) content).mpr hitem] at hdir
    cases hdir
  obtain ⟨t₁', hmake', -⟩ := hg.makeDirectories hhere hmake hapart
  refine (canWrite_iff hhere' hname).mpr ⟨t₁', hmake', hshort, fun hdir => hfree ?_⟩
  -- a directory is not made in the one tree only
  rcases (made_of_makeDirectories hhere' hmake').stages _ hdir with hthere | ⟨k, hk⟩
  · exact hmade.grows.directory _ (hg'.directory _ hthere)
  · rw [hk]
    exact hmade.passable.stage k

/-- The place of a report file in a directory. -/
def place (here : Location) (dir : String) (f : ReportFile) : Location :=
  goal here dir ++ [f.name]

lemma place_injective {f g : ReportFile} (h : place here dir f = place here dir g) : f = g :=
  ReportFile.name_injective (List.singleton_inj.mp (List.append_cancel_left h))

/-- In the one tree report files hold some of their texts, and apart from them it is the other. -/
structure Written (texts : ReportFile → String → Prop) (here : Location) (dir : String)
    (fs : List ReportFile) (t t' : FileTree) : Prop where
  text : ∀ f ∈ fs, ∃ text, texts f text ∧
    t'.item? (place here dir f) = some (.file text.toUTF8)
  other : ∀ l, (∀ f ∈ fs, l ≠ place here dir f) → t'.item? l = t.item? l

/-- One more file, written before the others. -/
lemma Written.cons {texts : ReportFile → String → Prop} {fs : List ReportFile} {f : ReportFile}
    {text : String} {t₂ t' : FileTree}
    (hput : ∀ l, t₂.item? l =
      if l = place here dir f then some (.file text.toUTF8) else t₁.item? l)
    (hnew : f ∉ fs) (htext : texts f text) (h : Written texts here dir fs t₂ t') :
    Written texts here dir (f :: fs) t₁ t' where
  text := by
    have hne : ∀ g ∈ fs, place here dir f ≠ place here dir g := by
      rintro g hg heq
      obtain rfl := place_injective heq
      exact hnew hg
    refine List.forall_mem_cons.mpr ⟨⟨text, htext, ?_⟩, h.text⟩
    rw [h.other _ hne, hput, if_pos rfl]
  other := by
    intro l hl
    obtain ⟨hfirst, hrest⟩ := List.forall_mem_cons.mp hl
    rw [h.other l hrest, hput, if_neg hfirst]

end FileTree

namespace Host

variable {σ : Type} {h : Host (StateM σ)} {files : σ → FileTree} {here : Location} {dir : String}
  {r : Report} {cycle : Cycle} {fs : List ReportFile} {s : σ} {t₁ : FileTree}

/-- The texts of a report file, one for each time. -/
def textsOf (r : Report) (cycle : Cycle) (f : ReportFile) (text : String) : Prop :=
  ∃ time, text = f.text r time cycle.id

/-- One file: it is written, or the tree has no room for it. -/
lemma writeFile_of_made (hh : h.ActsOn files here) (hhere : (files s).item? here = some .directory)
    (hmake : (files s).makeDirectories here dir = .ok t₁) (f : ReportFile) :
    (t₁.Fits here dir f.name ∧ (h.writeFile dir r cycle f s).1 = .ok (Path.join dir f.name) ∧
      ∃ text, textsOf r cycle f text ∧ files (h.writeFile dir r cycle f s).2 =
        FileTree.putAt (.file text.toUTF8) t₁ (FileTree.place here dir f)) ∨
    ¬t₁.Fits here dir f.name ∧ ∃ e, (h.writeFile dir r cycle f s).1 = .error e := by
  obtain ⟨hok, hfiles⟩ := (hh.makeDirectories dir).ok hmake
  have hmade := FileTree.made_of_makeDirectories hhere hmake
  have haccepted := (FileTree.makeDirectories_eq_ok_iff.mp hmake).1
  have hnow := hh.now (h.makeDirectories dir s).2
  simp only [writeFile, bind_apply, hok]
  generalize (h.makeDirectories dir s).2 = s₁ at hfiles hnow ⊢
  generalize htime : (h.now s₁).1 = time
  generalize (h.now s₁).2 = s₂ at hnow ⊢
  rw [hfiles] at hnow
  have hchange := hh.write (Path.join dir f.name) (f.text r time cycle.id)
  cases hwrite : t₁.write here (Path.join dir f.name) (f.text r time cycle.id) with
  | error e =>
      have herror := (hchange.error (hnow ▸ hwrite)).1
      refine Or.inr ⟨fun hfits => ?_, ?_⟩
      · rw [(FileTree.write_eq_ok_iff_fits hmade haccepted f.isName).mpr ⟨hfits, rfl⟩] at hwrite
        cases hwrite
      · exact ⟨_, by simp only [herror]; rfl⟩
  | ok t₂ =>
      obtain ⟨hdone, hafter⟩ := hchange.ok (hnow ▸ hwrite)
      obtain ⟨hfits, rfl⟩ :=
        (FileTree.write_eq_ok_iff_fits hmade haccepted f.isName).mp hwrite
      refine Or.inl ⟨hfits, by simp only [hdone]; rfl, _, ⟨time, rfl⟩, ?_⟩
      simp only [hdone]
      exact hafter

/-- Several files in a directory that has been made: all are written, or there is no room for one of
them. -/
lemma writeFiles_of_made (hh : h.ActsOn files here)
    (hhere : (files s).item? here = some .directory)
    (hmake : (files s).makeDirectories here dir = .ok t₁) (hfs : fs.Nodup)
    (hnil : fs = [] → files s = t₁) :
    ((∀ f ∈ fs, t₁.Fits here dir f.name) ∧
      (h.writeFiles dir r cycle fs s).1 = .ok (fs.map fun f => Path.join dir f.name) ∧
      FileTree.Written (textsOf r cycle) here dir fs t₁ (files (h.writeFiles dir r cycle fs s).2) ∧
      (t₁.WellFormed → (files (h.writeFiles dir r cycle fs s).2).WellFormed)) ∨
    (¬∀ f ∈ fs, t₁.Fits here dir f.name) ∧
      ∃ e, (h.writeFiles dir r cycle fs s).1 = .error e := by
  induction fs generalizing s t₁ with
  | nil =>
      obtain rfl := hnil rfl
      exact Or.inl ⟨by simp, rfl, ⟨by simp, fun _ _ => rfl⟩, id⟩
  | cons f fs ih =>
      obtain ⟨hnew, hfs⟩ := List.nodup_cons.mp hfs
      have hmade := FileTree.made_of_makeDirectories hhere hmake
      have haccepted := (FileTree.makeDirectories_eq_ok_iff.mp hmake).1
      rcases writeFile_of_made hh hhere hmake f with
        ⟨hfits, hok, text, htext, hfiles⟩ | ⟨hno, e, he⟩
      · have hparent : t₁.item? (goal here dir) = some .directory := hmade.passable.target
        have hdirs : ∀ {l}, (FileTree.putAt (.file text.toUTF8) t₁
            (FileTree.place here dir f)).item? l = some .directory ↔
              t₁.item? l = some .directory :=
          FileTree.item?_putAt_file_eq_directory_iff text.toUTF8 hparent hfits.free
        have hput : ∀ l, (FileTree.putAt (.file text.toUTF8) t₁
            (FileTree.place here dir f)).item? l =
              if l = FileTree.place here dir f then some (.file text.toUTF8) else t₁.item? l :=
          FileTree.item?_putAt_file text.toUTF8 hparent hfits.free
        set s₁ := (h.writeFile dir r cycle f s).2
        set t₂ := FileTree.putAt (.file text.toUTF8) t₁ (FileTree.place here dir f)
        have hroom : ∀ g : ReportFile, t₂.Fits here dir g.name ↔ t₁.Fits here dir g.name := fun g =>
          ⟨fun hg => ⟨hg.short, fun hd => hg.free (hdirs.mpr hd)⟩,
            fun hg => ⟨hg.short, fun hd => hg.free (hdirs.mp hd)⟩⟩
        have hprepared : t₂.makeDirectories here dir = .ok t₂ :=
          FileTree.makeDirectories_eq_ok_iff.mpr
            ⟨haccepted, (hmade.passable.mono fun _ => hdirs.mpr).makeFrom⟩
        have hhere₂ : t₂.item? here = some .directory :=
          hdirs.mpr (hmade.grows.directory _ hhere)
        rw [← hfiles] at hprepared hhere₂
        have hrest := ih hhere₂ hprepared hfs fun _ => rfl
        have hunfold : h.writeFiles dir r cycle (f :: fs) s =
            ((h.writeFiles dir r cycle fs s₁).1.map (Path.join dir f.name :: ·),
              (h.writeFiles dir r cycle fs s₁).2) := by
          simp only [writeFiles, bind_apply, hok]
          rfl
        rw [hunfold]
        rcases hrest with ⟨hall, hdone, hwritten, hwf⟩ | ⟨hno, e, he⟩
        · rw [hfiles] at hall hwritten hwf
          refine Or.inl ⟨List.forall_mem_cons.mpr ⟨hfits, fun g hg => (hroom g).mp (hall g hg)⟩,
            by simp only [hdone]; rfl, hwritten.cons hput hnew htext, fun hwf₁ => hwf ?_⟩
          exact hwf₁.putAt (.file _) f.isName hparent
        · rw [hfiles] at hno
          refine Or.inr ⟨fun hall => hno fun g hg => (hroom g).mpr ?_, e, by simp only [he]; rfl⟩
          exact hall g (List.mem_cons_of_mem _ hg)
      · refine Or.inr ⟨fun hall => hno (hall f List.mem_cons_self), e, ?_⟩
        simp only [writeFiles, bind_apply, he]
        rfl

/-- **Writing a report**: the files are written into the directory, which is made first, or else one
of them cannot be written where none has been. -/
theorem writeFiles_cases (hh : h.ActsOn files here)
    (hhere : (files s).item? here = some .directory) (hfs : fs.Nodup) (hne : fs ≠ []) :
    (∃ t₁, (files s).makeDirectories here dir = .ok t₁ ∧ (∀ f ∈ fs, t₁.Fits here dir f.name) ∧
      (h.writeFiles dir r cycle fs s).1 = .ok (fs.map fun f => Path.join dir f.name) ∧
      FileTree.Written (textsOf r cycle) here dir fs t₁ (files (h.writeFiles dir r cycle fs s).2) ∧
      (t₁.WellFormed → (files (h.writeFiles dir r cycle fs s).2).WellFormed)) ∨
    (∃ f ∈ fs, ¬(files s).CanWrite here dir f.name) ∧
      ∃ e, (h.writeFiles dir r cycle fs s).1 = .error e := by
  cases hmake : (files s).makeDirectories here dir with
  | error e =>
      obtain ⟨f, rest, rfl⟩ := List.exists_cons_of_ne_nil hne
      have herror := ((hh.makeDirectories dir).error hmake).1
      refine Or.inr ⟨⟨f, List.mem_cons_self, ?_⟩, .unwritten f dir e, ?_⟩
      · rintro ⟨t₁, -, hok, -⟩
        rw [hmake] at hok
        cases hok
      · simp only [writeFiles, writeFile, bind_apply, herror]
        rfl
  | ok t₁ =>
      rcases writeFiles_of_made hh hhere hmake hfs fun hnil => absurd hnil hne with
        hwritten | ⟨hno, hfailed⟩
      · exact Or.inl ⟨t₁, rfl, hwritten⟩
      · refine Or.inr ⟨?_, hfailed⟩
        push Not at hno
        obtain ⟨f, hf, hfits⟩ := hno
        refine ⟨f, hf, fun hcan => hfits ?_⟩
        obtain ⟨t₁', hmake', hfits'⟩ := (FileTree.canWrite_iff hhere f.isName).mp hcan
        rw [hmake] at hmake'
        exact Except.ok.inj hmake' ▸ hfits'

end Host

end Census
