/-
What a validation finds in a tree of files, and what it does to the tree.

* `Ruleset.validation`: what is found in a submission;
* `Host.validate_of_error`, `validate_of_fault`, `validate_of_unwritten`, `validate_of_written`: how
  a validation ends, and what the tree is then;
* `FileTree.Serves`: a tree has a cycle's tables and room for the report;
* `FileTree.Serves.grows`: trees that differ in the files of the report serve alike;
* `Host.Confined`, `validate_confined`: nothing is changed before a report is written, and then its
  files only; they make no difference to another validation.
-/
import Census.Proofs.Loading
import Census.Proofs.Registry
import Census.Proofs.Run.Interleaving
import Census.Proofs.Writing

namespace Census

open FileTree (Location goal place walk startOf)

/-- What is found in a submission by the rules of a cycle that a request selects, where the report
is written as the request says. -/
def Ruleset.validation (r : Ruleset) (q : Request) (processors : ℕ) (d : Submission) :
    Validation :=
  let ledger := r.registry.run ⟨q.jobs, processors⟩ q.selection d
  { cycle := r.cycle
    tables := d.tables.entries.map fun e => (e.1, e.2.height)
    executed := ledger.executed
    report := Report.compile ledger
    written := q.format.files.map fun f => Path.join q.outputDirectory f.name }

/-- What is found does not depend on the number of processors. -/
lemma Ruleset.validation_processors (r : Ruleset) (q : Request) (n n' : ℕ) (d : Submission) :
    r.validation q n d = r.validation q n' d := by
  rw [validation, validation, Registry.run_options r.registry ⟨q.jobs, n⟩ ⟨q.jobs, n'⟩]

/-! ### The stages of a validation -/

namespace Host

variable {σ : Type} {h : Host (StateM σ)} {files : σ → FileTree} {here : Location}
  {p : Publications} {q : Request} {r : Ruleset} {d : Submission} {s : σ}

/-- The surroundings of a validation: its events are logged inside its span. -/
def validating (h : Host (StateM σ)) (r : Ruleset) : Host (StateM σ) :=
  h.within ⟨"validate", [textField "cycle" r.cycle.id]⟩

lemma run_fst (r : Registry) (jobs : ℕ) (selection : Option (List String)) (d : Submission)
    (s : σ) : (h.run r jobs selection d s).1 = r.run ⟨jobs, h.processors⟩ selection d :=
  rfl

/-- What the tables of a request are loaded into, and the state after that. -/
def loadStage (h : Host (StateM σ)) (r : Ruleset) (q : Request) (s : σ) : Loading × σ :=
  (h.validating r).load q.dataDirectory ((h.validating r).clock s).2

/-- The state after the rules of a request have been run. -/
def runStage (h : Host (StateM σ)) (r : Ruleset) (q : Request) (d : Submission) (s : σ) : σ :=
  ((h.validating r).run r.registry q.jobs q.selection d (h.loadStage r q s).2).2

/-- The paths of the files written, and the state after that. -/
def writeStage (h : Host (StateM σ)) (r : Ruleset) (q : Request) (d : Submission) (s : σ) :
    Except ValidationError (List String) × σ :=
  let ledger := r.registry.run ⟨q.jobs, (h.validating r).processors⟩ q.selection d
  (h.validating r).writeFiles q.outputDirectory (Report.compile ledger) r.cycle q.format.files
    (h.runStage r q d s)

lemma validate_of_error {cause : RegistryError} (hr : p.ruleset q.cycle = .error cause) :
    h.validate p q s = (.error (.unresolved q.cycle cause), s) := by
  rw [validate, hr]
  rfl

lemma validate_of_fault {fault : LoadFault} (hr : p.ruleset q.cycle = .ok r)
    (hl : (h.loadStage r q s).1.submission = .error fault) :
    h.validate p q s = (.error (.unloaded fault), (h.loadStage r q s).2) := by
  rw [loadStage, validating] at *
  rw [validate, hr]
  simp only [bind_apply, hl]
  rfl

lemma validate_of_unwritten {e : ValidationError} (hr : p.ruleset q.cycle = .ok r)
    (hl : (h.loadStage r q s).1.submission = .ok d) (hw : (h.writeStage r q d s).1 = .error e) :
    h.validate p q s = (.error e, (h.writeStage r q d s).2) := by
  rw [writeStage, runStage, loadStage, validating] at *
  rw [validate, hr]
  simp only [bind_apply, hl, run_fst]
  rw [hw]
  rfl

/-- The end of a validation is logged. -/
lemma validate_of_written {written : List String} (hr : p.ruleset q.cycle = .ok r)
    (hl : (h.loadStage r q s).1.submission = .ok d)
    (hw : (h.writeStage r q d s).1 = .ok written) :
    (h.validate p q s).1 = .ok { r.validation q h.processors d with written := written } ∧
      ∃ e, (h.validate p q s).2 =
        ((h.validating r).log e ((h.validating r).clock (h.writeStage r q d s).2).2).2 := by
  rw [writeStage, runStage, loadStage, validating] at *
  rw [validate, hr]
  simp only [bind_apply, hl, run_fst]
  rw [hw]
  exact ⟨rfl, _, rfl⟩

/-- Running rules changes the files by what is logged only. -/
lemma ActsOn.run_preserves {P : FileTree → Prop} (hh : h.ActsOn files here)
    (hlog : ∀ e, Preserves files P (h.log e)) (r : Registry) (jobs : ℕ)
    (selection : Option (List String)) (d : Submission) :
    Preserves files P (h.run r jobs selection d) :=
  hh.clock.preserves.bind fun _ => hh.clock.preserves.bind fun _ =>
    (preserves_logAll hlog _).bind fun _ => preserves_pure _

lemma ActsOn.validating (hh : h.ActsOn files here) (r : Ruleset) :
    (h.validating r).ActsOn files here :=
  hh.within _

lemma preserves_log_validating {P : FileTree → Prop} (hlog : ∀ e, Preserves files P (h.log e))
    (r : Ruleset) : ∀ e, Preserves files P ((h.validating r).log e) :=
  fun _ => hlog _

/-- Nothing is written before the tables are loaded and the rules are run. -/
lemma stages_keep (hh : h.ActsOn files here) (hlog : ∀ e, Keeps files (h.log e)) (r : Ruleset)
    (q : Request) (d : Submission) (s : σ) :
    (h.loadStage r q s).1 = (files s).loading here q.dataDirectory ∧
      files (h.loadStage r q s).2 = files s ∧ files (h.runStage r q d s) = files s := by
  have hlog' : ∀ e, Keeps files ((h.validating r).log e) := fun e => hlog _
  have hclock : files ((h.validating r).clock s).2 = files s := hh.clock s
  obtain ⟨hvalue, hkept⟩ :=
    (hh.validating r).load hlog' q.dataDirectory ((h.validating r).clock s).2
  rw [hclock] at hvalue hkept
  refine ⟨hvalue, hkept, ?_⟩
  exact (hh.validating r).run_preserves (P := (· = files s)) (fun e => (hlog' e).preserves) _ _ _ _
    _ hkept

end Host

/-! ### Trees that serve a request -/

/-- A tree has what a request needs: the tables can be loaded, and in the directory of the report,
once it is made, there is room for its files. -/
structure FileTree.Serves (t t₁ : FileTree) (here : Location) (p : Publications) (q : Request)
    (r : Ruleset) (d : Submission) : Prop where
  ruleset : p.ruleset q.cycle = .ok r
  loaded : (t.loading here q.dataDirectory).submission = .ok d
  made : t.makeDirectories here q.outputDirectory = .ok t₁
  fits : ∀ f ∈ q.format.files, t₁.Fits here q.outputDirectory f.name

/-- The places of the files of a report. -/
def Request.places (q : Request) (here : Location) : Set Location :=
  {l | ∃ f ∈ q.format.files, l = place here q.outputDirectory f}

namespace FileTree.Serves

variable {t t₁ t' : FileTree} {here : Location} {p : Publications} {q : Request} {r : Ruleset}
  {d : Submission}

/-- No directory is in the place of a file of the report. -/
lemma no_directory (h : t.Serves t₁ here p q r d) :
    ∀ l ∈ q.places here, t₁.item? l ≠ some .directory := by
  rintro l ⟨f, hf, rfl⟩
  exact (h.fits f hf).free

/-- **Independence of the report files**: what a tree serves for, one with more directories and
other report files serves for, unless the tables are beside them. -/
lemma grows (h : t.Serves t₁ here p q r d) (hwf : t.WellFormed) (hwf' : t'.WellFormed)
    (hhere : t.item? here = some .directory)
    (hne : goal here q.outputDirectory ≠ goal here q.dataDirectory)
    (hg : Grows (q.places here) t t') : ∃ t₁', t'.Serves t₁' here p q r d := by
  have hsame : SameFiles here q.dataDirectory t t' := by
    refine sameFiles_of_isDirectory hwf hwf' (isDirectory_of_loading h.loaded) hg.directory
      fun name => hg.file_iff _ ?_
    rintro ⟨f, -, heq⟩
    exact hne (List.append_inj_left' heq rfl).symm
  obtain ⟨t₁', hmade, hgrows⟩ := hg.makeDirectories hhere h.made h.no_directory
  refine ⟨t₁', h.ruleset, hsame.loading_eq ▸ h.loaded, hmade, fun f hf => ⟨(h.fits f hf).short, ?_⟩⟩
  exact hgrows.no_directory _ ⟨f, hf, rfl⟩

end FileTree.Serves

/-- Files hold the texts of a report, each as written at some time. -/
def FileTree.HoldsReport (t : FileTree) (here : Location) (q : Request) (v : Validation) : Prop :=
  ∀ f ∈ q.format.files, ∃ time, t.item? (place here q.outputDirectory f) =
    some (.file (f.text v.report time v.cycle.id).toUTF8)

/-! ### How a validation ends -/

namespace Host

variable {σ : Type} {h : Host (StateM σ)} {files : σ → FileTree} {here : Location}
  {p : Publications} {q : Request} {r : Ruleset} {d : Submission} {s : σ} {t₁ : FileTree}

/-- The report of a validation is written, or one of its files cannot be written. -/
lemma writeStage_cases (hh : h.ActsOn files here)
    (hhere : (files (h.runStage r q d s)).item? here = some .directory) :
    (∃ t₁, (files (h.runStage r q d s)).makeDirectories here q.outputDirectory = .ok t₁ ∧
      (∀ f ∈ q.format.files, t₁.Fits here q.outputDirectory f.name) ∧
      (h.writeStage r q d s).1 = .ok (r.validation q h.processors d).written ∧
      FileTree.Written (textsOf (r.validation q h.processors d).report r.cycle) here
        q.outputDirectory q.format.files t₁ (files (h.writeStage r q d s).2) ∧
      (t₁.WellFormed → (files (h.writeStage r q d s).2).WellFormed)) ∨
    (∃ f ∈ q.format.files,
        ¬(files (h.runStage r q d s)).CanWrite here q.outputDirectory f.name) ∧
      ∃ e, (h.writeStage r q d s).1 = .error e :=
  writeFiles_cases (hh.validating r) hhere q.format.nodup_files q.format.files_ne_nil

/-- For a request that a tree serves something is found, and then the files of the report hold it
and are all that has changed since the directory was made. -/
lemma validate_of_serves (hh : h.ActsOn files here) (hlog : ∀ e, Keeps files (h.log e))
    (hhere : (files s).item? here = some .directory) (hs : (files s).Serves t₁ here p q r d) :
    (h.validate p q s).1 = .ok (r.validation q h.processors d) ∧
      (files (h.validate p q s).2).HoldsReport here q (r.validation q h.processors d) ∧
      (∀ l ∉ q.places here, (files (h.validate p q s).2).item? l = t₁.item? l) ∧
      (t₁.WellFormed → (files (h.validate p q s).2).WellFormed) := by
  obtain ⟨hloading, -, hran⟩ := stages_keep hh hlog r q d s
  have hl : (h.loadStage r q s).1.submission = .ok d := hloading ▸ hs.loaded
  have hcases := writeStage_cases (r := r) (q := q) (d := d) (s := s) hh (hran ▸ hhere)
  rw [hran] at hcases
  rcases hcases with ⟨t₁', hmade, -, hok, hwritten, hwf⟩ | ⟨⟨f, hf, hno⟩, -⟩
  · obtain rfl : t₁' = t₁ := Except.ok.inj (hmade.symm.trans hs.made)
    obtain ⟨hresult, e, hfinal⟩ := validate_of_written hs.ruleset hl hok
    have hfiles : files (h.validate p q s).2 = files (h.writeStage r q d s).2 := by
      rw [hfinal]
      exact (hlog _ _).trans (hh.clock _)
    rw [hfiles]
    refine ⟨hresult, fun f hf => ?_, fun l hl => ?_, hwf⟩
    · obtain ⟨text, ⟨time, rfl⟩, hitem⟩ := hwritten.text f hf
      exact ⟨time, hitem⟩
    · exact hwritten.other l fun f hf heq => hl ⟨f, hf, heq⟩
  · exact absurd ((FileTree.canWrite_iff hhere f.isName).mpr ⟨t₁, hs.made, hs.fits f hf⟩) hno

/-- Where something is found, the tree has served the request. -/
lemma exists_serves (hh : h.ActsOn files here) (hlog : ∀ e, Keeps files (h.log e))
    (hhere : (files s).item? here = some .directory) {v : Validation}
    (hv : (h.validate p q s).1 = .ok v) : ∃ t₁ r d, (files s).Serves t₁ here p q r d := by
  cases hr : p.ruleset q.cycle with
  | error cause =>
      rw [validate_of_error hr] at hv
      cases hv
  | ok r =>
      cases hl : (h.loadStage r q s).1.submission with
      | error fault =>
          rw [validate_of_fault hr hl] at hv
          cases hv
      | ok d =>
          obtain ⟨hloading, -, hran⟩ := stages_keep hh hlog r q d s
          have hcases := writeStage_cases (r := r) (q := q) (d := d) (s := s) hh (hran ▸ hhere)
          rw [hran] at hcases
          rcases hcases with ⟨t₁, hmade, hfits, -⟩ | ⟨-, e, he⟩
          · exact ⟨t₁, r, d, hr, hloading ▸ hl, hmade, hfits⟩
          · rw [validate_of_unwritten hr hl he] at hv
            cases hv

/-- What is found in a tree is found in one with more directories and other files of the report, in
whatever surroundings. -/
lemma validate_of_grows {τ : Type} {h' : Host (StateM τ)} {files' : τ → FileTree} {s' : τ}
    {v : Validation} (hh : h.ActsOn files here) (hlog : ∀ e, Keeps files (h.log e))
    (hwf : (files s).WellFormed) (hhere : (files s).item? here = some .directory)
    (hv : (h.validate p q s).1 = .ok v)
    (hne : goal here q.outputDirectory ≠ goal here q.dataDirectory)
    (hh' : h'.ActsOn files' here) (hlog' : ∀ e, Keeps files' (h'.log e))
    (hwf' : (files' s').WellFormed)
    (hgrows : FileTree.Grows (q.places here) (files s) (files' s')) :
    (h'.validate p q s').1 = .ok v ∧ (files' (h'.validate p q s').2).HoldsReport here q v := by
  obtain ⟨t₁, r, d, hs⟩ := exists_serves hh hlog hhere hv
  obtain ⟨t₁', hs'⟩ := hs.grows hwf hwf' hhere hne hgrows
  obtain ⟨hfound, -⟩ := validate_of_serves hh hlog hhere hs
  obtain ⟨hfound', hholds, -⟩ := validate_of_serves hh' hlog' (hgrows.directory _ hhere) hs'
  obtain rfl := Except.ok.inj (hfound.symm.trans hv)
  rw [r.validation_processors q h.processors h'.processors d]
  exact ⟨hfound', hholds⟩

/-- What a validation does to the files, and how the files of its report bear on another one.  The
other one can have other surroundings. -/
structure Confined (h : Host (StateM σ)) (files : σ → FileTree) (here : Location)
    (p : Publications) (q : Request) (s : σ) : Prop where
  /-- For a cycle that is malformed or not published nothing is done. -/
  unresolved : ∀ cause, p.ruleset q.cycle = .error cause →
    (h.validate p q s).1 = .error (.unresolved q.cycle cause) ∧
      files (h.validate p q s).2 = files s
  /-- For tables that cannot be loaded nothing is done either. -/
  unloaded : ∀ r fault, p.ruleset q.cycle = .ok r →
    (h.load q.dataDirectory s).1.submission = .error fault →
    (h.validate p q s).1 = .error (.unloaded fault) ∧ files (h.validate p q s).2 = files s
  /-- The files of the format are written in order. -/
  written : ∀ v, (h.validate p q s).1 = .ok v →
    v.written = q.format.files.map (fun f => Path.join q.outputDirectory f.name) ∧
      (files (h.validate p q s).2).HoldsReport here q v
  /-- Everything else is as it was, except for directories that are made on the way. -/
  others : ∀ v, (h.validate p q s).1 = .ok v → ∀ l ∉ q.places here,
    (files (h.validate p q s).2).item? l = (files s).item? l ∨
      (files s).item? l = none ∧ (files (h.validate p q s).2).item? l = some .directory ∧
        ∃ k, l = walk (startOf here q.outputDirectory) ((Path.steps q.outputDirectory).take k)
  /-- Beside other tables, the files of the report can have held anything. -/
  independent : ∀ v, (h.validate p q s).1 = .ok v →
    goal here q.outputDirectory ≠ goal here q.dataDirectory →
    ∀ (τ : Type) (h' : Host (StateM τ)) (files' : τ → FileTree) (s' : τ), h'.ActsOn files' here →
      (∀ e, Keeps files' (h'.log e)) → (files' s').WellFormed →
      (∀ l ∉ q.places here, (files' s').item? l = (files s).item? l) →
      (∀ l ∈ q.places here, (files' s').item? l ≠ some .directory) →
      (h'.validate p q s').1 = .ok v ∧ (files' (h'.validate p q s').2).HoldsReport here q v
  /-- The same request again finds the same and writes the same. -/
  again : ∀ v, (h.validate p q s).1 = .ok v →
    goal here q.outputDirectory ≠ goal here q.dataDirectory →
    ∀ (τ : Type) (h' : Host (StateM τ)) (files' : τ → FileTree) (s' : τ), h'.ActsOn files' here →
      (∀ e, Keeps files' (h'.log e)) → files' s' = files (h.validate p q s).2 →
      (h'.validate p q s').1 = .ok v ∧ (files' (h'.validate p q s').2).HoldsReport here q v

/-- **Effects of a validation**: nothing is changed unless the cycle is published and its tables can
be loaded; when something is found, the files of the report hold it, and of the rest nothing has
changed but directories made on the way to them.  In a directory other than that of the tables,
these files make no difference to what is found later. -/
theorem validate_confined (hh : h.ActsOn files here) (hlog : ∀ e, Keeps files (h.log e))
    (hwf : (files s).WellFormed) (hhere : (files s).item? here = some .directory)
    (p : Publications) (q : Request) : h.Confined files here p q s := by
  refine ⟨fun cause hr => ?_, fun r fault hr hl => ?_, fun v hv => ?_, fun v hv l hl => ?_,
    fun v hv hne τ h' files' s' hh' hlog' hwf' hagree hno => ?_,
    fun v hv hne τ h' files' s' hh' hlog' hsame => ?_⟩
  · rw [validate_of_error hr]
    exact ⟨rfl, rfl⟩
  · have hloading : (h.load q.dataDirectory s).1 = (files s).loading here q.dataDirectory :=
      (hh.load hlog q.dataDirectory s).1
    obtain ⟨hvalue, hkept, -⟩ := stages_keep hh hlog r q .empty s
    rw [hloading, ← hvalue] at hl
    rw [validate_of_fault hr hl]
    exact ⟨rfl, hkept⟩
  · obtain ⟨t₁, r, d, hs⟩ := exists_serves hh hlog hhere hv
    obtain ⟨hfound, hholds, -⟩ := validate_of_serves hh hlog hhere hs
    obtain rfl := Except.ok.inj (hfound.symm.trans hv)
    exact ⟨rfl, hholds⟩
  · obtain ⟨t₁, r, d, hs⟩ := exists_serves hh hlog hhere hv
    obtain ⟨-, -, hrest, -⟩ := validate_of_serves hh hlog hhere hs
    rw [hrest l hl]
    exact (FileTree.made_of_makeDirectories hhere hs.made).item?_eq l
  · obtain ⟨t₁, r, d, hs⟩ := exists_serves hh hlog hhere hv
    have hmade := FileTree.made_of_makeDirectories hhere hs.made
    refine validate_of_grows hh hlog hwf hhere hv hne hh' hlog' hwf'
      (.of_agree hagree (fun l hl hdir => ?_) hno)
    exact hs.no_directory l hl (hmade.grows.directory l hdir)
  · obtain ⟨t₁, r, d, hs⟩ := exists_serves hh hlog hhere hv
    have hmade := FileTree.made_of_makeDirectories hhere hs.made
    obtain ⟨-, hholds, hrest, hwf₁⟩ := validate_of_serves hh hlog hhere hs
    refine validate_of_grows hh hlog hwf hhere hv hne hh' hlog' ?_ ?_
    · rw [hsame]
      exact hwf₁ (hwf.makeDirectories hhere hs.made)
    · rw [hsame]
      refine (hmade.grows.mono hs.no_directory).trans (.of_agree hrest hs.no_directory ?_)
      rintro l ⟨f, hf, rfl⟩ hdir
      obtain ⟨time, hitem⟩ := hholds f hf
      rw [hitem] at hdir
      cases hdir

end Host

/-! ### A report inside the data -/

/-- The directory of a report that is not given is another one than that of the tables. -/
lemma FileTree.goal_output_ne (here : Location) (dir : String) :
    goal here (Path.join dir "output") ≠ goal here dir := by
  rw [goal_join (by decide)]
  exact fun heq => List.cons_ne_nil _ _ (List.append_right_eq_self.mp heq)

/-- A cycle of two rules, published alone. -/
def Publications.mixed : Publications :=
  (Publications.start .strict).add ⟨⟨"2023"⟩, none, mixedRegistry⟩

/-- A request for the report of a directory inside it, in all formats. -/
def Request.inside : Request :=
  ⟨"d", "2023", [], Path.join "d" "output", .both, 0⟩

lemma FileTree.remote_loading {content : ByteArray} {table : Table}
    (hread : Csv.read? content = some table) :
    ((remote "schools.csv" content).loading [] "d").submission =
      .ok (Submission.ofList [("schools", table)]) := by
  have hdir : (remote "schools.csv" content).isDirectory [] "d" = true := rfl
  have hfile : (remote "schools.csv" content).isFile [] (Path.join "d" "schools.csv") = true := rfl
  have hfind : (remote "schools.csv" content).find? [] "d" =
      some (.directory [("schools.csv", .file content)]) := rfl
  have hnames : (remote "schools.csv" content).fileNames [] "d" = ["schools.csv"] := by
    rw [fileNames, hfind]
    show ["schools.csv"].filter _ = _
    rw [List.filter_singleton, hfile]
    rfl
  have hcsv : csvNames ["schools.csv"] = ["schools.csv"] := by
    have hcounts : Path.isCsv "schools.csv" = true := by decide
    rw [csvNames, List.filter_singleton, hcounts]
    exact List.mergeSort_singleton ..
  have htable : Loading.readTable
      (fun name => (remote "schools.csv" content).read? [] (Path.join "d" name)) "schools"
        "schools.csv" = some table := hread
  rw [loading, if_pos hdir, hnames, hcsv, Loading.gather_cons_of_read (by decide)
    List.not_mem_nil htable]
  rfl

lemma FileTree.remote_serves {content : ByteArray} {table : Table}
    (hread : Csv.read? content = some table) :
    ∃ t₁, (remote "schools.csv" content).Serves t₁ [] .mixed .inside ⟨⟨"2023"⟩, none, mixedRegistry⟩
      (Submission.ofList [("schools", table)]) := by
  refine ⟨.directory [("d", .directory [("schools.csv", .file content),
    ("output", .directory [])])], rfl, remote_loading hread, rfl, ?_⟩
  intro f _
  cases f <;> exact ⟨by decide, fun h => nomatch h⟩

theorem Host.validate_confined_remote :
    ∃ content v, let t := FileTree.remote "schools.csv" content
      t.WellFormed ∧ t.item? [] = some .directory ∧
      (onTree "" []).Confined id [] .mixed .inside t ∧
      ((onTree "" []).validate .mixed .inside t).1 = .ok v ∧
      goal [] Request.inside.outputDirectory ≠ goal [] Request.inside.dataDirectory := by
  have hheadings : Csv.Headings ["a", "b"] :=
    ⟨by decide, by decide, by decide, 'a', [], ["b"], rfl, by decide, by decide⟩
  have hrows : ∀ row ∈ [["1", "2"]], row.length = ["a", "b"].length := by decide
  have hread := Csv.read?_write hheadings hrows
  generalize (Csv.write (["a", "b"] :: [["1", "2"]])).toUTF8 = content at hread
  obtain ⟨t₁, hs⟩ := FileTree.remote_serves hread
  have hname : Path.IsName "schools.csv" := by decide
  have hwf := FileTree.remote_wellFormed hname content
  exact ⟨content, _, hwf, rfl,
    validate_confined (actsOn_onTree "" []) (fun _ _ => rfl) hwf rfl .mixed .inside,
    (validate_of_serves (actsOn_onTree "" []) (fun _ _ => rfl) rfl hs).1,
    FileTree.goal_output_ne [] "d"⟩

end Census
