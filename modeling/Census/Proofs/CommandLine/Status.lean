/-
The exit status of a validation.

* `FileTree.ButLog`: trees that differ in the log only;
* `FileTree.butLog_of_append`: what is logged is all that logging changes;
* `Ruleset.FindsErrors`, `hasErrors_validation_iff`: when a report has errors;
* `Host.Fails`: what keeps a validation from its report;
* `Host.Exits`, `validation_status`: the exit status, for every command line that asks for a
  validation.
-/
import Census.Proofs.Catalog
import Census.Proofs.Compilation
import Census.Proofs.Validation

namespace Census

open CommandLine (Settings parse)
open FileTree (Location goal Grows SameFiles)

/-! ### Trees that differ in the log -/

namespace FileTree

variable {t t₁ t₂ : FileTree} {here l : Location} {log : Option Location} {path dir name : String}

/-- A tree differs from another one in the log only, which is a file. -/
structure ButLog (log : Option Location) (t t' : FileTree) : Prop where
  wf : t'.WellFormed
  file : ∀ l ∈ log, ∃ content, t'.item? l = some (.file content)
  other : ∀ l ∉ log, t'.item? l = t.item? l

/-- Adding to the log changes nothing else. -/
lemma butLog_of_append {text : String} (hwf : t₁.WellFormed)
    (hhere : t₁.item? here = some .directory) (hother : ∀ m, m ≠ l → t₁.item? m = t.item? m)
    (hl : t₁.fileLocation here path = .ok l) (happend : t₁.append here path text = .ok t₂) :
    ButLog (some l) t t₂ := by
  obtain ⟨l', hl', rfl⟩ := change_eq_ok_iff.mp happend
  obtain rfl : l = l' := Except.ok.inj (hl.symm.trans hl')
  obtain ⟨-, -, -, hfree⟩ := fileLocation_eq_ok_iff.mp hl
  obtain ⟨p, n, rfl, hparent, hname⟩ := exists_parent_of_fileLocation hhere hl
  refine ⟨hwf.putAt (.file _) hname hparent, fun m hm => ?_, fun m hm => ?_⟩
  · obtain rfl := Option.some.inj hm
    exact ⟨_, (item?_putAt_file _ hparent hfree _).trans (if_pos rfl)⟩
  · have hne : m ≠ p ++ [n] := fun heq => hm (congrArg some heq.symm)
    rw [item?_putAt_file _ hparent hfree, if_neg hne]
    exact hother m hne

namespace ButLog

/-- Two trees that differ from another one in the log differ from each other in the log. -/
lemma grows (h₁ : ButLog log t t₁) (h₂ : ButLog log t t₂) : Grows {l | l ∈ log} t₁ t₂ := by
  have hno : ∀ {t' : FileTree}, ButLog log t t' → ∀ l ∈ {l | l ∈ log},
      t'.item? l ≠ some .directory := by
    intro t' h l hl hdir
    obtain ⟨content, hitem⟩ := h.file l hl
    rw [hitem] at hdir
    cases hdir
  exact .of_agree (fun l hl => (h₂.other l hl).trans (h₁.other l hl).symm) (hno h₁) (hno h₂)

/-- There are the same directories. -/
lemma grows_base (h : ButLog log t t₁) (hfree : ∀ l ∈ log, t.item? l ≠ some .directory) :
    Grows {l | l ∈ log} t t₁ ∧ Grows {l | l ∈ log} t₁ t := by
  have hno : ∀ l ∈ {l | l ∈ log}, t₁.item? l ≠ some .directory := by
    intro l hl hdir
    obtain ⟨content, hitem⟩ := h.file l hl
    rw [hitem] at hdir
    cases hdir
  exact ⟨.of_agree h.other hfree hno, .of_agree (fun l hl => (h.other l hl).symm) hno hfree⟩

/-- Where the log is elsewhere, a directory holds the same files. -/
lemma sameFiles (h : ButLog log t t₁) (hwf : t.WellFormed)
    (hfree : ∀ l ∈ log, t.item? l ≠ some .directory)
    (hout : ∀ name, goal here dir ++ [name] ∉ log) : SameFiles here dir t t₁ := by
  obtain ⟨hg, hg'⟩ := h.grows_base hfree
  by_cases hdir : t.isDirectory here dir = true
  · refine sameFiles_of_isDirectory hwf h.wf hdir hg.directory fun name content => ?_
    rw [h.other _ (hout name)]
  · have hdir' : ¬t₁.isDirectory here dir = true := by
      intro hyes
      obtain ⟨hempty, haccepted, hpass⟩ := isDirectory_iff.mp hyes
      exact hdir (isDirectory_iff.mpr ⟨hempty, haccepted, hpass.mono hg'.directory⟩)
    refine ⟨?_, fun hyes => absurd hyes hdir, fun hyes => absurd hyes hdir⟩
    rw [Bool.eq_false_iff.mpr hdir, Bool.eq_false_iff.mpr hdir']

end ButLog

/-- A file can be written in both of two trees that differ in the log, or in neither. -/
lemma canWrite_congr (h₁ : ButLog log t t₁) (h₂ : ButLog log t t₂)
    (hhere₁ : t₁.item? here = some .directory) (hhere₂ : t₂.item? here = some .directory)
    (hname : Path.IsName name) : t₁.CanWrite here dir name ↔ t₂.CanWrite here dir name :=
  ⟨fun h => h.of_grows hhere₁ hname (h₁.grows h₂) (h₂.grows h₁) h₁.file,
    fun h => h.of_grows hhere₂ hname (h₂.grows h₁) (h₁.grows h₂) h₂.file⟩

end FileTree

/-! ### The log of a command -/

namespace CommandLine.Settings

/-- The place of the log. -/
def place? (st : Settings) (t : FileTree) (here : Location) : Option Location :=
  st.file.bind fun path => (t.fileLocation here path).toOption

/-- The tree with the log in its place, empty unless there was one. -/
def opened (st : Settings) (t : FileTree) (here : Location) : FileTree :=
  match st.file with
  | none => t
  | some path => (t.append here path "").toOption.getD t

end CommandLine.Settings

namespace Host

variable {σ : Type} {h : Host (StateM σ)} {files : σ → FileTree} {here : Location}
  {st : Settings} {s : σ}

/-- The surroundings after the log has been opened. -/
def opened (h : Host (StateM σ)) (st : Settings) (s : σ) : σ :=
  match st.file with
  | none => s
  | some path => (h.append path "" s).2

/-- The log of a command can be opened. -/
def CanLog (h : Host (StateM σ)) (st : Settings) (s : σ) : Prop :=
  ∀ path, st.file = some path → (h.append path "" s).1 = .ok ()

/-- Adding to a log keeps a tree but for the log as it was. -/
lemma preserves_append {t : FileTree} {l : Location} {path : String} (hh : h.ActsOn files here)
    (hhere : t.item? here = some .directory) (hl : t.fileLocation here path = .ok l)
    (line : String) : Preserves files (FileTree.ButLog (some l) t) (h.append path line) := by
  intro s hs
  obtain ⟨-, -, -, hfree⟩ := FileTree.fileLocation_eq_ok_iff.mp hl
  obtain ⟨hgrows, -⟩ := hs.grows_base fun m hm => Option.some.inj hm ▸ hfree
  cases happend : (files s).append here path line with
  | error e =>
      rw [((hh.append path line).error happend).2]
      exact hs
  | ok t' =>
      rw [((hh.append path line).ok happend).2]
      have hother : ∀ m, m ≠ l → (files s).item? m = t.item? m := fun m hm =>
        hs.other m fun hin => hm (Option.some.inj hin).symm
      refine FileTree.butLog_of_append hs.wf (hgrows.directory _ hhere) hother ?_ happend
      exact FileTree.fileLocation_mono hgrows.directory hl (hgrows.no_directory l rfl)

/-- **The log**: opening it and adding to it change nothing else, and it takes the place of no
directory. -/
lemma opened_spec (hh : h.ActsOn files here) (hwf : (files s).WellFormed)
    (hhere : (files s).item? here = some .directory) (hlog : h.CanLog st s) :
    files (h.opened st s) = st.opened (files s) here ∧
      FileTree.ButLog (st.place? (files s) here) (files s) (st.opened (files s) here) ∧
      (∀ l ∈ st.place? (files s) here, (files s).item? l ≠ some .directory) ∧
      ∀ e, Preserves files (FileTree.ButLog (st.place? (files s) here) (files s))
        ((h.logging st).log e) := by
  rw [CanLog] at hlog
  obtain ⟨threshold, format, file⟩ := st
  cases file with
  | none =>
      refine ⟨rfl, ⟨hwf, (fun _ hl => nomatch hl), fun _ _ => rfl⟩, (fun _ hl => nomatch hl),
        fun e => ?_⟩
      refine hh.now.preserves.bind fun now => ?_
      cases e.line? threshold format now with
      | none => exact preserves_pure _
      | some line => exact (hh.remark line).preserves
  | some path =>
      cases happend : (files s).append here path "" with
      | error e =>
          have herror := ((hh.append path "").error happend).1
          rw [hlog path rfl] at herror
          cases herror
      | ok t' =>
          obtain ⟨l, hl, -⟩ := FileTree.change_eq_ok_iff.mp happend
          obtain ⟨-, -, -, hfree⟩ := FileTree.fileLocation_eq_ok_iff.mp hl
          have hplace : (Settings.mk threshold format (some path)).place? (files s) here =
              some l := by
            rw [Settings.place?, Option.bind_some, hl]
            rfl
          have hopened : (Settings.mk threshold format (some path)).opened (files s) here =
              t' := by
            simp only [Settings.opened, happend]
            rfl
          rw [hplace, hopened]
          refine ⟨((hh.append path "").ok happend).2,
            FileTree.butLog_of_append hwf hhere (fun _ _ => rfl) hl happend,
            fun m hm => Option.some.inj hm ▸ hfree, fun e => ?_⟩
          refine hh.now.preserves.bind fun now => ?_
          cases e.line? threshold format now with
          | none => exact preserves_pure _
          | some line =>
              exact (preserves_append hh hhere hl line).bind fun _ => preserves_pure _

end Host

/-! ### Reports with errors -/

/-- A request has the rule of a code carried out: it selects none, or this one. -/
def Request.Executes (q : Request) (code : String) : Prop :=
  q.rules = [] ∨ ∃ text ∈ q.rules, Text.trim text = code

lemma Request.selects_selection {q : Request} {code : String} :
    Plan.selects q.selection code = true ↔ q.Executes code := by
  rw [selection, Executes]
  split
  · next hnil => exact iff_of_true rfl (Or.inl hnil)
  · next hne => rw [Plan.selects_some, or_iff_right hne]

/-- What makes a report of a submission one with errors. -/
inductive Ruleset.FindsErrors (r : Ruleset) (q : Request) (d : Submission) : Prop
  /-- A text that should select a rule is blank or names none of the cycle. -/
  | unknown {text : String} (selecting : text ∈ q.rules)
      (unnamed : Text.trim text = "" ∨ Text.trim text ∉ r.registry.codes)
  /-- A rule that is carried out fails. -/
  | failed {code : String} {rule : Rule} {failure : Failure}
      (listed : r.registry.rule? code = some rule) (executed : q.Executes code)
      (fails : rule.outcome d = .failed failure)
  /-- A rule of severity error that is carried out finds a row. -/
  | found {code : String} {rule : Rule} {issues : List Issue} {issue : Issue}
      (listed : r.registry.rule? code = some rule) (executed : q.Executes code)
      (severity : rule.severity = .error) (finds : rule.outcome d = .completed issues)
      (mem : issue ∈ issues) (rows : issue.rows ≠ [])

namespace Ruleset

variable {r : Ruleset} {q : Request} {d : Submission}

/-- Only the set of the texts that select rules counts, and not the number of jobs. -/
lemma FindsErrors.congr {rules : List String} {jobs : ℕ} (h : r.FindsErrors q d)
    (hrules : ∀ text, text ∈ rules ↔ text ∈ q.rules) :
    r.FindsErrors { q with rules := rules, jobs := jobs } d := by
  have hexec : ∀ {code : String}, q.Executes code →
      Request.Executes { q with rules := rules, jobs := jobs } code := by
    rintro code (hnil | ⟨text, htext, hcode⟩)
    · refine Or.inl (List.eq_nil_iff_forall_not_mem.mpr fun text htext => ?_)
      rw [hrules, hnil] at htext
      exact List.not_mem_nil htext
    · exact Or.inr ⟨text, (hrules text).mpr htext, hcode⟩
  cases h with
  | unknown hmem hunnamed => exact .unknown ((hrules _).mpr hmem) hunnamed
  | failed hlisted hexecuted hfails => exact .failed hlisted (hexec hexecuted) hfails
  | found hlisted hexecuted hsev hfinds hmem hrows =>
      exact .found hlisted (hexec hexecuted) hsev hfinds hmem hrows

/-- A text leaves a code unknown when it is blank or names none. -/
lemma exists_unknown_iff (hby : ByCode r.registry.rules) :
    (∃ code, code ∈ (Plan.of r.registry q.selection).unknown.keys) ↔
      ∃ text ∈ q.rules, Text.trim text = "" ∨ Text.trim text ∉ r.registry.codes := by
  simp only [Plan.mem_unknown_of hby, Request.selection]
  by_cases hnil : q.rules = []
  · simp [hnil]
  · simp only [if_neg hnil, Option.some.injEq, exists_eq_left']
    constructor
    · rintro ⟨code, text, htext, ⟨-, rfl, hcode⟩ | ⟨hblank, -⟩⟩
      · exact ⟨text, htext, Or.inr hcode⟩
      · exact ⟨text, htext, Or.inl hblank⟩
    · rintro ⟨text, htext, hunnamed⟩
      by_cases hblank : Text.trim text = ""
      · exact ⟨text, text, htext, Or.inr ⟨hblank, rfl⟩⟩
      · exact ⟨_, text, htext, Or.inl ⟨hblank, rfl, hunnamed.resolve_left hblank⟩⟩

/-- The rows of an issue of a standard check are some. -/
lemma rows_ne_nil_of_mem {rule : Rule} {check : Standard} (h : rule.CarriedOutBy check)
    {issues : List Issue} {issue : Issue} (hfinds : rule.outcome d = .completed issues)
    (hmem : issue ∈ issues) : issue.rows ≠ [] := by
  rw [h.outcome_eq] at hfinds
  split at hfinds
  · cases hfinds
  · cases hfinds
    split at hmem
    · cases hmem
    · next hrows =>
      obtain rfl := List.mem_singleton.mp hmem
      exact hrows

/-- **Errors of a validation**: the report has errors when a text selects no rule, a rule fails, or
one of severity error finds a row. -/
theorem hasErrors_validation_iff {es : List Catalog.Entry} (h : Catalog.Lists r.registry es)
    (n : ℕ) : (r.validation q n d).report.hasErrors = true ↔ r.FindsErrors q d := by
  set l := r.registry.run ⟨q.jobs, n⟩ q.selection d with hl
  have hrun := Registry.run_eq h.byCode ⟨q.jobs, n⟩ q.selection d
  rw [← hl] at hrun
  have houtcome : ∀ {code : String} {o : Outcome}, l.outcome? code = some o ↔
      ∃ rule, r.registry.rule? code = some rule ∧ q.Executes code ∧ rule.outcome d = o := by
    intro code o
    rw [hrun, Ledger.outcome?, Keyed.get?_map, Keyed.get?_restrict, ← Request.selects_selection]
    split
    · next hs => simp [hs, Registry.rule?]
    · next hs => simp [hs]
  have hrule : ∀ {code : String} {rule : Rule}, l.rules.get? code = some rule ↔
      r.registry.rule? code = some rule ∧ q.Executes code := by
    intro code rule
    rw [hrun, Keyed.get?_restrict, ← Request.selects_selection]
    split
    · next hs => simp [hs, Registry.rule?]
    · next hs => simp [hs]
  have hunknown : l.unknown = (Plan.of r.registry q.selection).unknown := by rw [hrun]
  show (Report.compile l).hasErrors = true ↔ _
  rw [Ledger.hasErrors_compile_iff, hunknown, exists_unknown_iff h.byCode]
  constructor
  · rintro (⟨text, htext, hunnamed⟩ | ⟨code, f, ho⟩ | ⟨code, i, issues, rule, ho, hget, hsev⟩)
    · exact .unknown htext hunnamed
    · obtain ⟨rule, hlisted, hexecuted, hfails⟩ := houtcome.mp ho
      exact .failed hlisted hexecuted hfails
    · obtain ⟨rule', hlisted, hexecuted, hfinds⟩ := houtcome.mp ho
      obtain rfl := Option.some.inj (hlisted.symm.trans (hrule.mp hget).1)
      obtain ⟨e, he, -, number, rfl⟩ := h.eq_made hlisted
      have hcarried := (h.plain e he).carriedOutBy number
      exact .found hlisted hexecuted hsev hfinds List.mem_cons_self
        (rows_ne_nil_of_mem hcarried hfinds List.mem_cons_self)
  · rintro (⟨hmem, hunnamed⟩ | ⟨hlisted, hexecuted, hfails⟩ |
      ⟨hlisted, hexecuted, hsev, hfinds, hmem, -⟩)
    · exact Or.inl ⟨_, hmem, hunnamed⟩
    · exact Or.inr (Or.inl ⟨_, _, houtcome.mpr ⟨_, hlisted, hexecuted, hfails⟩⟩)
    · obtain ⟨i, rest, rfl⟩ := List.exists_cons_of_ne_nil (List.ne_nil_of_mem hmem)
      exact Or.inr (Or.inr ⟨_, i, rest, _, houtcome.mpr ⟨_, hlisted, hexecuted, hfinds⟩,
        hrule.mpr ⟨hlisted, hexecuted⟩, hsev⟩)

end Ruleset

/-! ### The exit status -/

namespace Host

variable {σ : Type} {h : Host (StateM σ)} {files : σ → FileTree} {here : Location}
  {st : Settings} {p : Publications} {q : Request} {r : Ruleset} {s : σ}

/-- The surroundings when a command begins: the publication of the cycles has been logged. -/
def begun (h : Host (StateM σ)) (st : Settings) (p : Publications) (s : σ) : σ :=
  ((h.logging st).logAll ((Catalog.journal p).toOption.getD []) (h.opened st s)).2

/-- What becomes of the tables of a request, or why they are not loaded. -/
def tables (h : Host (StateM σ)) (st : Settings) (p : Publications) (q : Request) (r : Ruleset)
    (s : σ) : Except LoadFault Submission :=
  ((h.logging st).loadStage r q (h.begun st p s)).1.submission

/-- What keeps a validation from its report. -/
inductive Fails (h : Host (StateM σ)) (files : σ → FileTree) (here : Location) (st : Settings)
    (p : Publications) (q : Request) (s : σ) : Prop
  /-- The cycle is malformed or not published. -/
  | cycle (unpublished :
      Cycle.malformed q.cycle = true ∨ Text.trim q.cycle ∉ Catalog.cycles.keys)
  /-- The tables cannot be loaded. -/
  | tables {r : Ruleset} {fault : LoadFault} (ruleset : p.ruleset q.cycle = .ok r)
      (unloaded : h.tables st p q r s = .error fault)
  /-- A file of the report cannot be written once the log is there. -/
  | report {f : ReportFile} (requested : f ∈ q.format.files)
      (unwritten : ¬(st.opened (files s) here).CanWrite here q.outputDirectory f.name)

/-- A validation that has its report finds errors. -/
def Finds (h : Host (StateM σ)) (st : Settings) (p : Publications) (q : Request) (s : σ) : Prop :=
  ∃ r d, p.ruleset q.cycle = .ok r ∧ h.tables st p q r s = .ok d ∧ r.FindsErrors q d

/-- The status of a validation with the built-in cycles. -/
lemma status_runBuiltIn (g : Host (StateM σ)) (hp : Catalog.publications 0 = .ok p) :
    (g.runBuiltIn (.validate q) s).1.status =
      match (g.validate p q (g.logAll ((Catalog.journal p).toOption.getD []) s).2).1 with
      | .ok v => if v.report.hasErrors then 1 else 0
      | .error _ => 2 := by
  simp only [runBuiltIn, hp, bind_apply, perform]
  cases (g.validate p q (g.logAll ((Catalog.journal p).toOption.getD []) s).2).1 with
  | ok v => rfl
  | error e => rfl

/-- The status of a command line that asks for a validation. -/
lemma status_answer {args : List String} (hargs : parse args = .run st (.validate q))
    (hlog : h.CanLog st s) (hp : Catalog.publications 0 = .ok p) :
    (h.answer args s).1.status =
      match ((h.logging st).validate p q (h.begun st p s)).1 with
      | .ok v => if v.report.hasErrors then 1 else 0
      | .error _ => 2 := by
  have hcommand : h.answer args s = (h.logging st).runBuiltIn (.validate q) (h.opened st s) := by
    rw [answer, hargs]
    show h.runCommand st (.validate q) s = _
    rw [runCommand, opened]
    cases hfile : st.file with
    | none => rfl
    | some path => simp only [bind_apply, hlog path hfile]
  rw [hcommand]
  exact status_runBuiltIn _ hp

/-- When a command begins, only the log has been written. -/
lemma butLog_begun (hh : h.ActsOn files here) (hwf : (files s).WellFormed)
    (hhere : (files s).item? here = some .directory) (hlog : h.CanLog st s) (p : Publications) :
    FileTree.ButLog (st.place? (files s) here) (files s) (files (h.begun st p s)) := by
  obtain ⟨hopened, hbut, -, hkeeps⟩ := opened_spec hh hwf hhere hlog
  refine preserves_logAll hkeeps _ _ ?_
  rwa [hopened]

/-- The same holds until the report is written. -/
lemma butLog_runStage (hh : h.ActsOn files here) (hwf : (files s).WellFormed)
    (hhere : (files s).item? here = some .directory) (hlog : h.CanLog st s) (p : Publications)
    (r : Ruleset) (q : Request) (d : Submission) :
    FileTree.ButLog (st.place? (files s) here) (files s)
      (files ((h.logging st).runStage r q d (h.begun st p s))) := by
  obtain ⟨-, -, -, hkeeps⟩ := opened_spec hh hwf hhere hlog
  have hbegun := butLog_begun hh hwf hhere hlog p
  have hacts := (hh.logging st).validating r
  generalize FileTree.ButLog (st.place? (files s) here) (files s) = P at hkeeps hbegun ⊢
  have hkeeps' := preserves_log_validating hkeeps r
  have hloaded : P (files ((h.logging st).loadStage r q (h.begun st p s)).2) :=
    hacts.load_preserves hkeeps' q.dataDirectory _ (hacts.clock.preserves _ hbegun)
  exact hacts.run_preserves hkeeps' _ _ _ _ _ hloaded

/-- What can be written then, can be written once the log has been opened. -/
lemma runStage_spec (hh : h.ActsOn files here) (hwf : (files s).WellFormed)
    (hhere : (files s).item? here = some .directory) (hlog : h.CanLog st s) (p : Publications)
    (r : Ruleset) (q : Request) (d : Submission) :
    (files ((h.logging st).runStage r q d (h.begun st p s))).item? here = some .directory ∧
      ∀ f : ReportFile, (files ((h.logging st).runStage r q d (h.begun st p s))).CanWrite here
          q.outputDirectory f.name ↔
        (st.opened (files s) here).CanWrite here q.outputDirectory f.name := by
  obtain ⟨-, hbut, hfree, -⟩ := opened_spec hh hwf hhere hlog
  have hran := butLog_runStage hh hwf hhere hlog p r q d
  have hopened := (hbut.grows_base hfree).1.directory _ hhere
  have hthere := (hran.grows_base hfree).1.directory _ hhere
  exact ⟨hthere, fun f => FileTree.canWrite_congr hran hbut hthere hopened f.isName⟩

/-- Where the log is elsewhere, the tables are those that the directory held before. -/
lemma tables_eq (hh : h.ActsOn files here) (hwf : (files s).WellFormed)
    (hhere : (files s).item? here = some .directory) (hlog : h.CanLog st s)
    (hout : ∀ name, goal here q.dataDirectory ++ [name] ∉ st.place? (files s) here)
    (p : Publications) (r : Ruleset) :
    h.tables st p q r s = ((files s).loading here q.dataDirectory).submission := by
  obtain ⟨-, -, hfree, hkeeps⟩ := opened_spec hh hwf hhere hlog
  have hbegun := butLog_begun hh hwf hhere hlog p
  have hacts := (hh.logging st).validating r
  exact congrArg Loading.submission (hacts.load_gives (preserves_log_validating hkeeps r)
    (fun _ ht => ht.sameFiles hwf hfree hout) _ (hacts.clock.preserves _ hbegun)).1

/-- A cycle that has no ruleset is malformed or not published. -/
lemma unpublished_of_error (hp : Catalog.Keeps p Catalog.cycles) {cause : RegistryError}
    (hr : p.ruleset q.cycle = .error cause) :
    Cycle.malformed q.cycle = true ∨ Text.trim q.cycle ∉ Catalog.cycles.keys := by
  rw [or_iff_not_imp_left, Bool.not_eq_true, ← hp.keys_eq]
  intro hformed hmem
  obtain ⟨r, hget⟩ := Keyed.mem_keys_iff.mp hmem
  rw [Publications.ruleset_eq_ok_iff.mpr ⟨hformed, hget⟩] at hr
  cases hr

/-- A cycle that has a ruleset is well formed and published, with the entries in force. -/
lemma published_of_ok (hp : Catalog.Keeps p Catalog.cycles) (hr : p.ruleset q.cycle = .ok r) :
    ¬(Cycle.malformed q.cycle = true ∨ Text.trim q.cycle ∉ Catalog.cycles.keys) ∧
      ∃ es, Catalog.Lists r.registry es := by
  obtain ⟨hformed, hget⟩ := Publications.ruleset_eq_ok_iff.mp hr
  obtain ⟨es, -, hlists⟩ := hp.exists_entries hget
  refine ⟨not_or.mpr ⟨Bool.not_eq_true _ ▸ hformed, not_not_intro ?_⟩, es, hlists⟩
  rw [← hp.keys_eq]
  exact Keyed.mem_keys_iff.mpr ⟨r, hget⟩

/-- **How a validation ends**: something keeps it from its report, or it is found what the rules
find in the tables that are loaded. -/
lemma validate_begun (hh : h.ActsOn files here) (hwf : (files s).WellFormed)
    (hhere : (files s).item? here = some .directory) (hlog : h.CanLog st s)
    (hp : Catalog.Keeps p Catalog.cycles) :
    (h.Fails files here st p q s ∧
      ∃ e, ((h.logging st).validate p q (h.begun st p s)).1 = .error e) ∨
    ¬h.Fails files here st p q s ∧ ∃ r d, p.ruleset q.cycle = .ok r ∧ h.tables st p q r s = .ok d ∧
      ((h.logging st).validate p q (h.begun st p s)).1 = .ok (r.validation q h.processors d) := by
  cases hr : p.ruleset q.cycle with
  | error cause =>
      exact Or.inl ⟨.cycle (unpublished_of_error hp hr), _, by rw [validate_of_error hr]⟩
  | ok r =>
      cases ht : h.tables st p q r s with
      | error fault =>
          exact Or.inl ⟨.tables hr ht, _, by rw [validate_of_fault hr ht]⟩
      | ok d =>
          obtain ⟨hthere, hcan⟩ := runStage_spec hh hwf hhere hlog p r q d
          rcases writeStage_cases (r := r) (q := q) (d := d) (hh.logging st) hthere with
            ⟨t₁, hmade, hfits, hok, -⟩ | ⟨⟨f, hf, hno⟩, e, he⟩
          · have hresult := (validate_of_written hr ht hok).1
            refine Or.inr ⟨?_, r, d, rfl, ht, hresult⟩
            rintro (hunpublished | ⟨hr', hunloaded⟩ | ⟨hf, hunwritten⟩)
            · exact (published_of_ok hp hr).1 hunpublished
            · obtain rfl := Except.ok.inj (hr.symm.trans hr')
              rw [ht] at hunloaded
              cases hunloaded
            · refine hunwritten ((hcan _).mp ?_)
              exact (FileTree.canWrite_iff hthere (ReportFile.isName _)).mpr
                ⟨t₁, hmade, hfits _ hf⟩
          · refine Or.inl ⟨.report hf fun hyes => hno ((hcan f).mpr hyes), e, ?_⟩
            rw [validate_of_unwritten hr ht he]

/-- The rules that are selected and the number of jobs keep nothing from its report. -/
lemma Fails.congr (hf : h.Fails files here st p q s) (rules : List String) (jobs : ℕ) :
    h.Fails files here st p { q with rules := rules, jobs := jobs } s := by
  cases hf with
  | cycle hunpublished => exact .cycle hunpublished
  | tables hr hunloaded => exact .tables hr hunloaded
  | report hf hunwritten => exact .report hf hunwritten

/-- Of the texts that select rules only the set counts, and not the number of jobs. -/
lemma Finds.congr (hf : h.Finds st p q s) {rules : List String} (jobs : ℕ)
    (hrules : ∀ text, text ∈ rules ↔ text ∈ q.rules) :
    h.Finds st p { q with rules := rules, jobs := jobs } s := by
  obtain ⟨r, d, hr, ht, hfound⟩ := hf
  exact ⟨r, d, hr, ht, hfound.congr hrules⟩

/-- The status is 2, 1 or 0, for one reason each. -/
lemma status_cases {args : List String} (hh : h.ActsOn files here) (hwf : (files s).WellFormed)
    (hhere : (files s).item? here = some .directory) (hp : Catalog.Keeps p Catalog.cycles)
    (hpublished : Catalog.publications 0 = .ok p) (hargs : parse args = .run st (.validate q))
    (hlog : h.CanLog st s) :
    (h.answer args s).1.status = 2 ∧ h.Fails files here st p q s ∨
      (h.answer args s).1.status = 1 ∧ ¬h.Fails files here st p q s ∧ h.Finds st p q s ∨
      (h.answer args s).1.status = 0 ∧ ¬h.Fails files here st p q s ∧ ¬h.Finds st p q s := by
  have hstatus := status_answer hargs hlog hpublished
  rcases validate_begun (q := q) hh hwf hhere hlog hp with
    ⟨hfails, e, he⟩ | ⟨hdone, r, d, hr, ht, hv⟩
  · rw [he] at hstatus
    exact Or.inl ⟨hstatus, hfails⟩
  · obtain ⟨-, es, hlists⟩ := published_of_ok hp hr
    have hfinds : h.Finds st p q s ↔ r.FindsErrors q d := by
      refine ⟨?_, fun hfound => ⟨r, d, hr, ht, hfound⟩⟩
      rintro ⟨r', d', hr', ht', hfound⟩
      obtain rfl := Except.ok.inj (hr.symm.trans hr')
      obtain rfl := Except.ok.inj (ht.symm.trans ht')
      exact hfound
    rw [hv] at hstatus
    rw [hfinds, ← Ruleset.hasErrors_validation_iff hlists h.processors]
    cases herrors : (r.validation q h.processors d).report.hasErrors with
    | true =>
        simp only [herrors, if_true] at hstatus
        exact Or.inr (Or.inl ⟨hstatus, hdone, rfl⟩)
    | false =>
        simp only [herrors, Bool.false_eq_true, if_false] at hstatus
        exact Or.inr (Or.inr ⟨hstatus, hdone, Bool.false_ne_true⟩)

/-- What the exit status of a validation says. -/
structure Exits (h : Host (StateM σ)) (files : σ → FileTree) (here : Location) (st : Settings)
    (p : Publications) (q : Request) (s : σ) (status : ℕ) : Prop where
  failure : status = 2 ↔ h.Fails files here st p q s
  findings : status = 1 ↔ ¬h.Fails files here st p q s ∧ h.Finds st p q s
  success : status = 0 ↔ ¬h.Fails files here st p q s ∧ ¬h.Finds st p q s
  /-- Where the log is elsewhere, the tables are those that the directory held in the beginning. -/
  loads : (∀ name, goal here q.dataDirectory ++ [name] ∉ st.place? (files s) here) → ∀ r,
    h.tables st p q r s = ((files s).loading here q.dataDirectory).submission
  /-- With other jobs, and with the same rules in another order or repeated, it is the same. -/
  alike : ∀ args rules jobs,
    parse args = .run st (.validate { q with rules := rules, jobs := jobs }) →
    (∀ text, text ∈ rules ↔ text ∈ q.rules) → (h.answer args s).1.status = status

/-- **The exit status of a validation**: whatever the files and the command line, it is 2 when the
cycle is not published, the tables cannot be loaded or a file of the report cannot be written; or
else 1 when a text selects no rule, a rule fails or one of severity error finds a row; or else 0. -/
theorem validation_status {args : List String} (hh : h.ActsOn files here)
    (hwf : (files s).WellFormed) (hhere : (files s).item? here = some .directory)
    (hargs : parse args = .run st (.validate q)) (hlog : h.CanLog st s) :
    ∃ p, Catalog.publications 0 = .ok p ∧
      h.Exits files here st p q s (h.answer args s).1.status := by
  obtain ⟨p, hpublished, hp⟩ := Catalog.keeps_publications 0
  have hcases := status_cases hh hwf hhere hp hpublished hargs hlog
  refine ⟨p, hpublished, ?_, ?_, ?_, fun hout r => ?_, fun args' rules jobs hargs' hrules => ?_⟩
  · rcases hcases with ⟨hs, hf⟩ | ⟨hs, hf, -⟩ | ⟨hs, hf, -⟩ <;> simp [hs, hf]
  · rcases hcases with ⟨hs, hf⟩ | ⟨hs, hf, he⟩ | ⟨hs, hf, he⟩
    · simp [hs, hf]
    · simp [hs, hf, he]
    · simp [hs, hf, he]
  · rcases hcases with ⟨hs, hf⟩ | ⟨hs, hf, he⟩ | ⟨hs, hf, he⟩
    · simp [hs, hf]
    · simp [hs, hf, he]
    · simp [hs, hf, he]
  · exact tables_eq hh hwf hhere hlog hout p r
  · have hcases' := status_cases hh hwf hhere hp hpublished hargs' hlog
    have hfails : h.Fails files here st p { q with rules := rules, jobs := jobs } s ↔
        h.Fails files here st p q s :=
      ⟨fun hf => hf.congr q.rules q.jobs, fun hf => hf.congr rules jobs⟩
    have hfinds : h.Finds st p { q with rules := rules, jobs := jobs } s ↔ h.Finds st p q s :=
      ⟨fun hf => hf.congr q.jobs fun text => (hrules text).symm, fun hf => hf.congr jobs hrules⟩
    rw [hfails, hfinds] at hcases'
    grind

/-- A cycle that is not published, with a log beside the data. -/
theorem validation_status_unpublished :
    let args := ["--log-file", "run.log", "validate", "data", "--cycle", "1999"]
    let st : Settings := ⟨some .warn, .pretty, some "run.log"⟩
    let q : Request := ⟨"data", "1999", [], Path.join "data" "output", .both, 1⟩
    FileTree.returns.WellFormed ∧ FileTree.returns.item? [] = some .directory ∧
      parse args = .run st (.validate q) ∧ (onTree "" []).CanLog st FileTree.returns ∧
      (∃ p, Catalog.publications 0 = .ok p ∧ (onTree "" []).Exits id [] st p q FileTree.returns
        ((onTree "" []).answer args FileTree.returns).1.status) ∧
      ((onTree "" []).answer args FileTree.returns).1.status = 2 := by
  intro args st q
  have hargs : parse args = .run st (.validate q) := by cbv
  have hlog : (onTree "" []).CanLog st FileTree.returns := by
    intro path hpath
    obtain rfl := Option.some.inj hpath
    rfl
  have hexits := validation_status (s := FileTree.returns) (actsOn_onTree "" [])
    FileTree.returns_wellFormed rfl hargs hlog
  refine ⟨FileTree.returns_wellFormed, rfl, hargs, hlog, hexits, ?_⟩
  obtain ⟨p, -, hp⟩ := hexits
  exact hp.failure.mpr (.cycle (Or.inr (by decide)))

end Host

end Census
