/-
Rules do not affect each other.

* `Rule.SameDefinition`: one definition, maybe in different editions;
* `run_restrict_beq`: the part of a run that one rule has;
* `issues_selected`, `summary_selected`: a selection gives a part of the full report;
* `restrict_run_without`, `issues_without`, `summary_without`: what is left of a report when rules
  that fail are left out;
* `run_isolated`: all of this for registries that can be made.
-/
import Census.Proofs.Report
import Census.Proofs.Run.Ledger

namespace Census

/-! ### One definition in two registries -/

/-- The rules agree in all but their editions. -/
def Rule.SameDefinition (a b : Rule) : Prop :=
  a.sameDescription b = true ∧ a.check = b.check

lemma Rule.SameDefinition.eq_edition {a b : Rule} (h : a.SameDefinition b) :
    b = { a with edition := b.edition } := by
  obtain ⟨hdesc, hcheck⟩ := h
  simp only [sameDescription, Bool.and_eq_true, beq_iff_eq] at hdesc
  obtain ⟨⟨⟨⟨hcode, htable⟩, hmessage⟩, hfields⟩, hseverity⟩ := hdesc
  cases a
  cases b
  simp_all

/-- The edition of a rule has no influence on its outcome. -/
lemma Rule.SameDefinition.outcome_eq {a b : Rule} (h : a.SameDefinition b) (s : Submission) :
    b.outcome s = a.outcome s := by
  rw [h.eq_edition]
  rfl

variable {r : Registry} {selection : Option (List String)} {o o' : RunOptions} {s : Submission}

/-- What a run has of one selected rule: its outcome and the rule. -/
lemma run_restrict_beq (h : ByCode r.rules) {code : String} {rule : Rule}
    (hr : r.rule? code = some rule) (hs : Plan.selects selection code = true) :
    (r.run o selection s).restrict (· == code) =
      ⟨Keyed.empty.insert code (rule.outcome s), Keyed.empty.insert code rule, Keyed.empty⟩ := by
  have hrule : (r.rules.restrict (Plan.selects selection)).get? code = some rule :=
    (Keyed.get?_restrict ..).trans ((if_pos hs).trans hr)
  have hout : (r.run o selection s).outcomes.restrict (· == code) =
      Keyed.empty.insert code (rule.outcome s) :=
    Keyed.restrict_beq (outcome?_run h hr hs)
  have hunknown : (Plan.of r selection).unknown.restrict (· == code) = Keyed.empty := by
    refine Keyed.restrict_eq_empty fun code' hmem => beq_eq_false_iff_ne.mpr ?_
    rintro rfl
    exact Plan.not_mem_unknown_of h (Keyed.mem_keys_iff.mpr ⟨rule, hr⟩) selection hmem
  rw [Ledger.restrict, hout, Registry.run_eq h, Keyed.restrict_beq hrule, hunknown]

/-- Ledgers of one outcome report it alike when the rules are one definition. -/
lemma compile_sameDefinition {code : String} {out : Outcome} {rule rule' : Rule}
    (h : rule.SameDefinition rule') :
    Report.compile ⟨Keyed.empty.insert code out, Keyed.empty.insert code rule, Keyed.empty⟩ =
      Report.compile ⟨Keyed.empty.insert code out, Keyed.empty.insert code rule', Keyed.empty⟩ := by
  have hshown : ∀ {γ : Type} (shown : Rule → γ), shown rule = shown rule' → ∀ k,
      ((Keyed.empty.insert code rule).get? k).map shown =
        ((Keyed.empty.insert code rule').get? k).map shown := by
    intro γ shown heq k
    rw [Keyed.get?_insert, Keyed.get?_insert]
    split
    · exact congrArg some heq
    · rfl
  exact congrArg (Report.mk _) (Ledger.summaryRecords_congr rfl rfl
    (hshown Rule.severity (by rw [h.eq_edition])) (hshown Rule.message (by rw [h.eq_edition])))

/-! ### Parts of the rules -/

/-- The outcomes and the rules of a run are those selected from the full run. -/
lemma run_selected (h : ByCode r.rules) (o o' : RunOptions) (selection : Option (List String))
    (s : Submission) :
    (r.run o selection s).outcomes =
        ((r.run o' none s).restrict (Plan.selects selection)).outcomes ∧
      (r.run o selection s).rules =
        ((r.run o' none s).restrict (Plan.selects selection)).rules := by
  rw [Registry.run_eq h, Registry.run_eq h, Ledger.restrict, Plan.restrict_selects_none]
  exact ⟨(Keyed.restrict_map (Plan.selects selection) (Rule.outcome · s) r.rules).symm, rfl⟩

/-- The issues of a selection are those that the full run has of its codes. -/
lemma issues_selected (h : ByCode r.rules) :
    (Report.compile (r.run o selection s)).issues =
      (Report.compile (r.run o' none s)).issues.filter
        fun rec => Plan.selects selection rec.rule := by
  rw [← Ledger.issues_restrict]
  show Ledger.issueRecords _ = Ledger.issueRecords _
  rw [Ledger.issueRecords, (run_selected h o o' selection s).1]
  rfl

/-- The summary of a selection, less the unknown codes, has the records that the full run has of
its codes. -/
lemma summary_selected (h : ByCode r.rules) :
    (Report.compile (r.run o selection s)).summary.filter (fun rec => rec.status != .unknown) =
      (Report.compile (r.run o' none s)).summary.filter
        fun rec => Plan.selects selection rec.rule := by
  obtain ⟨hout, hrules⟩ := run_selected h o o' selection s
  show (r.run o selection s).summaryRecords.filter _ = (r.run o' none s).summaryRecords.filter _
  rw [Ledger.filter_status_summaryRecords,
    Ledger.summaryRecords_of_unknown_empty (unknown_run_none h), ← Ledger.knownRecords_restrict,
    Ledger.knownRecords, hout]
  simp only [Ledger.summaryRecord?, hrules]
  rfl

/-! ### Rules left out -/

variable {codes : List String}

/-- A run of the rules that are left has of their codes what the run of all rules has. -/
lemma restrict_run_without (h : r.Built) :
    ((r.without codes).run o' selection s).restrict (fun c => !codes.contains c) =
      (r.run o selection s).restrict (fun c => !codes.contains c) := by
  have hleft := (h.without codes).byCode
  rw [Registry.run_eq hleft, Registry.run_eq h.byCode, Ledger.restrict, Ledger.restrict,
    Registry.rules_without]
  congr 1
  · refine Keyed.ext_get? fun k => ?_
    simp only [Keyed.get?_restrict, Keyed.get?_map]
    cases codes.contains k <;> rfl
  · refine Keyed.ext_get? fun k => ?_
    simp only [Keyed.get?_restrict]
    cases codes.contains k <;> simp
  · refine TextSet.ext fun code => ?_
    rw [Keyed.keys_restrict, Keyed.keys_restrict, List.mem_filter, List.mem_filter,
      Plan.mem_unknown_of hleft, Plan.mem_unknown_of h.byCode]
    refine and_congr_left fun hkept => ?_
    have hcode : code ∈ (r.without codes).codes ↔ code ∈ r.codes := by
      rw [Registry.codes, Registry.rules_without, Keyed.keys_restrict, List.mem_filter]
      exact and_iff_left hkept
    rw [hcode]

/-- What has an outcome is not left out. -/
lemma not_mem_codes_without (h : r.Built) {code : String}
    (hmem : code ∈ ((r.without codes).run o selection s).outcomes.keys) : code ∉ codes := by
  rw [keys_outcomes_run (h.without codes).byCode, Registry.codes, Registry.rules_without,
    Keyed.keys_restrict, List.mem_filter, List.mem_filter] at hmem
  simpa using hmem.1.2

/-- Rules that fail have no issues, so that without them all issues are still there. -/
lemma issues_without (h : r.Built)
    (hfail : ∀ code ∈ codes, ∃ rule failure, r.rule? code = some rule ∧
      rule.outcome s = .failed failure) :
    (Report.compile ((r.without codes).run o' selection s)).issues =
      (Report.compile (r.run o selection s)).issues := by
  have hleft : ∀ rec ∈ (Report.compile ((r.without codes).run o' selection s)).issues,
      (!codes.contains rec.rule) = true := by
    intro rec hrec
    obtain ⟨issues, hout⟩ := Ledger.completed_of_mem_issues hrec
    simpa using not_mem_codes_without h (Keyed.mem_keys_iff.mpr ⟨_, hout⟩)
  have hall : ∀ rec ∈ (Report.compile (r.run o selection s)).issues,
      (!codes.contains rec.rule) = true := by
    intro rec hrec
    obtain ⟨issues, hout⟩ := Ledger.completed_of_mem_issues hrec
    have hmem : rec.rule ∈ (r.run o selection s).outcomes.keys := Keyed.mem_keys_iff.mpr ⟨_, hout⟩
    rw [keys_outcomes_run h.byCode] at hmem
    have hnot : rec.rule ∉ codes := by
      intro hcode
      obtain ⟨rule, failure, hrule, hfailed⟩ := hfail _ hcode
      rw [outcome?_run h.byCode hrule (List.mem_filter.mp hmem).2, hfailed] at hout
      cases hout
    simpa using hnot
  rw [← List.filter_eq_self.mpr hleft, ← List.filter_eq_self.mpr hall,
    ← Ledger.issues_restrict (fun c => !codes.contains c),
    ← Ledger.issues_restrict (fun c => !codes.contains c), restrict_run_without h]

/-- The summary without some rules has of all other codes the records that it had. -/
lemma summary_without (h : r.Built) :
    (Report.compile ((r.without codes).run o' selection s)).summary.filter
        (fun rec => !codes.contains rec.rule) =
      (Report.compile (r.run o selection s)).summary.filter
        (fun rec => !codes.contains rec.rule) := by
  rw [← Ledger.summary_restrict (fun c => !codes.contains c),
    ← Ledger.summary_restrict (fun c => !codes.contains c), restrict_run_without h]

/-- What the summary says of a code that is left out is that no rule has it. -/
lemma status_without (h : r.Built) {rec : SummaryRecord}
    (hrec : rec ∈ (Report.compile ((r.without codes).run o' selection s)).summary)
    (hc : rec.rule ∈ codes) : rec.status = .unknown := by
  rcases Ledger.mem_summaryRecords.mp hrec with hknown | hunknown
  · exact absurd hc (not_mem_codes_without h (Ledger.of_mem_knownRecords hknown).1)
  · exact (Ledger.of_mem_unknownRecords hunknown).2

/-- Without a selection there is no record of a code that is left out. -/
lemma summary_without_none (h : r.Built) (codes : List String) (o o' : RunOptions) :
    (Report.compile ((r.without codes).run o' none s)).summary =
      (Report.compile (r.run o none s)).summary.filter fun rec => !codes.contains rec.rule := by
  have hnone : ((r.without codes).run o' none s).unknown = Keyed.empty :=
    unknown_run_none (h.without codes).byCode
  have hleft : ∀ rec ∈ ((r.without codes).run o' none s).summaryRecords,
      (!codes.contains rec.rule) = true := by
    intro rec hrec
    rw [Ledger.summaryRecords_of_unknown_empty hnone] at hrec
    simpa using not_mem_codes_without h (Ledger.of_mem_knownRecords hrec).1
  exact (List.filter_eq_self.mpr hleft).symm.trans (summary_without h)

/-- **Fault isolation.**  Let two registries that can be made have one definition under a code, and
let both runs select it.  Then its outcome, its issues and its record in the summary are the same,
whatever the other rules do.  A selection reports just the part that the full report has of its
codes, but for the codes that no rule has.  Leaving out rules that fail leaves all issues, and all
records of the other codes, in their order; a code that is left out is at most reported as one that
no rule has. -/
theorem run_isolated {r r' : Registry} (h : r.Built) (h' : r'.Built) (o o' : RunOptions)
    (selection selection' : Option (List String)) (s : Submission) :
    let report := Report.compile (r.run o selection s)
    let other := Report.compile (r'.run o' selection' s)
    let full := Report.compile (r.run o' none s)
    (∀ code rule rule', r.rule? code = some rule → r'.rule? code = some rule' →
      rule.SameDefinition rule' →
      Plan.selects selection code = true → Plan.selects selection' code = true →
      (r.run o selection s).outcome? code = some (rule.outcome s) ∧
      (r'.run o' selection' s).outcome? code = some (rule.outcome s) ∧
      report.issues.filter (·.rule == code) = other.issues.filter (·.rule == code) ∧
      report.summary.filter (·.rule == code) = other.summary.filter (·.rule == code)) ∧
    report.issues = full.issues.filter (fun rec => Plan.selects selection rec.rule) ∧
    report.summary.filter (fun rec => rec.status != .unknown) =
      full.summary.filter (fun rec => Plan.selects selection rec.rule) ∧
    ∀ codes : List String,
      (∀ code ∈ codes, ∃ rule failure, r.rule? code = some rule ∧
        rule.outcome s = .failed failure) →
      let rest := Report.compile ((r.without codes).run o' selection s)
      let fullRest := Report.compile ((r.without codes).run o' none s)
      rest.issues = report.issues ∧
      rest.summary.filter (fun rec => !codes.contains rec.rule) =
        report.summary.filter (fun rec => !codes.contains rec.rule) ∧
      (∀ rec ∈ rest.summary, rec.rule ∈ codes → rec.status = .unknown) ∧
      fullRest.issues = full.issues ∧
      fullRest.summary = full.summary.filter fun rec => !codes.contains rec.rule := by
  intro report other full
  refine ⟨?_, issues_selected h.byCode, summary_selected h.byCode, fun codes hfail => ?_⟩
  · intro code rule rule' hr hr' hsame hs hs'
    have hparts : Report.compile ((r.run o selection s).restrict (· == code)) =
        Report.compile ((r'.run o' selection' s).restrict (· == code)) := by
      rw [run_restrict_beq h.byCode hr hs, run_restrict_beq h'.byCode hr' hs', hsame.outcome_eq]
      exact compile_sameDefinition hsame
    refine ⟨outcome?_run h.byCode hr hs, ?_, ?_, ?_⟩
    · rw [outcome?_run h'.byCode hr' hs', hsame.outcome_eq]
    · rw [← Ledger.issues_restrict (· == code), hparts, Ledger.issues_restrict]
    · rw [← Ledger.summary_restrict (· == code), hparts, Ledger.summary_restrict]
  · exact ⟨issues_without h hfail, summary_without h, fun _ hrec hc => status_without h hrec hc,
      issues_without h hfail, summary_without_none h codes o' o'⟩

/-- One rule beside another that breaks down, and alone in another edition. -/
theorem run_isolated_mixed :
    let alone := Registry.empty.put { recordsFirst "A" .finished with edition := 1 }
    (Report.compile (mixedRegistry.run {} none .empty)).issues.filter (·.rule == "A") =
      (Report.compile (alone.run { jobs := 0 } (some [" A "]) .empty)).issues.filter
        (·.rule == "A") ∧
    (Report.compile ((mixedRegistry.without ["B"]).run { jobs := 0 } none .empty)).issues =
      (Report.compile (mixedRegistry.run {} none .empty)).issues := by
  intro alone
  have halone : alone.Built := Registry.Built.empty.put
    ⟨⟨"A", "learners", "", ["id"], .error, some (recordsFirst "A" .finished).check⟩, 1, rfl⟩
  obtain ⟨hsame, -, -, hleft⟩ :=
    run_isolated mixedRegistry_built halone {} { jobs := 0 } none (some [" A "]) .empty
  have hone := hsame "A" _ _ rfl rfl ⟨by decide, rfl⟩ rfl (by decide)
  refine ⟨hone.2.2.1, (hleft ["B"] fun code hcode => ?_).1⟩
  rw [List.mem_singleton.mp hcode]
  exact ⟨_, _, rfl, rfl⟩

end Census
