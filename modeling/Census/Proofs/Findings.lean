/-
What a check can put into a report.

* `Findings.attempt`, `Findings.after`: reports one after another, of which refused ones leave the
  recorder as it is;
* `Rule.Accepts`, `Rule.issueOf`: which reports a rule accepts, and the issue that one leaves;
* `Rule.recorder`: the recorder of a rule that has found something;
* `Rule.record_recorder_eq_error_iff`, `Rule.record_of_accepts`: one report;
* `Rule.after_eq`: the issues after any reports are those of the accepted ones that have rows;
* `Check.OnlyReports`: a check that does no more than report, as scripted and standard ones;
* `Findings.Made`, `Check.KeepsMade`: the recorders that any check can hand back;
* `fields_of_mem_compile`: the fields that a compiled report names for a rule with a check that only
  reports;
* `named_of_mem_compile`: every record names a field, whatever the checks hand back;
* `findings_history`: all of this, for every rule that a draft gives.
-/
import Census.Check.Script
import Census.Check.Standard
import Census.Proofs.Distinct
import Census.Proofs.Report
import Census.Proofs.Run.Ledger
import Census.Proofs.Submission

namespace Census

/-! ### Reports one after another -/

namespace Findings

/-- The rows that are reported. -/
def Report.rows : Report → List ℕ
  | all rows => rows
  | some _ rows => rows
  | elsewhere _ _ rows => rows

/-- The table that rows are reported for: the rule's own, unless another is named. -/
def Report.table (own : String) : Report → String
  | all _ => own
  | some _ _ => own
  | elsewhere table _ _ => table

/-- The recorder after a report, the same one when the report is refused. -/
def attempt (f : Findings) (call : Report) : Findings :=
  match f.record call with
  | .ok f' => f'
  | .error _ => f

/-- The recorder after reports one after another. -/
def after (f : Findings) (calls : List Report) : Findings :=
  calls.foldl attempt f

lemma after_append (f : Findings) (calls later : List Report) :
    f.after (calls ++ later) = (f.after calls).after later :=
  List.foldl_append

lemma attempt_of_ok {f f' : Findings} {call : Report} (h : f.record call = .ok f') :
    f.attempt call = f' := by
  rw [attempt, h]

lemma attempt_of_error {f : Findings} {call : Report} {e : Fault} (h : f.record call = .error e) :
    f.attempt call = f := by
  rw [attempt, h]

end Findings

/-! ### What a rule accepts -/

namespace Rule

/-- A name stands for some affected field of the rule: trimmed, it agrees with the field up to
ASCII case. -/
def Affects (rule : Rule) (name : String) : Prop :=
  ∃ field ∈ rule.fields, Text.sameName field (Text.trim name) = true

/-- Every name that is requested stands for some affected field. -/
def Accepts (rule : Rule) (call : Findings.Report) : Prop :=
  ∀ name ∈ call.requested, rule.Affects name

instance (rule : Rule) : DecidablePred rule.Affects :=
  fun _ => inferInstanceAs (Decidable (∃ field ∈ rule.fields, _))

instance (rule : Rule) : DecidablePred rule.Accepts :=
  fun call => inferInstanceAs (Decidable (∀ name ∈ call.requested, _))

/-- The affected fields, in their order, for which some requested name stands; all of them when none
is requested. -/
def chosen (rule : Rule) (requested : List String) : List String :=
  rule.fields.filter fun field =>
    requested = [] ∨ ∃ name ∈ requested, Text.sameName field (Text.trim name) = true

/-- The issue that an accepted report of rows leaves: of repeated rows the first ones, in their
order. -/
def issueOf (rule : Rule) (call : Findings.Report) : Issue :=
  ⟨rule.code, Text.identifier (call.table rule.table), rule.chosen call.requested,
    call.rows.eraseDups⟩

/-- A report that is accepted chooses some field. -/
lemma chosen_ne_nil {rule : Rule} (h : rule.fields ≠ []) {call : Findings.Report}
    (hcall : rule.Accepts call) : rule.chosen call.requested ≠ [] := by
  cases hreq : call.requested with
  | nil => simpa [chosen] using h
  | cons name names =>
      obtain ⟨field, hfield, hsame⟩ := hcall name (hreq ▸ List.mem_cons_self)
      refine List.ne_nil_of_mem (a := field) (List.mem_filter.mpr ⟨hfield, ?_⟩)
      exact decide_eq_true (Or.inr ⟨name, List.mem_cons_self, hsame⟩)

lemma Drafted.identifier_table {rule : Rule} (h : rule.Drafted) :
    Text.identifier rule.table = rule.table := by
  obtain ⟨d, -, -, htable, -⟩ := h.exists_draft
  rw [htable, Text.identifier_identifier]

end Rule

/-! ### One report -/

namespace Rule

variable {rule : Rule} {issues : List Issue} {call : Findings.Report}

/-- The recorder of a rule, with some issues in it. -/
def recorder (rule : Rule) (issues : List Issue) : Findings :=
  ⟨rule.code, rule.table, rule.fields, issues⟩

/-- What an accepted report adds to the issues: one issue, unless no row is reported. -/
def added (rule : Rule) (call : Findings.Report) : List Issue :=
  if call.rows = [] then [] else [rule.issueOf call]

/-- A name is unknown to the recorder when it stands for no affected field. -/
lemma unknown_iff {name : String} :
    (!(rule.recorder issues).fields.any (Findings.stands name)) = true ↔ ¬rule.Affects name := by
  rw [Bool.not_eq_true', Bool.eq_false_iff, ne_eq, List.any_eq_true]
  rfl

lemma unknownField?_eq_none_iff {requested : List String} :
    (rule.recorder issues).unknownField? requested = none ↔
      ∀ name ∈ requested, rule.Affects name := by
  rw [Findings.unknownField?, List.find?_eq_none]
  simp only [unknown_iff, not_not]

/-- The first unknown name of a request has only known ones in front of it. -/
lemma unknownField?_eq_some_iff {requested : List String} {name : String} :
    (rule.recorder issues).unknownField? requested = some name ↔
      ∃ before later, requested = before ++ name :: later ∧
        (∀ other ∈ before, rule.Affects other) ∧ ¬rule.Affects name := by
  have hknown : ∀ other : String,
      (!!(rule.recorder issues).fields.any (Findings.stands other)) = true ↔
        rule.Affects other := by
    intro other
    rw [Bool.not_eq_true', Bool.eq_false_iff, ne_eq, unknown_iff, not_not]
  rw [Findings.unknownField?, List.find?_eq_some_iff_append]
  simp only [unknown_iff, hknown]
  tauto

/-- **Refusals**: a report is refused for the first of its names that stands for no affected field,
with or without rows. -/
theorem record_recorder_eq_error_iff {e : Fault} :
    (rule.recorder issues).record call = .error e ↔
      ∃ before name later, call.requested = before ++ name :: later ∧
        (∀ other ∈ before, rule.Affects other) ∧ ¬rule.Affects name ∧
        e = .unknownField rule.code name := by
  rw [Findings.record_eq_error_iff]
  simp only [unknownField?_eq_some_iff]
  constructor
  · rintro ⟨name, ⟨before, later, hreq, hbefore, hname⟩, rfl⟩
    exact ⟨before, name, later, hreq, hbefore, hname, rfl⟩
  · rintro ⟨before, name, later, hreq, hbefore, hname, rfl⟩
    exact ⟨name, ⟨before, later, hreq, hbefore, hname⟩, rfl⟩

lemma exists_error_iff :
    (∃ e, (rule.recorder issues).record call = .error e) ↔ ¬rule.Accepts call := by
  rw [Accepts, ← unknownField?_eq_none_iff, Option.eq_none_iff_forall_ne_some]
  simp only [Findings.record_eq_error_iff, not_forall, not_not]
  constructor
  · rintro ⟨e, name, hname, -⟩
    exact ⟨name, hname⟩
  · rintro ⟨name, hname⟩
    exact ⟨_, name, hname, rfl⟩

/-- Which fields a request implicates. -/
lemma implicated_recorder (requested : List String) :
    (rule.recorder issues).implicated requested = rule.chosen requested := by
  rw [Findings.implicated, chosen]
  split
  · next hnone =>
    refine (List.filter_eq_self.mpr fun field _ => ?_).symm
    exact decide_eq_true (Or.inl hnone)
  · next hsome =>
    refine List.filter_congr fun field _ => Bool.eq_iff_iff.mpr ?_
    simp [hsome, Findings.stands]

lemma push_recorder (table : String) (fields : List String) (rows : List ℕ) :
    (rule.recorder issues).push table fields rows = rule.recorder
      (issues ++ if rows = [] then [] else [⟨rule.code, table, fields, rows.eraseDups⟩]) := by
  rw [Findings.push]
  split
  · rw [List.append_nil]
  · rw [← distinct_eq_eraseDups]
    rfl

/-- **Accepted reports** add the issue of their rows. -/
theorem record_of_accepts (h : Text.identifier rule.table = rule.table)
    (hcall : rule.Accepts call) :
    (rule.recorder issues).record call = .ok (rule.recorder (issues ++ rule.added call)) := by
  have hin : ∀ table, (rule.recorder issues).reportIn table call.requested call.rows =
      .ok (rule.recorder (issues ++ if call.rows = [] then [] else
        [⟨rule.code, Text.identifier table, rule.chosen call.requested, call.rows.eraseDups⟩])) := by
    intro table
    rw [Findings.reportIn, unknownField?_eq_none_iff.mpr hcall, implicated_recorder]
    dsimp only
    rw [push_recorder]
  cases call with
  | all rows =>
      have hall : rule.chosen [] = rule.fields :=
        List.filter_eq_self.mpr fun field _ => decide_eq_true (Or.inl rfl)
      rw [added, issueOf, Findings.Report.table, h, Findings.Report.requested, hall,
        Findings.Report.rows, ← push_recorder]
      rfl
  | some requested rows => exact hin rule.table
  | elsewhere table requested rows => exact hin table

/-! ### Any reports -/

/-- What a report does to the issues. -/
lemma attempt_recorder (h : Text.identifier rule.table = rule.table) (issues : List Issue)
    (call : Findings.Report) :
    (rule.recorder issues).attempt call =
      rule.recorder (issues ++ if rule.Accepts call then rule.added call else []) := by
  by_cases hcall : rule.Accepts call
  · rw [if_pos hcall, Findings.attempt_of_ok (record_of_accepts h hcall)]
  · obtain ⟨e, he⟩ := exists_error_iff.mpr hcall
    rw [if_neg hcall, List.append_nil, Findings.attempt_of_error he]

/-- **Any reports**: the issues are those of the accepted reports that have rows, in their order. -/
theorem after_eq (h : Text.identifier rule.table = rule.table) (calls : List Findings.Report) :
    rule.findings.after calls = rule.recorder
      ((calls.filter fun call => rule.Accepts call ∧ call.rows ≠ []).map rule.issueOf) := by
  induction calls using List.reverseRecOn with
  | nil => rfl
  | append_singleton calls call ih =>
      rw [Findings.after_append, ih]
      show (rule.recorder _).attempt call = _
      rw [attempt_recorder h, List.filter_append, List.map_append]
      congr 2
      by_cases hcall : rule.Accepts call
      · by_cases hrows : call.rows = []
        · simp [added, hcall, hrows]
        · simp [added, hcall, hrows]
      · simp [hcall]

/-- What every issue has that any reports leave. -/
lemma of_mem_issues (h : rule.Drafted) {calls : List Findings.Report} {i : Issue}
    (hi : i ∈ (rule.findings.after calls).issues) :
    i.rule = rule.code ∧ Text.trim i.table = i.table ∧ Text.lower i.table = i.table ∧
      i.fields.Sublist rule.fields ∧ i.fields ≠ [] := by
  rw [after_eq h.identifier_table] at hi
  obtain ⟨call, hcall, rfl⟩ := List.mem_map.mp hi
  obtain ⟨haccepts, -⟩ := of_decide_eq_true (List.mem_filter.mp hcall).2
  refine ⟨rfl, ?_, Text.lower_lower _, List.filter_sublist,
    chosen_ne_nil h.fields_ne_nil haccepts⟩
  show Text.trim (Text.lower _) = _
  rw [Text.trim_lower, Text.trim_trim]
  rfl

end Rule

/-! ### Checks that report -/

/-- Whatever it reads, the check leaves in a recorder what some reports do. -/
def Check.OnlyReports (c : Check) : Prop :=
  ∀ s f, ∃ calls, (c.body s f).1 = f.after calls

namespace Step

variable {s : Submission} {f : Findings}

/-- A report that is tried leaves the recorder after it, or as it was. -/
lemma exists_after_recordAll (f : Findings) (rs : List Findings.Report) :
    ∃ calls, (recordAll f rs).1 = f.after calls := by
  induction rs generalizing f with
  | nil => exact ⟨[], rfl⟩
  | cons r rs ih =>
      rw [recordAll]
      cases hr : f.record r with
      | error fault => exact ⟨[], rfl⟩
      | ok f' =>
          obtain ⟨calls, hcalls⟩ := ih f'
          refine ⟨r :: calls, hcalls.trans ?_⟩
          rw [← Findings.attempt_of_ok hr]
          rfl

lemma exists_after_run (s : Submission) (f : Findings) (step : Step) :
    ∃ calls, (step.run s f).1 = f.after calls := by
  cases step with
  | report r goOn =>
      rw [run]
      cases hr : f.record r with
      | error fault => exact ⟨[], rfl⟩
      | ok f' => exact ⟨[r], (Findings.attempt_of_ok hr).symm⟩
  | requireTable table => rw [run]; split <;> exact ⟨[], rfl⟩
  | requireColumn table column => rw [run]; split <;> exact ⟨[], rfl⟩
  | fail message => exact ⟨[], rfl⟩
  | crash message => exact ⟨[], rfl⟩
  | everyRow => exact exists_after_recordAll f _
  | filledRows column =>
      rw [run]
      split
      · exact ⟨[], rfl⟩
      · exact exists_after_recordAll f _

end Step

/-- A scripted check does no more than report. -/
lemma Check.onlyReports_script (identity : ℕ) (steps : List Step) :
    (Check.script identity steps).OnlyReports := by
  intro s f
  show ∃ calls, (Script.body steps s f).1 = f.after calls
  induction steps generalizing f with
  | nil => exact ⟨[], rfl⟩
  | cons step steps ih =>
      obtain ⟨first, hfirst⟩ := Step.exists_after_run s f step
      rw [Script.body]
      split
      · next f' hrun =>
        obtain rfl : f' = f.after first := by rw [← hfirst, hrun]
        obtain ⟨rest, hrest⟩ := ih (f.after first)
        exact ⟨first ++ rest, by rw [hrest, Findings.after_append]⟩
      · exact ⟨first, hfirst⟩

/-- A script of reports that goes on after refused ones comes to its end after all of them. -/
lemma Script.body_map_report (calls : List Findings.Report) (s : Submission) (f : Findings) :
    body (calls.map (Step.report · true)) s f = (f.after calls, .finished) := by
  induction calls generalizing f with
  | nil => rfl
  | cons call calls ih =>
      have hrun : Step.run s f (.report call true) = (f.attempt call, .finished) := by
        rw [Step.run, Findings.attempt]
        cases f.record call <;> rfl
      rw [List.map_cons, body, hrun]
      exact ih (f.attempt call)

/-- A standard check does no more than report. -/
lemma Check.onlyReports_standard (identity : ℕ) (check : Standard) :
    (Check.standard identity check).OnlyReports := by
  intro s f
  show ∃ calls, (check.body s f).1 = f.after calls
  rw [Standard.body]
  split
  · exact ⟨[], rfl⟩
  · next rows _ =>
    cases hr : f.record (.some check.columns rows) with
    | error fault => exact ⟨[], rfl⟩
    | ok f' => exact ⟨[.some check.columns rows], (Findings.attempt_of_ok hr).symm⟩

/-! ### Recorders that can be made -/

/-- A recorder that can be made: the empty one of a rule that a draft gives, and what a report does
to one that can be made. -/
inductive Findings.Made : Findings → Prop
  | fresh {rule : Rule} : rule.Drafted → Made rule.findings
  | report {f : Findings} (call : Findings.Report) : Made f → Made (f.attempt call)

namespace Findings.Made

variable {f : Findings}

lemma after (h : f.Made) (calls : List Findings.Report) : (f.after calls).Made := by
  induction calls generalizing f with
  | nil => exact h
  | cons call calls ih => exact ih (h.report call)

/-- A recorder that can be made is what some reports leave of the empty one of some rule. -/
lemma exists_after (h : f.Made) :
    ∃ rule : Rule, rule.Drafted ∧ ∃ calls, f = rule.findings.after calls := by
  induction h with
  | fresh hrule => exact ⟨_, hrule, [], rfl⟩
  | report call _ ih =>
      obtain ⟨rule, hrule, calls, rfl⟩ := ih
      exact ⟨rule, hrule, calls ++ [call], (Findings.after_append rule.findings calls [call]).symm⟩

/-- Every issue in a recorder that can be made has a field, and none without a name. -/
lemma named (h : f.Made) {i : Issue} (hi : i ∈ f.issues) :
    i.fields ≠ [] ∧ ∀ name ∈ i.fields, name ≠ "" := by
  obtain ⟨rule, hrule, calls, rfl⟩ := h.exists_after
  obtain ⟨-, -, -, hsub, hne⟩ := rule.of_mem_issues hrule hi
  exact ⟨hne, fun name hname => hrule.field_ne_empty (hsub.subset hname)⟩

end Findings.Made

/-- Whatever it reads, the check hands back a recorder that can be made when it is handed one: it
reports, or puts the recorder of another rule in the place of its own. -/
def Check.KeepsMade (c : Check) : Prop :=
  ∀ s f, f.Made → (c.body s f).1.Made

lemma Check.OnlyReports.keepsMade {c : Check} (h : c.OnlyReports) : c.KeepsMade := by
  intro s f hf
  obtain ⟨calls, hcalls⟩ := h s f
  exact hcalls ▸ hf.after calls

/-- The checks of all rules hand back recorders that can be made. -/
def Registry.KeepsMade (r : Registry) : Prop :=
  ∀ code rule, r.rule? code = some rule → rule.check.KeepsMade

/-! ### Reported fields -/

/-- Issues are what a check recorded that came to its end. -/
lemma Rule.examine_of_completed {rule : Rule} {s : Submission} {issues : List Issue}
    (h : rule.outcome s = .completed issues) :
    ∃ f, rule.examine s = (f, .finished) ∧ f.issues = issues := by
  rw [outcome] at h
  split at h
  · next f hf => exact ⟨f, hf, Outcome.completed.inj h⟩
  · cases h
  · cases h

/-- A record of a compiled report is of a rule, and of an issue that its check recorded. -/
lemma exists_rule_of_mem_compile {r : Registry} (hr : r.Built) {o : RunOptions}
    {selection : Option (List String)} {s : Submission} {rec : IssueRecord}
    (hrec : rec ∈ (Report.compile (r.run o selection s)).issues) :
    ∃ rule, r.rule? rec.rule = some rule ∧
      ∃ i ∈ (rule.examine s).1.issues, rec ∈ i.records rec.rule := by
  obtain ⟨issues, hout, i, hi, hmem⟩ := Ledger.exists_issue_of_mem_issues hrec
  have hkey : rec.rule ∈ (r.run o selection s).outcomes.keys := Keyed.mem_keys_iff.mpr ⟨_, hout⟩
  rw [keys_outcomes_run hr.byCode] at hkey
  obtain ⟨hcode, hselected⟩ := List.mem_filter.mp hkey
  obtain ⟨rule, hrule⟩ := Keyed.mem_keys_iff.mp hcode
  rw [outcome?_run hr.byCode hrule hselected] at hout
  obtain ⟨f, hf, rfl⟩ := Rule.examine_of_completed (Option.some.inj hout)
  exact ⟨rule, hrule, i, hf ▸ hi, hmem⟩

lemma Issue.fields_of_mem_records {code : String} {i : Issue} {rec : IssueRecord}
    (h : rec ∈ i.records code) : rec.fields = i.fields := by
  obtain ⟨row, -, rfl⟩ := List.mem_map.mp h
  rfl

/-- **Reported fields**: where the check of a rule does no more than report, every record that a
compiled report has of it names some of the affected fields, in their order, and at least one. -/
theorem fields_of_mem_compile {r : Registry} (hr : r.Built) {rule : Rule}
    (hrule : r.rule? rule.code = some rule) (hcheck : rule.check.OnlyReports)
    {o : RunOptions} {selection : Option (List String)} {s : Submission} {rec : IssueRecord}
    (hrec : rec ∈ (Report.compile (r.run o selection s)).issues) (hcode : rec.rule = rule.code) :
    rec.fields.Sublist rule.fields ∧ rec.fields ≠ [] := by
  have hdrafted : rule.Drafted := (hr.byCode _ _ hrule).2
  obtain ⟨rule', hrule', i, hi, hmem⟩ := exists_rule_of_mem_compile hr hrec
  rw [hcode, hrule] at hrule'
  cases hrule'
  obtain ⟨calls, hcalls⟩ := hcheck s rule.findings
  rw [Rule.examine, hcalls] at hi
  rw [Issue.fields_of_mem_records hmem]
  exact (rule.of_mem_issues hdrafted hi).2.2.2

/-- Where the checks hand back recorders that can be made, every record of a compiled report has a
field, and none without a name. -/
lemma named_of_mem_compile {r : Registry} (hr : r.Built) (hchecks : r.KeepsMade)
    {o : RunOptions} {selection : Option (List String)} {s : Submission} {rec : IssueRecord}
    (hrec : rec ∈ (Report.compile (r.run o selection s)).issues) :
    rec.fields ≠ [] ∧ ∀ name ∈ rec.fields, name ≠ "" := by
  obtain ⟨rule, hrule, i, hi, hmem⟩ := exists_rule_of_mem_compile hr hrec
  have hmade : (rule.examine s).1.Made :=
    hchecks _ _ hrule s rule.findings (.fresh (hr.byCode _ _ hrule).2)
  rw [Issue.fields_of_mem_records hmem]
  exact hmade.named hi

/-- **What a check can put into a report.**  After any reports on the recorder of a rule that a
draft gives, there is one issue for each accepted report with rows, in their order.  The next report
is refused exactly when one of its names, trimmed, is no affected field up to ASCII case; the fault
names the first such name as it stands, and the recorder stays what it was.  If it is accepted, it
adds one issue if it has rows and none otherwise.  Every issue has the rule's code, a trimmed table
in lower case, and some of the affected fields, in their order.  So have the records that a compiled
report has of the rule, when its check does no more than report. -/
theorem findings_history {rule : Rule} (h : rule.Drafted) (calls : List Findings.Report) :
    let f := rule.findings.after calls
    f.issues =
      (calls.filter fun call => rule.Accepts call ∧ call.rows ≠ []).map rule.issueOf ∧
    (∀ call,
      ((∃ e, f.record call = .error e) ↔ ∃ name ∈ call.requested, ¬rule.Affects name) ∧
      (∀ e, f.record call = .error e → f.attempt call = f ∧
        ∃ before name later, call.requested = before ++ name :: later ∧
          (∀ other ∈ before, rule.Affects other) ∧ ¬rule.Affects name ∧
          e = .unknownField rule.code name) ∧
      ∀ f', f.record call = .ok f' → f.attempt call = f' ∧
        f' = { f with
          issues := f.issues ++ if call.rows = [] then [] else [rule.issueOf call] }) ∧
    (∀ i ∈ f.issues, i.rule = rule.code ∧ Text.trim i.table = i.table ∧
      Text.lower i.table = i.table ∧ i.fields.Sublist rule.fields ∧ i.fields ≠ []) ∧
    ∀ (r : Registry) (o : RunOptions) (selection : Option (List String)) (s : Submission),
      r.Built → r.rule? rule.code = some rule → rule.check.OnlyReports →
      ∀ rec ∈ (Report.compile (r.run o selection s)).issues, rec.rule = rule.code →
        rec.fields.Sublist rule.fields ∧ rec.fields ≠ [] := by
  intro f
  obtain ⟨issues, hf⟩ : ∃ issues, f = rule.recorder issues :=
    ⟨_, rule.after_eq h.identifier_table calls⟩
  refine ⟨congrArg Findings.issues (rule.after_eq h.identifier_table calls),
    fun call => ⟨?_, fun e he => ⟨Findings.attempt_of_error he, ?_⟩, fun f' hok => ?_⟩,
    fun i hi => rule.of_mem_issues h hi,
    fun r o selection s hr hrule hcheck rec hrec hcode =>
      fields_of_mem_compile hr hrule hcheck hrec hcode⟩
  · rw [hf, Rule.exists_error_iff, Rule.Accepts]
    simp only [not_forall, exists_prop]
  · rw [hf] at he
    exact Rule.record_recorder_eq_error_iff.mp he
  · refine ⟨Findings.attempt_of_ok hok, ?_⟩
    have haccepts : rule.Accepts call := by
      by_contra hrefused
      obtain ⟨e, he⟩ := Rule.exists_error_iff.mpr hrefused
      rw [hf, he] at hok
      cases hok
    rw [hf, Rule.record_of_accepts h.identifier_table haccepts] at hok
    rw [← Except.ok.inj hok, hf]
    rfl

/-- Reports for two tables, one of which names fields that the rule does not affect, and one of
which has no rows. -/
def crossingReports : List Findings.Report :=
  [.some ["NAME ", "name"] [3, 1, 3], .some ["ID", "Sex", "x"] [], .elsewhere " Schools" [] [0],
    .all []]

/-- A rule whose check makes these reports. -/
def crossing : Rule :=
  ⟨"7", "learners", "", ["id", "name", "Id"], .warning,
    .script 0 (crossingReports.map (Step.report · true)), 0⟩

lemma crossing_drafted : crossing.Drafted :=
  ⟨⟨"7", "learners", "", ["id", "name", "Id"], .warning, some crossing.check⟩, 0, rfl⟩

/-- The first report leaves an issue and the next one is refused for its second name; in the run of
the rule alone two issues are left, and their records name fields of the rule. -/
theorem findings_history_crossing :
    let f := crossing.findings.after [.some ["NAME ", "name"] [3, 1, 3]]
    let r := Registry.empty.put crossing
    crossing.Drafted ∧ f.issues = [⟨"7", "learners", ["name"], [3, 1]⟩] ∧
    f.record (.some ["ID", "Sex", "x"] []) = .error (.unknownField "7" "Sex") ∧
    r.Built ∧ r.rule? "7" = some crossing ∧ crossing.check.OnlyReports ∧
    (r.run {} none .empty).outcome? "7" = some (.completed
      [⟨"7", "learners", ["name"], [3, 1]⟩, ⟨"7", "schools", ["id", "name", "Id"], [0]⟩]) ∧
    ∀ rec ∈ (Report.compile (r.run {} none .empty)).issues, rec.rule = "7" →
      rec.fields.Sublist crossing.fields ∧ rec.fields ≠ [] := by
  intro f r
  obtain ⟨hissues, hcalls, -, hreported⟩ :=
    findings_history crossing_drafted [.some ["NAME ", "name"] [3, 1, 3]]
  have hbuilt : r.Built := Registry.Built.empty.put crossing_drafted
  have honly : crossing.check.OnlyReports := Check.onlyReports_script _ _
  refine ⟨crossing_drafted, hissues.trans (by decide), ?_, hbuilt, rfl, honly, ?_,
    hreported r {} none .empty hbuilt rfl honly⟩
  · obtain ⟨hrefused, hfault, -⟩ := hcalls (.some ["ID", "Sex", "x"] [])
    obtain ⟨e, he⟩ := hrefused.mpr ⟨"Sex", by decide, by decide⟩
    obtain ⟨-, before, name, later, hreq, hbefore, hname, rfl⟩ := hfault e he
    have hreq : ["ID", "Sex", "x"] = before ++ name :: later := hreq
    refine he.trans (congrArg (Except.error ∘ Fault.unknownField "7") ?_)
    cases before with
    | nil =>
        obtain ⟨rfl, -⟩ := List.cons.inj hreq
        exact absurd (by decide) hname
    | cons first before =>
        obtain ⟨-, hreq⟩ := List.cons.inj hreq
        cases before with
        | nil => exact (List.cons.inj hreq).1.symm
        | cons second before =>
            obtain ⟨rfl, -⟩ := List.cons.inj hreq
            exact absurd (hbefore "Sex" (by simp)) (by decide)
  · have hexamine : crossing.examine .empty = (crossing.findings.after crossingReports, .finished) :=
      Script.body_map_report ..
    rw [outcome?_run hbuilt.byCode rfl rfl, Rule.outcome, hexamine,
      Rule.after_eq crossing_drafted.identifier_table]
    decide

end Census
