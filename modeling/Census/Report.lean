/-
Reports: the ledger of a run in two flat lists.

* `IssueRecord`: one row of one issue;
* `SummaryRecord`: one rule that needs attention, or one code that no rule has;
* `Report`, `Report.compile`: the two lists of a ledger, both by ascending code;
* `Report.hasErrors`: the submission has to be corrected or the run repeated.

Rules that passed appear in neither list.
-/
import Census.Ledger

namespace Census

/-- One row that an issue implicates. -/
structure IssueRecord where
  rule : String
  table : String
  fields : List String
  row : Nat
  deriving DecidableEq, Repr

/-- Why a code is in the summary. -/
inductive Status
  /-- The rule found issues. -/
  | issues
  /-- The rule did not come to its end. -/
  | failure
  /-- No rule has the code. -/
  | unknown
  deriving DecidableEq, Repr

namespace Status

/-- The status as a heading. -/
def label : Status → String
  | issues => "Issues"
  | failure => "Execution failure"
  | unknown => "Unknown rule"

/-- The status as a value in a report. -/
def name : Status → String
  | issues => "issues"
  | failure => "execution_failure"
  | unknown => "unknown_rule"

end Status

/-- One code that needs attention.  `affectedRows` counts the different rows of all tables that its
issues implicate; `detail` says why the rule failed. -/
structure SummaryRecord where
  rule : String
  status : Status
  severity : Option Severity
  message : String
  affectedRows : Nat
  detail : Option String
  deriving DecidableEq, Repr

/-- The rows of all issues, and the codes that need attention. -/
structure Report where
  issues : List IssueRecord
  summary : List SummaryRecord
  deriving DecidableEq, Repr

/-! ### Compilation -/

/-- The records of an issue listed under a code, one for each row. -/
def Issue.records (code : String) (i : Issue) : List IssueRecord :=
  i.rows.map fun row => ⟨code, i.table, i.fields, row⟩

/-- The number of different rows of all tables that issues implicate. -/
def affectedRows (issues : List Issue) : Nat :=
  (distinct (issues.flatMap fun i => i.rows.map fun row => (i.table, row))).length

/-- The text shown for a code that no rule has. -/
def unknownMessage : String :=
  "Rule code is not defined for this cycle"

namespace Ledger

/-- The record of the outcome of a code, if it needs attention. -/
def summaryRecord? (l : Ledger) (code : String) (o : Outcome) : Option SummaryRecord :=
  let rule := l.rules.get? code
  let severity := rule.map (·.severity)
  let message := (rule.map (·.message)).getD ""
  match o with
  | .completed [] => none
  | .completed issues => some ⟨code, .issues, severity, message, affectedRows issues, none⟩
  | .failed failure => some ⟨code, .failure, severity, message, 0, some failure.text⟩

/-- The record of a code that no rule has. -/
def unknownRecord (code : String) : SummaryRecord :=
  ⟨code, .unknown, none, unknownMessage, 0, none⟩

/-- The rows of all issues, by ascending code. -/
def issueRecords (l : Ledger) : List IssueRecord :=
  l.outcomes.entries.flatMap fun (code, o) => o.issues.flatMap (Issue.records code)

/-- The codes that need attention, ascending; where no rule has a code with an outcome, the outcome
comes first. -/
def summaryRecords (l : Ledger) : List SummaryRecord :=
  List.merge (l.outcomes.entries.filterMap fun (code, o) => l.summaryRecord? code o)
    (l.unknown.keys.map unknownRecord) fun a b => a.rule ≤ b.rule

end Ledger

namespace Report

/-- The report of a ledger. -/
def compile (l : Ledger) : Report :=
  ⟨l.issueRecords, l.summaryRecords⟩

/-- The number of records of a status. -/
def count (r : Report) (status : Status) : Nat :=
  (r.summary.filter fun record => record.status == status).length

/-- The number of implicated rows. -/
def issueCount (r : Report) : Nat :=
  r.issues.length

/-- The number of rules that failed. -/
def failureCount (r : Report) : Nat :=
  r.count .failure

/-- The number of codes that no rule has. -/
def unknownCount (r : Report) : Nat :=
  r.count .unknown

/-- A rule of severity error found issues, a rule failed, or a code was requested that no rule
has. -/
def hasErrors (r : Report) : Bool :=
  r.summary.any fun record =>
    match record.status with
    | .issues => record.severity == some .error
    | .failure | .unknown => true

end Report

end Census
