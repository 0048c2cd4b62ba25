/-
Checks written as a list of steps.

* `Step`: reports, conditions on the submission, and ways to end early;
* `Step.run`: one step on a recorder;
* `Script.body`: the steps in order, until one ends the check.
-/
import Census.Rule

namespace Census

/-- One step of a scripted check. -/
inductive Step
  /-- Reports rows.  With `goOn` a refused report does not end the check. -/
  | report (report : Findings.Report) (goOn : Bool)
  /-- The submission has a table. -/
  | requireTable (table : String)
  /-- The submission has a table with a column. -/
  | requireColumn (table column : String)
  /-- Ends the check with a message. -/
  | fail (message : String)
  /-- Breaks down, with a message if there is one. -/
  | crash (message : Option String)
  /-- Reports every row of every table, table by table. -/
  | everyRow
  /-- Reports the rows of the rule's own table that have a value in a column, the last row first. -/
  | filledRows (column : String)
  deriving DecidableEq, Repr

namespace Step

/-- One report for each table of the submission. -/
def everyRowReports (s : Submission) : List Findings.Report :=
  s.tables.entries.map fun (id, t) => .elsewhere id [] (List.range t.height)

/-- Carries out reports in order, up to the first that is refused. -/
def recordAll (f : Findings) : List Findings.Report → Findings × Ending
  | [] => (f, .finished)
  | r :: rs =>
    match f.record r with
    | .ok f => recordAll f rs
    | .error fault => (f, .refused fault)

/-- One step on a recorder.  The check goes on when the step is `finished`. -/
def run (s : Submission) (f : Findings) : Step → Findings × Ending
  | report r goOn =>
    match f.record r with
    | .ok f => (f, .finished)
    | .error fault => (f, if goOn then .finished else .refused fault)
  | requireTable table =>
    match s.requireTable table with
    | .ok _ => (f, .finished)
    | .error fault => (f, .refused fault)
  | requireColumn table column =>
    match s.requireColumn table column with
    | .ok _ => (f, .finished)
    | .error fault => (f, .refused fault)
  | fail message => (f, .refused (.message message))
  | crash message => (f, .crashed message)
  | everyRow => recordAll f (everyRowReports s)
  | filledRows column =>
    match s.requireColumn f.table column with
    | .error fault => (f, .refused fault)
    | .ok keys =>
      let filled := (keys.zipIdx.filter fun k => k.1 != "").map (·.2)
      recordAll f [.all filled.reverse]

end Step

/-- The steps in order, until one ends the check. -/
def Script.body (steps : List Step) (s : Submission) (f : Findings) : Findings × Ending :=
  match steps with
  | [] => (f, .finished)
  | step :: rest =>
    match step.run s f with
    | (f, .finished) => body rest s f
    | ended => ended

/-- The check of a list of steps under an identity. -/
def Check.script (identity : Nat) (steps : List Step) : Check :=
  ⟨identity, Script.body steps⟩

end Census
