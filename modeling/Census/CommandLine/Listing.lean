/-
What the commands print.

* `rulesListing`, `cyclesListing`, `changesListing`: the rules of a cycle, the cycles, and the rules
  that differ between two of them;
* `Validation.listing`: the tables, the files written, and a summary of what was found.
-/
import Census.Changes
import Census.Display.Grid
import Census.Validation

namespace Census

open Display (Grid)

/-- A severity in a listing. -/
def severityCell : Option Severity → String
  | some .error => "ERROR"
  | some .warning => "WARN"
  | some .info => "INFO"
  | none => "-"

/-! ### Rules and cycles -/

/-- The rules of a cycle. -/
def rulesListing (r : Ruleset) : String :=
  let grid : Grid :=
    { headings := ["Code", "Table", "Severity", "Fields", "Message"]
      rows := r.registry.toList.map fun rule =>
        [rule.code, rule.table, severityCell (some rule.severity), ", ".intercalate rule.fields,
          rule.message] }
  s!"Cycle: {r.cycle.id} ({r.registry.size} rules)\n" ++ grid.condensed

/-- The cycles. -/
def cyclesListing (p : Publications) : String :=
  let grid : Grid :=
    { headings := ["Cycle", "Snapshot", "Derived from", "Rules"]
      rows := p.toList.map fun r =>
        [r.cycle.id, r.cycle.snapshot, (r.parent.map Cycle.id).getD "-",
          toString r.registry.size] }
  grid.condensed

/-- One row for each of some codes, with the message of its rule. -/
def changeRows (change : String) (r : Registry) (codes : List String) : List (List String) :=
  codes.map fun code => [change, code, ((r.rule? code).map (·.message)).getD ""]

/-- The rules that differ between an older cycle and a newer one: first those added, then those
modified, then those removed. -/
def changesListing (older newer : Ruleset) : String :=
  let changes := older.registry.changesTo newer.registry
  if changes.isEmpty then
    s!"No rule changes between {older.cycle.id} and {newer.cycle.id}.\n"
  else
    let grid : Grid :=
      { headings := ["Change", "Code", "Message"]
        rows := changeRows "added" newer.registry changes.added ++
          changeRows "modified" newer.registry changes.modified ++
          changeRows "removed" older.registry changes.removed }
    s!"{older.cycle.id} -> {newer.cycle.id}\n" ++ grid.condensed

/-! ### Validations -/

/-- The message of a record, above the detail of a failure. -/
def SummaryRecord.messageCell (r : SummaryRecord) : String :=
  match r.detail with
  | none => r.message
  | some detail => if r.message = "" then detail else r.message ++ "\n" ++ detail

/-- A record as a row of the summary.  Only a rule with issues has rows. -/
def SummaryRecord.row (r : SummaryRecord) : List String :=
  let rows := match r.status with
    | .issues => toString r.affectedRows
    | .failure | .unknown => "-"
  [r.rule, r.status.label, severityCell r.severity, rows, r.messageCell]

/-- The summary of a report as a table 140 columns wide. -/
def Report.summaryTable (r : Report) : String :=
  let grid : Grid :=
    { headings := ["Code", "Status", "Severity", "Rows", "Message"]
      rows := r.summary.map SummaryRecord.row }
  grid.spread 140 [(4, .center), (0, .left), (0, .center), (4, .right), (0, .left)]

namespace Validation

/-- The tables with their heights. -/
def tablesLine (v : Validation) : String :=
  let tables := v.tables.map fun (id, rows) => s!"{id} ({rows} rows)"
  "Tables: " ++ (if tables = [] then "none" else ", ".intercalate tables) ++ "\n"

/-- What was found, in one line under a table, unless nothing was. -/
def findingsText (v : Validation) : String :=
  if v.report.summary = [] then s!"{v.executed} rules executed, no issues found.\n"
  else
    let r := v.report
    r.summaryTable ++ s!"{v.executed} rules executed: {r.issueCount} issue rows, " ++
      s!"{r.failureCount} failures, {r.unknownCount} unknown codes\n"

/-- The cycle, the tables, the files written, and what was found. -/
def listing (v : Validation) : String :=
  s!"Cycle: {v.cycle.id}\n" ++ v.tablesLine ++
    String.join (v.written.map fun path => s!"Wrote: {path}\n") ++ v.findingsText

end Validation

end Census
