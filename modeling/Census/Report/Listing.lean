/-
Reports as comma-separated values.

* `IssueRecord.columns`, `SummaryRecord.columns`: the fields of a record, in the order of the
  headings;
* `issuesCsv`, `summaryCsv`: the two lists, each under a line of headings.
-/
import Census.Csv.Writer
import Census.Report

namespace Census

namespace IssueRecord

/-- The fields of a record as one text. -/
def joinedFields (r : IssueRecord) : String :=
  ";".intercalate r.fields

/-- The headings of the columns. -/
def headings : List String :=
  ["rule_code", "table", "fields", "row"]

/-- A record under the headings. -/
def columns (r : IssueRecord) : List String :=
  [r.rule, r.table, r.joinedFields, toString r.row]

end IssueRecord

namespace SummaryRecord

/-- The headings of the columns. -/
def headings : List String :=
  ["rule_code", "status", "severity", "message", "affected_rows", "detail"]

/-- A record under the headings.  What it does not have is the empty text. -/
def columns (r : SummaryRecord) : List String :=
  [r.rule, r.status.name, (r.severity.map Severity.name).getD "", r.message,
    toString r.affectedRows, r.detail.getD ""]

end SummaryRecord

/-- The rows of all issues as comma-separated values. -/
def issuesCsv (records : List IssueRecord) : String :=
  Csv.write (IssueRecord.headings :: records.map IssueRecord.columns)

/-- The codes that need attention as comma-separated values. -/
def summaryCsv (records : List SummaryRecord) : String :=
  Csv.write (SummaryRecord.headings :: records.map SummaryRecord.columns)

end Census
