/-
Reports as one JSON document.

* `IssueRecord.toJson`, `SummaryRecord.toJson`: the records as objects;
* `Report.toJson`: both lists with their counts, the cycle and the time of writing;
* `Report.document`: the text of the document.
-/
import Census.Json.Printer
import Census.Report.Listing

namespace Census

/-- A record as an object. -/
def IssueRecord.toJson (r : IssueRecord) : Json :=
  .ofMembers
    [("rule_code", .text r.rule), ("table", .text r.table), ("fields", .text r.joinedFields),
      ("row", .nat r.row)]

/-- A record as an object. -/
def SummaryRecord.toJson (r : SummaryRecord) : Json :=
  .ofMembers
    [("rule_code", .text r.rule), ("status", .text r.status.name),
      ("severity", .textOrNull (r.severity.map Severity.name)), ("message", .text r.message),
      ("affected_rows", .nat r.affectedRows), ("detail", .textOrNull r.detail)]

namespace Report

/-- The name of the form of the document. -/
def schema : String :=
  "rulebook.validation-report"

/-- The version of the form of the document. -/
def schemaVersion : Nat :=
  1

/-- A report on a cycle, written at some time. -/
def toJson (r : Report) (writtenAt cycle : String) : Json :=
  .ofMembers
    [("schema", .text schema), ("schema_version", .nat schemaVersion),
      ("generated_at", .text writtenAt), ("cycle", .text cycle),
      ("issue_count", .nat r.issueCount), ("failure_count", .nat r.failureCount),
      ("issues", .array (r.issues.map IssueRecord.toJson)),
      ("summary", .array (r.summary.map SummaryRecord.toJson))]

/-- The text of the document. -/
def document (r : Report) (writtenAt cycle : String) : String :=
  (r.toJson writtenAt cycle).pretty ++ "\n"

end Report

end Census
