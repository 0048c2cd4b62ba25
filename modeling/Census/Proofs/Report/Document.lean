/-
The files of a report tell the same.

* `Report.parse?_document`: the document of a report is read back;
* `Json.fields?`, `Json.member?`: what a reader takes from an object;
* `Table.Matches`: the rows of a table are the objects of a list;
* `Json.Tells`: a document tells what two tables tell, with the cycle and the counts;
* `Report.files_agree`: whatever texts a report has, its document, read back, tells what its
  listings, read back, tell.
-/
import Census.Issue.Json
import Census.Proofs.Csv.RoundTrip
import Census.Proofs.Json.RoundTrip
import Census.Validation

namespace Census

/-! ### What can be written -/

lemma IssueRecord.formed_toJson (r : IssueRecord) : r.toJson.Formed := by
  refine Json.formed_ofMembers ?_
  simp [Json.formed_text, Json.formed_nat]

lemma SummaryRecord.formed_toJson (r : SummaryRecord) : r.toJson.Formed := by
  refine Json.formed_ofMembers ?_
  simp [Json.formed_text, Json.formed_nat, Json.formed_textOrNull]

lemma Report.formed_toJson (r : Report) (writtenAt cycle : String) :
    (r.toJson writtenAt cycle).Formed := by
  have hissues : (Json.array (r.issues.map IssueRecord.toJson)).Formed :=
    .array (List.forall_mem_map.mpr fun record _ => record.formed_toJson)
  have hsummary : (Json.array (r.summary.map SummaryRecord.toJson)).Formed :=
    .array (List.forall_mem_map.mpr fun record _ => record.formed_toJson)
  refine Json.formed_ofMembers ?_
  simp [Json.formed_text, Json.formed_nat, hissues, hsummary]

/-- The document of a report is one value, that of the report. -/
lemma Report.parse?_document (r : Report) (writtenAt cycle : String) :
    Json.parse? (r.document writtenAt cycle) = some (r.toJson writtenAt cycle) :=
  Json.parse?_pretty (r.formed_toJson writtenAt cycle) (by simp [Json.isSpace])

/-! ### What is read -/

namespace Json

/-- The text that a value shows in a field of a record: null shows the empty text, and a number its
digits. -/
def shown? : Json → Option String
  | null => some ""
  | string s => s
  | number spelling => some spelling
  | _ => none

/-- The names of the members of an object, in order, each with the text that its value shows. -/
def fields? : Json → Option (List (String × String))
  | object members => members.mapM fun m => do return (← m.1, ← m.2.shown?)
  | _ => none

/-- The value of the only member of a name. -/
def member? : Json → String → Option Json
  | object members, name => Issue.only? members name
  | _, _ => none

end Json

/-- The table has one row for each of the objects, in the same order.  The names of the columns are
those of the members, and the cells of a row, which are texts unless they have no value, are shown
as the texts that the members show. -/
structure Table.Matches (t : Table) (records : List Json) : Prop where
  height : t.height = records.length
  rows : ∀ (i : ℕ) (record : Json), records[i]? = some record →
    ∃ fields, record.fields? = some fields ∧ t.columns.map Column.name = fields.map Prod.fst ∧
      t.columns.map (fun c => c.cells[i]?.map Cell.render) = fields.map fun f => some f.2
  textual : t.Textual

/-- The document tells of a cycle what the two tables tell, and counts the issues and the rules that
failed. -/
structure Json.Tells (document : Json) (cycle : String) (issueTable summaryTable : Table) :
    Prop where
  cycle : document.member? "cycle" = some (.text cycle)
  issues : ∃ records, document.member? "issues" = some (.array records) ∧
    issueTable.Matches records ∧ document.member? "issue_count" = some (.nat records.length)
  summary : ∃ records, document.member? "summary" = some (.array records) ∧
    summaryTable.Matches records ∧
    document.member? "failure_count" = some (.nat (records.countP fun record =>
      (record.member? "status").bind Issue.text? == some "execution_failure"))

/-- Rows under headings match the objects that show them under the same names. -/
lemma Table.Shows.matches {α : Type} {t : Table} {headings : List String} {records : List α}
    {columns : α → List String} {toJson : α → Json} (h : t.Shows headings (records.map columns))
    (hlen : ∀ r, (columns r).length = headings.length)
    (hfields : ∀ r, (toJson r).fields? = some (headings.zip (columns r))) :
    t.Matches (records.map toJson) where
  height := by rw [h.height, List.length_map, List.length_map]
  rows := by
    intro i record hrecord
    obtain ⟨r, hr, rfl⟩ : ∃ r, records[i]? = some r ∧ toJson r = record := by
      simpa using hrecord
    refine ⟨_, hfields r, ?_, ?_⟩
    · rw [h.names, List.map_fst_zip (hlen r).ge]
    · have htexts := List.map_snd_zip (hlen r).le
      rw [h.cells i (columns r) (by simp [hr])]
      nth_rewrite 1 [← htexts]
      exact List.map_map
  textual := h.textual

lemma IssueRecord.fields?_toJson (r : IssueRecord) :
    r.toJson.fields? = some (headings.zip r.columns) :=
  rfl

lemma SummaryRecord.fields?_toJson (r : SummaryRecord) :
    r.toJson.fields? = some (headings.zip r.columns) := by
  obtain ⟨rule, status, severity, message, affectedRows, detail⟩ := r
  cases severity <;> cases detail <;> rfl

lemma SummaryRecord.status_toJson (r : SummaryRecord) :
    (r.toJson.member? "status").bind Issue.text? = some r.status.name := by
  simp [toJson, Json.ofMembers, Json.member?, Issue.only?, Issue.text?, Json.text]

lemma Status.name_eq_failure_iff (s : Status) : s.name = "execution_failure" ↔ s = .failure := by
  cases s <;> decide

/-- The objects that say of a rule that it failed are those of the rules that failed. -/
lemma Report.countP_failure (r : Report) :
    (r.summary.map SummaryRecord.toJson).countP (fun record =>
      (record.member? "status").bind Issue.text? == some "execution_failure") = r.failureCount := by
  rw [List.countP_map, failureCount, count, ← List.countP_eq_length_filter]
  refine List.countP_congr fun record _ => ?_
  simp [SummaryRecord.status_toJson, Status.name_eq_failure_iff]

/-- What a reader takes from the document of a report. -/
lemma Report.member?_toJson (r : Report) (writtenAt cycle : String) :
    (r.toJson writtenAt cycle).member? "cycle" = some (.text cycle) ∧
    (r.toJson writtenAt cycle).member? "issues" =
      some (.array (r.issues.map IssueRecord.toJson)) ∧
    (r.toJson writtenAt cycle).member? "issue_count" = some (.nat r.issueCount) ∧
    (r.toJson writtenAt cycle).member? "summary" =
      some (.array (r.summary.map SummaryRecord.toJson)) ∧
    (r.toJson writtenAt cycle).member? "failure_count" = some (.nat r.failureCount) := by
  simp [toJson, Json.ofMembers, Json.member?, Issue.only?]

/-- **The files of a report tell the same**, whatever texts it has: the document is one JSON value
and the listings are tables, and what the value tells is what the tables tell. -/
theorem Report.files_agree (r : Report) (writtenAt cycle : String) :
    ∃ document issueTable summaryTable,
      Json.parse? (ReportFile.document.text r writtenAt cycle) = some document ∧
      Csv.read? (ReportFile.issues.text r writtenAt cycle).toUTF8 = some issueTable ∧
      Csv.read? (ReportFile.summary.text r writtenAt cycle).toUTF8 = some summaryTable ∧
      document.Tells cycle issueTable summaryTable := by
  obtain ⟨issueTable, hissues, hshown⟩ := exists_read?_issuesCsv r.issues
  obtain ⟨summaryTable, hsummary, hshown'⟩ := exists_read?_summaryCsv r.summary
  obtain ⟨hcycle, hissueList, hissueCount, hsummaryList, hfailureCount⟩ :=
    r.member?_toJson writtenAt cycle
  refine ⟨r.toJson writtenAt cycle, issueTable, summaryTable, r.parse?_document writtenAt cycle,
    hissues, hsummary, hcycle, ⟨_, hissueList, ?_, ?_⟩, _, hsummaryList, ?_, ?_⟩
  · exact hshown.matches (fun _ => rfl) IssueRecord.fields?_toJson
  · rw [hissueCount, List.length_map, issueCount]
  · exact hshown'.matches (fun _ => rfl) SummaryRecord.fields?_toJson
  · rw [hfailureCount, countP_failure]

end Census
