/-
What the fields column of a report tells.

* `fieldNames`: the names that a reader takes from a text, by cutting it at each semicolon;
* `fieldNames_intercalate`: of joined names the reader takes their pieces;
* `fieldNames_intercalate_eq_iff`: these are the names again when none of them has a semicolon;
* `IssueRecord.cut`, `IssueRecord.ofColumns?`: a record as a reader has it from its texts;
* `issuesCsv_eq_iff`, `map_toJson_eq_iff`: listings of the same text are the same when cut;
* `fields_column`: this for the files of any reports, whatever the checks of the rules hand back.

Neither a draft nor a report refuses a name with a semicolon.  As every record has a field, joining
loses nothing else.
-/
import Census.Proofs.Findings
import Census.Proofs.Number.Integer
import Census.Proofs.Report.Document

namespace Census

/-! ### Cutting a text -/

/-- The names that a reader takes from a text: what stands between its semicolons. -/
def fieldNames (text : String) : List String :=
  (text.split ';').toList.map String.Slice.copy

section

variable {names : List String} {name : String}

lemma fieldNames_eq (text : String) :
    fieldNames text = (text.toList.splitOn ';').map String.ofList :=
  String.toList_split_char

lemma fieldNames_append (first rest : String) :
    fieldNames (first ++ ";" ++ rest) = fieldNames first ++ fieldNames rest := by
  have hchars : (first ++ ";" ++ rest).toList = first.toList ++ ';' :: rest.toList := by
    rw [String.toList_append, String.toList_append, List.append_assoc]
    rfl
  rw [fieldNames_eq, fieldNames_eq, fieldNames_eq, hchars, List.splitOn_append_cons_self,
    List.map_append]

lemma fieldNames_of_notMem (h : ';' ∉ name.toList) : fieldNames name = [name] := by
  rw [fieldNames_eq, List.splitOn_eq_singleton h, List.map_singleton, String.ofList_toList]

/-- The parts of a list between the places of a value do not have the value. -/
lemma notMem_of_mem_splitOn {α : Type} [DecidableEq α] {a : α} {xs part : List α}
    (h : part ∈ xs.splitOn a) : a ∉ part := by
  induction xs generalizing part with
  | nil => simp_all
  | cons x xs ih =>
      rw [List.splitOn_cons_eq_if_modifyHead] at h
      split at h
      · rcases List.mem_cons.mp h with rfl | h
        · exact List.not_mem_nil
        · exact ih h
      · next hne =>
        obtain ⟨front, parts, hparts⟩ := List.exists_cons_of_ne_nil (List.splitOn_ne_nil a xs)
        rw [hparts] at h ih
        rcases List.mem_cons.mp h with rfl | h
        · simp only [beq_iff_eq] at hne
          simpa [Ne.symm hne] using ih List.mem_cons_self
        · exact ih (List.mem_cons_of_mem front h)

lemma notMem_of_mem_fieldNames {text : String} (h : name ∈ fieldNames text) :
    ';' ∉ name.toList := by
  rw [fieldNames_eq] at h
  obtain ⟨part, hpart, rfl⟩ := List.mem_map.mp h
  rw [String.toList_ofList]
  exact notMem_of_mem_splitOn hpart

/-- **Joined names**: a reader takes from them the pieces of each name, in order. -/
theorem fieldNames_intercalate (h : names ≠ []) :
    fieldNames (";".intercalate names) = names.flatMap fieldNames := by
  induction names with
  | nil => exact absurd rfl h
  | cons first rest ih =>
      by_cases hrest : rest = []
      · rw [hrest, String.intercalate_singleton, List.flatMap_singleton]
      · rw [String.intercalate_cons_of_ne_nil hrest, fieldNames_append, ih hrest,
          List.flatMap_cons]

/-- The pieces of names are these names when no name has a semicolon, and only then. -/
lemma flatMap_fieldNames_eq_iff :
    names.flatMap fieldNames = names ↔ ∀ name ∈ names, ';' ∉ name.toList := by
  constructor
  · intro h name hname
    rw [← h] at hname
    obtain ⟨_, -, hpiece⟩ := List.mem_flatMap.mp hname
    exact notMem_of_mem_fieldNames hpiece
  · intro h
    rw [List.flatMap_congr fun name hname => fieldNames_of_notMem (h name hname),
      List.flatMap_singleton']

theorem fieldNames_intercalate_eq_iff (h : names ≠ []) :
    fieldNames (";".intercalate names) = names ↔ ∀ name ∈ names, ';' ∉ name.toList := by
  rw [fieldNames_intercalate h, flatMap_fieldNames_eq_iff]

/-- What was cut is joined again. -/
lemma intercalate_fieldNames (text : String) : ";".intercalate (fieldNames text) = text := by
  refine String.toList_injective ?_
  rw [String.toList_intercalate, fieldNames_eq, List.map_map]
  simp [Function.comp_def]

lemma intercalate_flatMap_fieldNames (names : List String) :
    ";".intercalate (names.flatMap fieldNames) = ";".intercalate names := by
  by_cases h : names = []
  · rw [h, List.flatMap_nil]
  · rw [← fieldNames_intercalate h, intercalate_fieldNames]

end

/-! ### Records -/

namespace IssueRecord

variable {r : IssueRecord}

/-- No name of the record has a semicolon. -/
def Plain (r : IssueRecord) : Prop :=
  ∀ name ∈ r.fields, ';' ∉ name.toList

instance : DecidablePred Plain :=
  fun r => inferInstanceAs (Decidable (∀ name ∈ r.fields, _))

/-- Something is joined where there is a name and no name is empty. -/
lemma joinedFields_ne_empty (r : IssueRecord) (hne : r.fields ≠ [])
    (hnamed : ∀ name ∈ r.fields, name ≠ "") : r.joinedFields ≠ "" := by
  rw [joinedFields]
  cases hfields : r.fields with
  | nil => exact absurd hfields hne
  | cons first rest =>
      have hfirst : first ≠ "" := hnamed first (hfields ▸ List.mem_cons_self)
      by_cases hrest : rest = []
      · rwa [hrest, String.intercalate_singleton]
      · rw [String.intercalate_cons_of_ne_nil hrest]
        simp [hfirst]

/-- The record with its names cut at their semicolons. -/
def cut (r : IssueRecord) : IssueRecord :=
  { r with fields := r.fields.flatMap fieldNames }

lemma Plain.cut_eq (h : r.Plain) : r.cut = r := by
  rw [cut, flatMap_fieldNames_eq_iff.mpr h]

lemma joinedFields_cut (r : IssueRecord) : r.cut.joinedFields = r.joinedFields :=
  intercalate_flatMap_fieldNames r.fields

lemma columns_cut (r : IssueRecord) : r.cut.columns = r.columns := by
  rw [columns, joinedFields_cut]
  rfl

lemma toJson_cut (r : IssueRecord) : r.cut.toJson = r.toJson := by
  rw [toJson, joinedFields_cut]
  rfl

/-- The record that a reader has from the texts under the headings. -/
def ofColumns? : List String → Option IssueRecord
  | [rule, table, fields, row] => do
    return ⟨rule, table, fieldNames fields, ← Number.natural? row.toList⟩
  | _ => none

/-- A record with a field is read back with its names cut. -/
lemma ofColumns?_columns (h : r.fields ≠ []) : ofColumns? r.columns = some r.cut := by
  have hrow : Number.natural? (toString r.row).toList = some r.row := by
    rw [Number.natural?_eq_some_iff]
    simpa using Number.denotes_toDigits r.row
  simp only [columns, ofColumns?, hrow, joinedFields, fieldNames_intercalate h]
  rfl

end IssueRecord

/-! ### Listings -/

/-- A table shows the rows of one list only. -/
lemma Table.Shows.rows_unique {t : Table} {headings : List String} {rows rows' : List (List String)}
    (h : t.Shows headings rows) (h' : t.Shows headings rows') : rows = rows' := by
  have hlength : rows.length = rows'.length := h.height.symm.trans h'.height
  refine List.ext_getElem hlength fun i hi hi' => ?_
  have hcells := (h.cells i _ (List.getElem?_eq_getElem hi)).symm.trans
    (h'.cells i _ (List.getElem?_eq_getElem hi'))
  exact List.map_injective_iff.mpr (Option.some_injective _) hcells

section

variable {issues issues' : List IssueRecord}

lemma map_cut_of_plain (h : ∀ r ∈ issues, r.Plain) : issues.map IssueRecord.cut = issues :=
  (List.map_congr_left fun r hr => (h r hr).cut_eq).trans (List.map_id _)

/-- What is the same of a record and of the cut one is the same of listings that are the same once
cut. -/
lemma map_eq_of_map_cut_eq {α : Type} {f : IssueRecord → α} (hf : ∀ r : IssueRecord, f r.cut = f r)
    (h : issues.map IssueRecord.cut = issues'.map IssueRecord.cut) :
    issues.map f = issues'.map f := by
  have hcut : ∀ l : List IssueRecord, (l.map IssueRecord.cut).map f = l.map f := by
    intro l
    rw [List.map_map]
    exact List.map_congr_left fun r _ => hf r
  rw [← hcut issues, ← hcut issues', h]

lemma map_columns_eq_iff (h : ∀ r ∈ issues, r.fields ≠ []) (h' : ∀ r ∈ issues', r.fields ≠ []) :
    issues.map IssueRecord.columns = issues'.map IssueRecord.columns ↔
      issues.map IssueRecord.cut = issues'.map IssueRecord.cut := by
  refine ⟨fun heq => ?_, map_eq_of_map_cut_eq IssueRecord.columns_cut⟩
  have hread : ∀ {l : List IssueRecord}, (∀ r ∈ l, r.fields ≠ []) →
      (l.map IssueRecord.columns).map IssueRecord.ofColumns? =
        (l.map IssueRecord.cut).map some := by
    intro l hl
    rw [List.map_map, List.map_map]
    exact List.map_congr_left fun r hr => IssueRecord.ofColumns?_columns (hl r hr)
  refine List.map_injective_iff.mpr (Option.some_injective _) ?_
  rw [← hread h, ← hread h', heq]

/-- **Listings of the same text** are the same list once the names are cut. -/
theorem issuesCsv_eq_iff (h : ∀ r ∈ issues, r.fields ≠ []) (h' : ∀ r ∈ issues', r.fields ≠ []) :
    issuesCsv issues = issuesCsv issues' ↔
      issues.map IssueRecord.cut = issues'.map IssueRecord.cut := by
  rw [← map_columns_eq_iff h h']
  constructor
  · intro heq
    obtain ⟨t, hread, hshows⟩ := exists_read?_issuesCsv issues
    obtain ⟨t', hread', hshows'⟩ := exists_read?_issuesCsv issues'
    rw [heq, hread'] at hread
    cases hread
    exact hshows.rows_unique hshows'
  · intro heq
    rw [issuesCsv, issuesCsv, heq]

/-- **Arrays of the same objects** are of the same list once the names are cut. -/
theorem map_toJson_eq_iff (h : ∀ r ∈ issues, r.fields ≠ []) (h' : ∀ r ∈ issues', r.fields ≠ []) :
    issues.map IssueRecord.toJson = issues'.map IssueRecord.toJson ↔
      issues.map IssueRecord.cut = issues'.map IssueRecord.cut := by
  refine ⟨fun heq => ?_, map_eq_of_map_cut_eq IssueRecord.toJson_cut⟩
  have hcolumns : ∀ l : List IssueRecord, (l.map IssueRecord.toJson).map
      (fun j => j.fields?.map (List.map Prod.snd)) = (l.map IssueRecord.columns).map some := by
    intro l
    rw [List.map_map, List.map_map]
    rfl
  refine (map_columns_eq_iff h h').mp (List.map_injective_iff.mpr (Option.some_injective _) ?_)
  rw [← hcolumns, ← hcolumns, heq]

end

/-- Documents of the same text have the same objects for their issues. -/
lemma Report.map_toJson_of_document_eq {r r' : Report} {time time' cycle cycle' : String}
    (h : r.document time cycle = r'.document time' cycle') :
    r.issues.map IssueRecord.toJson = r'.issues.map IssueRecord.toJson := by
  have hvalue : r.toJson time cycle = r'.toJson time' cycle' := by
    refine Option.some.inj ?_
    rw [← r.parse?_document, ← r'.parse?_document, h]
  have hissues := (r.member?_toJson time cycle).2.1
  rw [hvalue, (r'.member?_toJson time' cycle').2.1] at hissues
  exact (Json.array.inj (Option.some.inj hissues)).symm

/-! ### Files -/

section

variable {t : Table} {records : List IssueRecord} {i : ℕ} {r : IssueRecord}

/-- Under the heading of the fields, the row of a record shows its joined names. -/
lemma Table.Shows.exists_fields_column
    (h : t.Shows IssueRecord.headings (records.map IssueRecord.columns))
    (hr : records[i]? = some r) :
    ∃ c, t.column? "fields" = some c ∧ c.cells[i]?.map Cell.render = some r.joinedFields := by
  have hcells := h.cells i r.columns (by simp [hr])
  have hnames := h.names
  rw [column?]
  generalize t.columns = columns at hcells hnames ⊢
  simp only [IssueRecord.headings, List.map_eq_cons_iff] at hnames
  obtain ⟨code, _, rfl, hcode, table, _, rfl, htable, fields, _, rfl, hfields, -⟩ := hnames
  simp only [IssueRecord.columns, List.map_cons, List.cons.injEq] at hcells
  refine ⟨fields, ?_, hcells.2.2.1⟩
  rw [List.find?_cons_of_neg, List.find?_cons_of_neg, List.find?_cons_of_pos]
  · rw [hfields]; decide
  · rw [htable]; decide
  · rw [hcode]; decide

/-- The cell is the text of the joined names, if there is anything in them. -/
lemma Table.Shows.fields_cell
    (h : t.Shows IssueRecord.headings (records.map IssueRecord.columns))
    (hr : records[i]? = some r) (hne : r.joinedFields ≠ "") :
    (t.column? "fields").bind (·.cells[i]?) = some (.text r.joinedFields) := by
  obtain ⟨c, hc, hcell⟩ := h.exists_fields_column hr
  rw [hc]
  exact h.textual.eq_text (List.mem_of_find?_eq_some hc) hcell hne

end

/-- The object of a record has its joined names as a text. -/
lemma IssueRecord.member?_toJson (r : IssueRecord) :
    r.toJson.member? "fields" = some (.text r.joinedFields) := by
  simp [toJson, Json.ofMembers, Json.member?, Issue.only?]

/-! ### Reports of runs -/

/-- **The fields column.**  Take any report of a run of drafted rules, whatever their checks hand
back.  The issue listing and the document are read back, and for each record both have the same text
of its fields.  Cut at its semicolons, the text gives the fields of the record when none of their
names has a semicolon, and only then.  Two reports have the same listing exactly when their issues
are the same once the names are cut, and the same document only then; so issues that differ and
whose names have no semicolon have different listings and different documents. -/
theorem fields_column {r r' : Registry} (hr : r.Built) (hr' : r'.Built) (hchecks : r.KeepsMade)
    (hchecks' : r'.KeepsMade) (o o' : RunOptions) (selection selection' : Option (List String))
    (s s' : Submission) (time time' cycle cycle' : String) :
    let report := Report.compile (r.run o selection s)
    let report' := Report.compile (r'.run o' selection' s')
    let listing := ReportFile.issues.text report time cycle
    let listing' := ReportFile.issues.text report' time' cycle'
    let document := ReportFile.document.text report time cycle
    let document' := ReportFile.document.text report' time' cycle'
    (∃ t value objects, Csv.read? listing.toUTF8 = some t ∧ Json.parse? document = some value ∧
      value.member? "issues" = some (.array objects) ∧
      t.height = report.issues.length ∧ objects.length = report.issues.length ∧
      ∀ (i : ℕ) (rec : IssueRecord), report.issues[i]? = some rec → ∃ text,
        (t.column? "fields").bind (·.cells[i]?) = some (.text text) ∧
        objects[i]?.bind (·.member? "fields") = some (.text text) ∧
        (fieldNames text = rec.fields ↔ rec.Plain)) ∧
    (listing = listing' ↔
      report.issues.map IssueRecord.cut = report'.issues.map IssueRecord.cut) ∧
    (document = document' →
      report.issues.map IssueRecord.cut = report'.issues.map IssueRecord.cut) ∧
    ((∀ rec ∈ report.issues ++ report'.issues, rec.Plain) → report.issues ≠ report'.issues →
      listing ≠ listing' ∧ document ≠ document') := by
  intro report report' listing listing' document document'
  have hfields : ∀ rec ∈ report.issues, rec.fields ≠ [] :=
    fun _ hrec => (named_of_mem_compile hr hchecks hrec).1
  have hfields' : ∀ rec ∈ report'.issues, rec.fields ≠ [] :=
    fun _ hrec => (named_of_mem_compile hr' hchecks' hrec).1
  have hlisting : listing = listing' ↔
      report.issues.map IssueRecord.cut = report'.issues.map IssueRecord.cut :=
    issuesCsv_eq_iff hfields hfields'
  have hdocument : document = document' →
      report.issues.map IssueRecord.cut = report'.issues.map IssueRecord.cut :=
    fun heq => (map_toJson_eq_iff hfields hfields').mp (Report.map_toJson_of_document_eq heq)
  refine ⟨?_, hlisting, hdocument, fun hplain hne => ?_⟩
  · obtain ⟨t, hread, hshows⟩ := exists_read?_issuesCsv report.issues
    refine ⟨t, report.toJson time cycle, _, hread, report.parse?_document time cycle,
      (report.member?_toJson time cycle).2.1, ?_, List.length_map _, fun i rec hrec => ?_⟩
    · rw [hshows.height, List.length_map]
    · obtain ⟨hne, hnamed⟩ := named_of_mem_compile hr hchecks (List.mem_of_getElem? hrec)
      refine ⟨rec.joinedFields, hshows.fields_cell hrec (rec.joinedFields_ne_empty hne hnamed), ?_,
        fieldNames_intercalate_eq_iff hne⟩
      rw [List.getElem?_map, hrec]
      exact rec.member?_toJson
  · obtain ⟨hplain, hplain'⟩ := List.forall_mem_append.mp hplain
    have hdiffer : report.issues.map IssueRecord.cut ≠ report'.issues.map IssueRecord.cut := by
      rwa [map_cut_of_plain hplain, map_cut_of_plain hplain']
    exact ⟨fun heq => hdiffer (hlisting.mp heq), fun heq => hdiffer (hdocument heq)⟩

/-- A rule of some fields whose check reports the first row for all of them. -/
def firstRow (fields : List String) : Rule :=
  ⟨"1", "learners", "", fields, .error, .script 0 [.report (.all [0]) false], 0⟩

/-- The registry of this rule alone. -/
def firstRowRegistry (fields : List String) : Registry :=
  Registry.empty.put (firstRow fields)

/-- The report of its run. -/
def firstRowReport (fields : List String) : Report :=
  Report.compile ((firstRowRegistry fields).run {} none .empty)

lemma firstRowRegistry_built {fields : List String} (h : (firstRow fields).Drafted) :
    (firstRowRegistry fields).Built :=
  Registry.Built.empty.put h

lemma firstRowRegistry_keepsMade (fields : List String) : (firstRowRegistry fields).KeepsMade := by
  intro code rule hrule
  rw [firstRowRegistry, Registry.rule?_put] at hrule
  split at hrule
  · cases hrule
    exact (Check.onlyReports_script _ _).keepsMade
  · cases hrule

lemma firstRowReport_eq {fields : List String} (h : (firstRow fields).Drafted) :
    firstRowReport fields = ⟨[⟨"1", "learners", fields, 0⟩],
      [⟨"1", .issues, some .error, "", 1, none⟩]⟩ := by
  have hout : (firstRow fields).outcome .empty = .completed [⟨"1", "learners", fields, [0]⟩] := by
    show Outcome.completed [⟨"1", "learners", fields, distinct [0]⟩] = _
    rw [distinct_of_nodup (List.nodup_singleton 0)]
  have hrun : (firstRowRegistry fields).run {} none .empty =
      ⟨Keyed.empty.insert "1" ((firstRow fields).outcome .empty),
        Keyed.empty.insert "1" (firstRow fields), Keyed.empty⟩ := by
    rw [Registry.run_eq (firstRowRegistry_built h).byCode]
    rfl
  have haffected : affectedRows [⟨"1", "learners", fields, [0]⟩] = 1 := by
    show (distinct [("learners", 0)]).length = 1
    rw [distinct_of_nodup (List.nodup_singleton _)]
    rfl
  have hsummary : Ledger.summaryRecords ⟨Keyed.empty.insert "1"
      (.completed [⟨"1", "learners", fields, [0]⟩]), Keyed.empty.insert "1" (firstRow fields),
      Keyed.empty⟩ = [⟨"1", .issues, some .error, "", 1, none⟩] := by
    rw [← haffected]
    exact List.merge_right [_]
  rw [firstRowReport, hrun, hout, Report.compile, hsummary]
  rfl

lemma firstRow_drafted :
    (firstRow ["a;b"]).Drafted ∧ (firstRow ["a", "b"]).Drafted ∧ (firstRow ["a", "c"]).Drafted :=
  ⟨⟨⟨"1", "learners", "", ["a;b"], .error, some (firstRow []).check⟩, 0, rfl⟩,
    ⟨⟨"1", "learners", "", ["a", "b"], .error, some (firstRow []).check⟩, 0, rfl⟩,
    ⟨⟨"1", "learners", "", ["a", "c"], .error, some (firstRow []).check⟩, 0, rfl⟩⟩

/-- Two rules of two names each: the text of the first one's record gives its names, and neither the
listings nor the documents of the two are the same. -/
theorem fields_column_plain_names :
    let report := firstRowReport ["a", "b"]
    let report' := firstRowReport ["a", "c"]
    ((firstRowRegistry ["a", "b"]).Built ∧ (firstRowRegistry ["a", "b"]).KeepsMade) ∧
    ((firstRowRegistry ["a", "c"]).Built ∧ (firstRowRegistry ["a", "c"]).KeepsMade) ∧
    (∀ rec ∈ report.issues ++ report'.issues, rec.Plain) ∧ report.issues ≠ report'.issues ∧
    (∃ t text, Csv.read? (ReportFile.issues.text report "" "2024").toUTF8 = some t ∧
      (t.column? "fields").bind (·.cells[0]?) = some (.text text) ∧
      fieldNames text = ["a", "b"]) ∧
    ReportFile.issues.text report "" "2024" ≠ ReportFile.issues.text report' "" "2025" ∧
    ReportFile.document.text report "" "2024" ≠ ReportFile.document.text report' "" "2025" := by
  obtain ⟨-, hdrafted, hdrafted'⟩ := firstRow_drafted
  have hreport := firstRowReport_eq hdrafted
  have hreport' := firstRowReport_eq hdrafted'
  have hbuilt := firstRowRegistry_built hdrafted
  have hbuilt' := firstRowRegistry_built hdrafted'
  have hkeeps := firstRowRegistry_keepsMade ["a", "b"]
  have hkeeps' := firstRowRegistry_keepsMade ["a", "c"]
  obtain ⟨⟨t, _, _, hread, -, -, -, -, hrecords⟩, -, -, hdiffer⟩ :=
    fields_column hbuilt hbuilt' hkeeps hkeeps' {} {} none none .empty .empty "" "" "2024" "2025"
  have hplain : ∀ rec ∈ (firstRowReport ["a", "b"]).issues ++ (firstRowReport ["a", "c"]).issues,
      rec.Plain := by
    rw [hreport, hreport']
    decide
  have hne : (firstRowReport ["a", "b"]).issues ≠ (firstRowReport ["a", "c"]).issues := by
    rw [hreport, hreport']
    decide
  obtain ⟨text, hcell, -, hnames⟩ :=
    hrecords 0 ⟨"1", "learners", ["a", "b"], 0⟩ (congrArg (·.issues[0]?) hreport)
  exact ⟨⟨hbuilt, hkeeps⟩, ⟨hbuilt', hkeeps'⟩, hplain, hne,
    ⟨t, text, hread, hcell, hnames.mpr (by decide)⟩, hdiffer hplain hne⟩

/-- A name with a semicolon is accepted, and is what the two names of another rule are joined to.
Cut, it does not give the fields of its record; and the two issue listings, though they differ, are
written as the same text. -/
theorem fields_column_joined_name :
    let whole := firstRowReport ["a;b"]
    let parts := firstRowReport ["a", "b"]
    ((firstRowRegistry ["a;b"]).Built ∧ (firstRowRegistry ["a;b"]).KeepsMade) ∧
    ((firstRowRegistry ["a", "b"]).Built ∧ (firstRowRegistry ["a", "b"]).KeepsMade) ∧
    (∃ rec ∈ whole.issues, rec.fields = ["a;b"] ∧ fieldNames rec.joinedFields = ["a", "b"]) ∧
    whole.issues ≠ parts.issues ∧
    ∀ time cycle,
      ReportFile.issues.text whole time cycle = ReportFile.issues.text parts time cycle ∧
      ReportFile.document.text whole time cycle = ReportFile.document.text parts time cycle := by
  obtain ⟨hwhole, hparts, -⟩ := firstRow_drafted
  have hcut : fieldNames "a;b" = ["a", "b"] := by
    rw [fieldNames_eq]
    decide
  have hsame : IssueRecord.joinedFields ⟨"1", "learners", ["a;b"], 0⟩ =
      IssueRecord.joinedFields ⟨"1", "learners", ["a", "b"], 0⟩ := by
    decide
  intro whole parts
  rw [show whole = _ from firstRowReport_eq hwhole, show parts = _ from firstRowReport_eq hparts]
  refine ⟨⟨firstRowRegistry_built hwhole, firstRowRegistry_keepsMade _⟩,
    ⟨firstRowRegistry_built hparts, firstRowRegistry_keepsMade _⟩,
    ⟨_, List.mem_cons_self, rfl, hcut⟩, by decide, fun _ _ => ⟨?_, ?_⟩⟩
  · simp only [ReportFile.text, issuesCsv, IssueRecord.columns, List.map_cons, hsame]
  · simp only [ReportFile.text, Report.document, Report.toJson, IssueRecord.toJson, List.map_cons,
      hsame]
    rfl

end Census
