/-
When a rule with a standard check fails, and what blank cells come to.

* `Submission.lack?_eq_none_iff`: nothing is lacking where a name finds a column;
* `Standard.Obstacle`, `Standard.obstacles`: what can stand in the way of a check, in the order in
  which it counts;
* `Standard.ending_eq`: a check is refused for the first obstacle that stands;
* `Standard.LeavesBlanks`, `flagged_leavesBlanks`: the check for presence flags the blank cells, the
  others none of them;
* `standard_examination`: when a rule with a standard check fails, and what it records.
-/
import Census.Proofs.Check.References
import Census.Proofs.Check.Repetitions
import Census.Proofs.Findings

namespace Census

/-! ### Columns that are found -/

/-- Nothing is lacking where a name finds a column. -/
lemma Submission.lack?_eq_none_iff {s : Submission} {table column : String} :
    s.lack? (table, column) = none ↔ ∃ col, s.column? table column = some col := by
  rw [lack?, Submission.column?]
  cases s.table? table with
  | none => simp
  | some t =>
      dsimp only [Option.bind_some]
      rw [← Table.isSome_column?]
      cases t.column? column <;> simp

namespace Standard

variable {s : Submission} {table c : String} {check : Standard} {rule : Rule} {e : Fault}
  {rows : List ℕ}

/-- A check that is not refused has found the columns that it reads. -/
lemma exists_column_of_flagged (h : check.flagged s table = .ok rows) :
    ∀ read ∈ check.reads table, ∃ col, s.column? read.1 read.2 = some col := by
  intro read hread
  have hlack : check.lack? s table = none := by
    rw [lack?_eq, h]
    rfl
  rw [lack?, List.findSome?_eq_none_iff] at hlack
  exact Submission.lack?_eq_none_iff.mp (hlack read hread)

/-! ### Obstacles -/

/-- What can stand in the way of a check: a table that is absent, a column without a match in its
table, and a column that is no field of the rule. -/
inductive Obstacle
  | noTable (table : String)
  | noColumn (table column : String)
  | noField (column : String)
  deriving DecidableEq, Repr

/-- What stands in the way of a rule on a submission. -/
def Obstacle.Stands (rule : Rule) (s : Submission) : Obstacle → Prop
  | noTable table => s.table? table = none
  | noColumn table column => ∃ t, s.table? table = some t ∧
      ∀ c ∈ t.columns, Text.sameName c.name column = false
  | noField column => ¬rule.Affects column

/-- The fault that a check of a rule is refused with for an obstacle. -/
def Obstacle.fault (rule : Rule) : Obstacle → Fault
  | noTable table => .missingTable table
  | noColumn table column => .missingColumn table column
  | noField column => .unknownField rule.code column

/-- What can stand in the way of the check of a rule, in the order in which it counts: for each
column that is read its table, then itself; after these the columns that are implicated. -/
def obstacles (rule : Rule) (check : Standard) : List Obstacle :=
  ((check.reads rule.table).flatMap fun read => [.noTable read.1, .noColumn read.1 read.2]) ++
    check.columns.map .noField

/-- The obstacle is the first one that stands. -/
def FirstStanding (rule : Rule) (s : Submission) (obstacles : List Obstacle) (o : Obstacle) :
    Prop :=
  ∃ before later, obstacles = before ++ o :: later ∧
    (∀ other ∈ before, ¬other.Stands rule s) ∧ o.Stands rule s

namespace Obstacle

/-- The fault of an obstacle, if it stands. -/
def fault? (rule : Rule) (s : Submission) : Obstacle → Option Fault
  | noTable table =>
    match s.table? table with
    | none => some (.missingTable table)
    | some _ => none
  | noColumn table column =>
    match s.table? table with
    | none => none
    | some t =>
      if t.columns.any fun c => Text.sameName c.name column then none
      else some (.missingColumn table column)
  | noField column => if rule.Affects column then none else some (.unknownField rule.code column)

lemma fault?_eq_some_iff (o : Obstacle) :
    o.fault? rule s = some e ↔ o.Stands rule s ∧ e = o.fault rule := by
  cases o with
  | noTable table =>
      rw [fault?, Stands, Obstacle.fault]
      cases s.table? table <;> simp [eq_comm]
  | noColumn table column =>
      rw [fault?, Stands, Obstacle.fault]
      cases s.table? table with
      | none => simp
      | some t =>
          have hstands : (∃ t', some t = some t' ∧
              ∀ c ∈ t'.columns, Text.sameName c.name column = false) ↔
              ¬(t.columns.any fun c => Text.sameName c.name column) = true := by
            simp
          rw [hstands]
          dsimp only
          split
          · next h => exact iff_of_false nofun fun hnot => hnot.1 h
          · next h =>
            exact ⟨fun he => ⟨h, (Option.some.inj he).symm⟩, fun he => congrArg some he.2.symm⟩
  | noField column =>
      rw [fault?, Stands, Obstacle.fault]
      split
      · next h => simp [h]
      · next h => simp [h, eq_comm]

lemma fault?_eq_none_iff (o : Obstacle) : o.fault? rule s = none ↔ ¬o.Stands rule s := by
  rw [Option.eq_none_iff_forall_ne_some]
  simp only [ne_eq, fault?_eq_some_iff]
  exact ⟨fun h hstands => h _ ⟨hstands, rfl⟩, fun h _ he => h he.1⟩

/-- The first fault is that of the first obstacle that stands. -/
lemma findSome?_fault?_eq_some_iff {os : List Obstacle} :
    os.findSome? (fault? rule s) = some e ↔ ∃ o, FirstStanding rule s os o ∧ e = o.fault rule := by
  simp only [List.findSome?_eq_some_iff, fault?_eq_some_iff, fault?_eq_none_iff, FirstStanding]
  constructor
  · rintro ⟨before, o, later, hos, ⟨hstands, he⟩, hbefore⟩
    exact ⟨o, ⟨before, later, hos, hbefore, hstands⟩, he⟩
  · rintro ⟨o, ⟨before, later, hos, hbefore, hstands⟩, he⟩
    exact ⟨before, o, later, hos, ⟨hstands, he⟩, hbefore⟩

end Obstacle

/-- What is lacking for a read is its table or else its column. -/
lemma findSome?_reads (reads : List (String × String)) :
    (reads.flatMap fun read => [Obstacle.noTable read.1, .noColumn read.1 read.2]).findSome?
      (Obstacle.fault? rule s) = reads.findSome? s.lack? := by
  induction reads with
  | nil => rfl
  | cons read reads ih =>
      have hread : [Obstacle.noTable read.1, .noColumn read.1 read.2].findSome?
          (Obstacle.fault? rule s) = s.lack? read := by
        simp only [List.findSome?_cons, List.findSome?_nil, Obstacle.fault?, Submission.lack?]
        cases s.table? read.1 with
        | none => rfl
        | some t =>
            dsimp only
            cases t.columns.any fun c => Text.sameName c.name read.2 <;> rfl
      rw [List.flatMap_cons, List.findSome?_append, hread, ih, List.findSome?_cons]
      cases s.lack? read <;> rfl

/-- The first name that stands for no field is what a request is refused for. -/
lemma findSome?_noField (names : List String) :
    (names.map Obstacle.noField).findSome? (Obstacle.fault? rule s) =
      (rule.findings.unknownField? names).map (Fault.unknownField rule.code) := by
  induction names with
  | nil => rfl
  | cons name names ih =>
      have hunknown : (!rule.findings.fields.any (Findings.stands name)) = true ↔
          ¬rule.Affects name := @Rule.unknown_iff rule [] name
      rw [Findings.unknownField?] at ih ⊢
      rw [List.map_cons, List.findSome?_cons, List.find?_cons, ih, Obstacle.fault?]
      by_cases hname : rule.Affects name
      · rw [if_pos hname, Bool.eq_false_iff.mpr fun h => hunknown.mp h hname]
      · rw [if_neg hname, hunknown.mpr hname]
        rfl

/-- **Refusals**: a check of a rule on its own table is refused for the first obstacle that stands,
and comes to its end when there is none. -/
theorem ending_eq (hbody : rule.check.body = check.body)
    (htable : Text.identifier rule.table = rule.table) (s : Submission) :
    (rule.examine s).2 =
      ((check.obstacles rule).findSome? (Obstacle.fault? rule s)).elim .finished .refused := by
  rw [obstacles, List.findSome?_append, findSome?_reads, findSome?_noField,
    Rule.examine_eq_of_body hbody htable, ← lack?, lack?_eq]
  cases check.flagged s rule.table with
  | error fault => rfl
  | ok rows => cases rule.findings.unknownField? check.columns <;> rfl

/-! ### Blank cells -/

/-- The flagged rows have no blank cell in a column. -/
def FilledIn (s : Submission) (table : String) (rows : List ℕ) (c : String) : Prop :=
  ∃ col, s.column? table c = some col ∧
    ∀ row ∈ rows, ∃ cell, col.cells[row]? = some cell ∧ ¬cell.IsBlank

/-- The check for presence flags the rows with a blank cell in its column.  The rows that any other
check flags have no blank cell in its columns. -/
def LeavesBlanks (s : Submission) (table : String) (rows : List ℕ) : Standard → Prop
  | required c => ∃ col, s.column? table c = some col ∧
      Enumerates rows fun row => ∃ cell, col.cells[row]? = some cell ∧ cell.IsBlank
  | check => ∀ c ∈ check.columns, FilledIn s table rows c

section Blanks

variable {col : Column} {p : ℕ → Prop}

/-- The rows that are flagged are those with the property. -/
lemma Flags.enumerates (h : check.Flags s table p) (hok : check.flagged s table = .ok rows) :
    Enumerates rows p := by
  obtain ⟨rows', hrows', hok', -⟩ := h
  obtain rfl : rows' = rows := Except.ok.inj (hok'.symm.trans hok)
  exact hrows'

lemma exists_cell_of_key {row : ℕ} {key : String} (h : col.keys[row]? = some key) :
    ∃ cell, col.cells[row]? = some cell ∧ cell.key = key := by
  rw [Column.keys, List.getElem?_map] at h
  exact Option.map_eq_some_iff.mp h

/-- Where only rows with a text that is not blank have the property, no flagged row has a blank
cell. -/
lemma Flags.filledIn (h : check.Flags s table p) (hok : check.flagged s table = .ok rows)
    (hcol : s.column? table c = some col)
    (hp : ∀ row, p row → ∃ cell, col.cells[row]? = some cell ∧ cell.key ≠ "") :
    FilledIn s table rows c := by
  refine ⟨col, hcol, fun row hrow => ?_⟩
  obtain ⟨cell, hcell, hne⟩ := hp row (((h.enumerates hok).mem_iff row).mp hrow)
  exact ⟨cell, hcell, mt cell.key_eq_empty_iff.mpr hne⟩

/-- The same of a property that says of the text of a row that it is not blank. -/
lemma Flags.filledIn_of_key {q : ℕ → String → Prop}
    (h : check.Flags s table fun row => ∃ key, col.keys[row]? = some key ∧ key ≠ "" ∧ q row key)
    (hok : check.flagged s table = .ok rows) (hcol : s.column? table c = some col) :
    FilledIn s table rows c := by
  refine h.filledIn hok hcol fun row => ?_
  rintro ⟨key, hkey, hne, -⟩
  obtain ⟨cell, hcell, rfl⟩ := exists_cell_of_key hkey
  exact ⟨cell, hcell, hne⟩

/-- A check of one column that objects to no blank key. -/
lemma filledIn_of_column {violates : String → Bool}
    (hcheck : check.flagged s table = do
      let keys ← s.requireColumn table c
      return rowsWhere (fun key => key != "" && violates key) keys)
    (hcol : s.column? table c = some col) (hok : check.flagged s table = .ok rows) :
    FilledIn s table rows c := by
  refine (flags_of_column hcheck hcol).filledIn hok hcol fun row => ?_
  rintro ⟨cell, hcell, hviolates⟩
  exact ⟨cell, hcell, bne_iff_ne.mp (Bool.and_eq_true_iff.mp hviolates).1⟩

lemma key_ne_of_isoDay? {key : String} {day : ℤ} (h : isoDay? key = some day) : key ≠ "" := by
  rintro rfl
  cases h

/-- **Blank cells** are left to the check for presence. -/
theorem flagged_leavesBlanks (h : check.flagged s table = .ok rows) :
    check.LeavesBlanks s table rows := by
  have hfound := exists_column_of_flagged h
  cases check with
  | required c =>
      obtain ⟨col, hcol⟩ := hfound _ List.mem_cons_self
      refine ⟨col, hcol, ((flags_of_column rfl hcol).enumerates h).congr fun row => ?_⟩
      exact exists_congr fun cell => and_congr_right fun _ =>
        beq_iff_eq.trans cell.key_eq_empty_iff
  | allowedValues c allowed =>
      obtain ⟨col, hcol⟩ := hfound _ List.mem_cons_self
      exact List.forall_mem_singleton.mpr (filledIn_of_column rfl hcol h)
  | isoDate c =>
      obtain ⟨col, hcol⟩ := hfound _ List.mem_cons_self
      exact List.forall_mem_singleton.mpr (filledIn_of_column rfl hcol h)
  | integerRange c least greatest =>
      obtain ⟨col, hcol⟩ := hfound _ List.mem_cons_self
      exact List.forall_mem_singleton.mpr (filledIn_of_column rfl hcol h)
  | unique c =>
      obtain ⟨col, hcol⟩ := hfound _ List.mem_cons_self
      have hflags := flags_of_flagged (enumerates_repeatedRows col.keys) (flagged_unique hcol)
      exact List.forall_mem_singleton.mpr (hflags.filledIn_of_key h hcol)
  | references c targetTable targetColumn =>
      obtain ⟨col, hcol⟩ := hfound _ List.mem_cons_self
      obtain ⟨target, htarget⟩ := hfound _ (List.mem_cons_of_mem _ List.mem_cons_self)
      have hflags := flags_of_flagged (enumerates_unmatchedRows col.keys target.keys)
        (flagged_references hcol htarget)
      exact List.forall_mem_singleton.mpr (hflags.filledIn_of_key h hcol)
  | dateOrder earlier later =>
      obtain ⟨col, hcol⟩ := hfound _ List.mem_cons_self
      obtain ⟨col', hcol'⟩ := hfound _ (List.mem_cons_of_mem _ List.mem_cons_self)
      have hflags := flags_dateOrder hcol hcol'
      have hdates : ∀ {cell cell' : Cell}, reversed cell.key cell'.key = true →
          cell.key ≠ "" ∧ cell'.key ≠ "" := by
        intro cell cell' hreversed
        obtain ⟨start, stop, hstart, hstop, -⟩ := reversed_eq_true_iff.mp hreversed
        exact ⟨key_ne_of_isoDay? hstart, key_ne_of_isoDay? hstop⟩
      refine List.forall_mem_cons.mpr ⟨hflags.filledIn h hcol fun row => ?_,
        List.forall_mem_singleton.mpr (hflags.filledIn h hcol' fun row => ?_)⟩
      · rintro ⟨cell, cell', hcell, -, hreversed⟩
        exact ⟨cell, hcell, (hdates hreversed).1⟩
      · rintro ⟨cell, cell', -, hcell', hreversed⟩
        exact ⟨cell', hcell', (hdates hreversed).2⟩

end Blanks

/-! ### Examinations -/

/-- **Rules with a standard check**, whatever columns they name and fields they affect.  The check is
refused exactly when something stands in its way, for the first such obstacle, with or without rows
to flag, and then nothing is recorded.  Otherwise it comes to its end, with at most one issue, of
rows of the rule's own table in ascending order; blank cells are flagged by the check for presence
and by no other. -/
theorem standard_examination (h : rule.Drafted) (hbody : rule.check.body = check.body)
    (s : Submission) :
    (∀ fault, (rule.examine s).2 = .refused fault ↔
      ∃ o, FirstStanding rule s (check.obstacles rule) o ∧ fault = o.fault rule) ∧
    ((rule.examine s).2 = .finished ↔ ∀ o ∈ check.obstacles rule, ¬o.Stands rule s) ∧
    (∀ fault, (rule.examine s).2 = .refused fault → (rule.examine s).1.issues = []) ∧
    ((rule.examine s).2 = .finished →
      ∃ t rows, s.table? rule.table = some t ∧ RowsOf t.height rows ∧
        (rule.examine s).1.issues = (if rows = [] then []
          else [⟨rule.code, rule.table, rule.chosen check.columns, rows⟩]) ∧
        check.LeavesBlanks s rule.table rows) := by
  have hending := ending_eq hbody h.identifier_table s
  have hrefused : ∀ fault, (rule.examine s).2 = .refused fault ↔
      (check.obstacles rule).findSome? (Obstacle.fault? rule s) = some fault := by
    intro fault
    rw [hending]
    cases (check.obstacles rule).findSome? (Obstacle.fault? rule s) <;> simp
  have hfinished : (rule.examine s).2 = .finished ↔
      (check.obstacles rule).findSome? (Obstacle.fault? rule s) = none := by
    rw [hending]
    cases (check.obstacles rule).findSome? (Obstacle.fault? rule s) <;> simp
  refine ⟨fun fault => ?_, ?_, fun fault => ?_, ?_⟩
  · rw [hrefused, Obstacle.findSome?_fault?_eq_some_iff]
  · rw [hfinished, List.findSome?_eq_none_iff]
    simp only [Obstacle.fault?_eq_none_iff]
  · rw [Rule.examine_eq_of_body hbody h.identifier_table]
    cases check.flagged s rule.table with
    | error fault => exact fun _ => rfl
    | ok rows =>
        cases rule.findings.unknownField? check.columns with
        | some name => exact fun _ => rfl
        | none => nofun
  · rw [Rule.examine_eq_of_body hbody h.identifier_table]
    cases hflagged : check.flagged s rule.table with
    | error fault => nofun
    | ok rows =>
        cases rule.findings.unknownField? check.columns with
        | some name => nofun
        | none =>
            intro _
            obtain ⟨t, ht, hrows⟩ := flagged_valid hflagged
            refine ⟨t, rows, ht, hrows, ?_, flagged_leavesBlanks hflagged⟩
            rw [← @Rule.implicated_recorder rule []]
            rfl

/-- A rule on the schools that pupils attend. -/
def attendance (field targetColumn : String) : Rule :=
  ⟨"11", "pupils", "", [field], .error, .standard 0 (.references "school" "Schools" targetColumn),
    0⟩

lemma attendance_drafted (field : String) (hfield : Text.trim field = field) (hne : field ≠ "")
    (targetColumn : String) : (attendance field targetColumn).Drafted := by
  refine ⟨⟨"11", "pupils", "", [field], .error, some (attendance field targetColumn).check⟩, 0, ?_⟩
  have hfields : Draft.trimmedFields ⟨"11", "pupils", "", [field], .error,
      some (attendance field targetColumn).check⟩ = [field] := by
    simp [Draft.trimmedFields, hfield, hne]
  have hcode : Text.trim "11" = "11" := by decide
  have htable : Text.identifier "pupils" = "pupils" := by decide
  rw [Draft.rule]
  dsimp only
  rw [hfields, hcode, htable]
  rfl

/-- Where all is found the rule comes to its end.  A field of another name is an obstacle, but after
a target column without a match, and this after a table that is absent. -/
theorem standard_examination_attendance :
    (attendance "School" "CODE").Drafted ∧ (attendance "Name" "CODE").Drafted ∧
    (attendance "Name" "Place").Drafted ∧
    ((attendance "School" "CODE").examine enrolment).2 = .finished ∧
    (∃ t rows, enrolment.table? "pupils" = some t ∧ RowsOf t.height rows ∧
      ((attendance "School" "CODE").examine enrolment).1.issues = (if rows = [] then []
        else [⟨"11", "pupils", ["School"], rows⟩]) ∧
      FilledIn enrolment "pupils" rows "school") ∧
    ((attendance "Name" "CODE").examine enrolment).2 = .refused (.unknownField "11" "school") ∧
    ((attendance "Name" "CODE").examine enrolment).1.issues = [] ∧
    ((attendance "Name" "Place").examine enrolment).2 =
      .refused (.missingColumn "Schools" "Place") ∧
    ((attendance "Name" "Place").examine .empty).2 = .refused (.missingTable "pupils") := by
  have hschool := attendance_drafted "School" (by decide) (by decide) "CODE"
  have hname := attendance_drafted "Name" (by decide) (by decide) "CODE"
  have hplace := attendance_drafted "Name" (by decide) (by decide) "Place"
  have hclear : ∀ o ∈ (references "school" "Schools" "CODE").obstacles (attendance "School" "CODE"),
      o.fault? (attendance "School" "CODE") enrolment = none := by decide +kernel
  obtain ⟨-, hfinished, -, hissues⟩ := standard_examination hschool rfl enrolment
  obtain ⟨hrefused, -, hnothing, -⟩ := standard_examination hname rfl enrolment
  obtain ⟨hrefused', -⟩ := standard_examination hplace rfl enrolment
  obtain ⟨hrefused'', -⟩ := standard_examination hplace rfl .empty
  have hend := hfinished.mpr fun o ho => o.fault?_eq_none_iff.mp (hclear o ho)
  obtain ⟨t, rows, ht, hrows, hrecorded, hfilled⟩ := hissues hend
  have hunknown := (hrefused (.unknownField "11" "school")).mpr
    (Obstacle.findSome?_fault?_eq_some_iff.mp (by decide +kernel))
  refine ⟨hschool, hname, hplace, hend, ⟨t, rows, ht, hrows, hrecorded, ?_⟩, hunknown,
    hnothing _ hunknown, (hrefused' _).mpr ?_, (hrefused'' _).mpr ?_⟩
  · exact hfilled "school" List.mem_cons_self
  · exact Obstacle.findSome?_fault?_eq_some_iff.mp (by decide +kernel)
  · exact Obstacle.findSome?_fault?_eq_some_iff.mp (by decide +kernel)

end Standard

end Census
