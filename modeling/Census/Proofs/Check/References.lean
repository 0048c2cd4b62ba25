/-
The rows whose value is not among those of another column.

* `Table.Extends`: a table with the columns of another one and rows added;
* `Submission.column?_congr`: spellings of the same names find the same column;
* `Standard.unmatchedRows_eq`, `enumerates_unmatchedRows`: a row is unmatched when its text is not
  blank and is no text of the other column;
* `unmatchedRows_congr`, `unmatchedRows_subset`: what the rows depend on, and how;
* `references_flags`: what the check for references flags.
-/
import Census.Proofs.Check.Flags

namespace Census

/-! ### Tables with rows added -/

/-- The table has the columns of another one, in order, and perhaps more rows. -/
def Table.Extends (t' t : Table) : Prop :=
  List.Forall₂ (fun c' c : Column => c'.name = c.name ∧ c.cells.Sublist c'.cells) t'.columns
    t.columns

/-- A name finds the same column, perhaps with more rows. -/
lemma Table.Extends.exists_column? {t t' : Table} {name : String} {col : Column}
    (h : t'.Extends t) (hcol : t.column? name = some col) :
    ∃ col', t'.column? name = some col' ∧ col.cells.Sublist col'.cells := by
  rw [Extends] at h
  rw [column?] at hcol ⊢
  generalize t'.columns = cs' at h ⊢
  generalize t.columns = cs at h hcol
  induction h with
  | nil => cases hcol
  | @cons c' c cs' cs hc _ ih =>
      obtain ⟨hname, hcells⟩ := hc
      rw [List.find?_cons] at hcol ⊢
      rw [hname]
      cases hsame : Text.sameName c.name name with
      | true =>
          rw [hsame] at hcol
          obtain rfl : c = col := Option.some.inj hcol
          exact ⟨c', rfl, hcells⟩
      | false =>
          rw [hsame] at hcol
          exact ih hcol

namespace Submission

variable {s : Submission} {table table' name name' : String}

/-- Names that are spellings of each other find the same column. -/
lemma column?_congr (htable : Text.identifier table' = Text.identifier table)
    (hname : Text.sameName name' name = true) : s.column? table' name' = s.column? table name := by
  have hvariant := Text.sameName_iff_caseVariant.mp hname
  rw [column?, column?, table?, table?, htable]
  exact congrArg (Option.bind _) (funext fun t => Table.column?_congr hvariant)

end Submission

namespace Standard

variable {s : Submission} {table c targetTable targetColumn : String} {col target : Column}
  {keys targets targets' : List String} {row : ℕ}

/-! ### Unmatched texts -/

lemma unmatchedRows_eq (keys targets : List String) :
    unmatchedRows keys targets = rowsWhere (fun key => key ≠ "" ∧ key ∉ targets) keys := by
  rw [unmatchedRows]
  refine congrArg (rowsWhere · keys) (funext fun key => Bool.eq_iff_iff.mpr ?_)
  simp only [Bool.and_eq_true, Bool.not_eq_true', decide_eq_true_eq, Std.HashSet.contains_ofList,
    List.contains_eq_mem, decide_eq_false_iff_not, List.mem_filter]
  tauto

lemma enumerates_unmatchedRows (keys targets : List String) :
    Enumerates (unmatchedRows keys targets) fun row =>
      ∃ key, keys[row]? = some key ∧ key ≠ "" ∧ key ∉ targets := by
  rw [unmatchedRows_eq, rowsWhere]
  refine (enumerates_places keys fun key => key ≠ "" ∧ key ∉ targets).congr fun row => ?_
  simp only [decide_eq_true_eq]

/-- The targets matter as a set of texts that are not blank. -/
lemma unmatchedRows_congr (h : ∀ key, key ≠ "" → (key ∈ targets' ↔ key ∈ targets)) :
    unmatchedRows keys targets' = unmatchedRows keys targets := by
  rw [unmatchedRows_eq, unmatchedRows_eq]
  refine congrArg (rowsWhere · keys) (funext fun key => decide_eq_decide.mpr ?_)
  exact and_congr_right fun hne => not_congr (h key hne)

/-- With more targets no further row is unmatched. -/
lemma unmatchedRows_subset (h : targets ⊆ targets') :
    unmatchedRows keys targets' ⊆ unmatchedRows keys targets := by
  intro row hrow
  obtain ⟨key, hkey, hne, hnot⟩ := (enumerates_unmatchedRows keys targets').mem_iff row |>.mp hrow
  exact (enumerates_unmatchedRows keys targets).mem_iff row |>.mpr
    ⟨key, hkey, hne, fun hmem => hnot (h hmem)⟩

/-- Texts are matched by themselves. -/
lemma unmatchedRows_self (keys : List String) : unmatchedRows keys keys = [] := by
  refine List.eq_nil_iff_forall_not_mem.mpr fun row hrow => ?_
  obtain ⟨key, hkey, -, hnot⟩ := (enumerates_unmatchedRows keys keys).mem_iff row |>.mp hrow
  exact hnot (List.mem_of_getElem? hkey)

/-! ### The check for references -/

lemma flagged_references (hcol : s.column? table c = some col)
    (htarget : s.column? targetTable targetColumn = some target) :
    (references c targetTable targetColumn).flagged s table =
      .ok (unmatchedRows col.keys target.keys) := by
  rw [flagged, Submission.requireColumn_eq hcol, Submission.requireColumn_eq htarget]
  rfl

/-- Rows added to the table of the targets, which is not the rule's own, leave the column that is
checked and add to the targets. -/
lemma exists_target_of_extends {t t' : Table} (hcol : s.column? table c = some col)
    (htarget : s.column? targetTable targetColumn = some target)
    (ht : s.table? targetTable = some t) (hextends : t'.Extends t)
    (hother : Text.identifier targetTable ≠ Text.identifier table) :
    (s.insert targetTable t').column? table c = some col ∧
      ∃ target', (s.insert targetTable t').column? targetTable targetColumn = some target' ∧
        target.keys ⊆ target'.keys := by
  have hfound : t.column? targetColumn = some target := by
    rw [Submission.column?, ht] at htarget
    exact htarget
  obtain ⟨target', htarget', hcells⟩ := hextends.exists_column? hfound
  refine ⟨?_, target', ?_, (hcells.map Cell.key).subset⟩
  · rw [Submission.column?, Submission.table?_insert, if_neg hother.symm]
    exact hcol
  · rw [Submission.column?, Submission.table?_insert, if_pos rfl]
    exact htarget'

/-- **References**: where both columns are found, the check flags the rows whose trimmed text is not
blank and is no trimmed text of the target column, letter by letter.  So it flags the same rows for
target columns with the same texts that are not blank; rows added to a target table other than the
rule's own make it flag no further row; and it flags nothing where both names find one column. -/
theorem references_flags (hcol : s.column? table c = some col)
    (htarget : s.column? targetTable targetColumn = some target) :
    ((references c targetTable targetColumn).Flags s table fun row =>
      ∃ key, col.keys[row]? = some key ∧ key ≠ "" ∧ key ∉ target.keys) ∧
    (∀ {s' : Submission} {table' c' targetTable' targetColumn' : String} {col' target' : Column},
      s'.column? table' c' = some col' → s'.column? targetTable' targetColumn' = some target' →
      col'.keys = col.keys → (∀ key, key ≠ "" → (key ∈ target'.keys ↔ key ∈ target.keys)) →
      (references c' targetTable' targetColumn').flagged s' table' =
        (references c targetTable targetColumn).flagged s table) ∧
    (∀ {t t' : Table}, s.table? targetTable = some t → t'.Extends t →
      Text.identifier targetTable ≠ Text.identifier table →
      ∃ rows rows', (references c targetTable targetColumn).flagged s table = .ok rows ∧
        (references c targetTable targetColumn).flagged (s.insert targetTable t') table =
          .ok rows' ∧ rows' ⊆ rows) ∧
    (Text.identifier targetTable = Text.identifier table → Text.sameName targetColumn c = true →
      (references c targetTable targetColumn).flagged s table = .ok []) := by
  have hflagged := flagged_references hcol htarget
  refine ⟨flags_of_flagged (enumerates_unmatchedRows _ _) hflagged,
    fun hcol' htarget' hkeys hsame => ?_, fun ht hextends hother => ?_, fun htable hname => ?_⟩
  · rw [flagged_references hcol' htarget', hflagged, hkeys, unmatchedRows_congr hsame]
  · obtain ⟨hcol', target', htarget', hsubset⟩ :=
      exists_target_of_extends hcol htarget ht hextends hother
    exact ⟨_, _, hflagged, flagged_references hcol' htarget', unmatchedRows_subset hsubset⟩
  · rw [Submission.column?_congr htable hname, hcol] at htarget
    obtain rfl : col = target := Option.some.inj htarget
    rw [hflagged, unmatchedRows_self]

/-- Numbers and texts that name schools, blank cells among them. -/
def attended : Column :=
  ⟨"School", [.integer 7, .text "a", .text "A ", .none, .text "9", .text " "]⟩

/-- The schools, one of them a number as text, and blank cells. -/
def schoolCodes : Column :=
  ⟨"Code", [.text " 7", .none, .text "A", .text ""]⟩

/-- The same schools in another order, one of them twice. -/
def relisted : Column :=
  ⟨"Name", [.text "A", .text "7", .integer 7]⟩

/-- The schools in a table. -/
def registered : Table :=
  ⟨[schoolCodes], 4, by decide⟩

/-- The schools with one more between them. -/
def enlarged : Table :=
  ⟨[⟨"Code", [.text " 7", .integer 9, .none, .text "A", .text ""]⟩], 5, by decide⟩

/-- A return with pupils and schools. -/
def enrolment : Submission :=
  ((Submission.empty.insert "pupils" ⟨[attended], 6, by decide⟩).insert "schools"
    registered).insert "names" ⟨[relisted], 3, by decide⟩

/-- The letter case of a school counts, its type and blanks do not.  Relisted schools make no
difference, a school that is added takes a row out, and no pupil's school differs from itself. -/
theorem references_flags_enrolment :
    enrolment.column? "pupils" "school" = some attended ∧
    enrolment.column? "Schools" "CODE" = some schoolCodes ∧
    Enumerates [1, 4] (fun row => ∃ key, attended.keys[row]? = some key ∧ key ≠ "" ∧
      key ∉ schoolCodes.keys) ∧
    ((∀ key, key ≠ "" → (key ∈ relisted.keys ↔ key ∈ schoolCodes.keys)) ∧
      (references "school" "Names" "name").flagged enrolment "pupils" =
        (references "school" "Schools" "CODE").flagged enrolment "pupils") ∧
    (enlarged.Extends registered ∧
      ∃ rows, (references "school" "Schools" "CODE").flagged
        (enrolment.insert "Schools" enlarged) "pupils" = .ok rows ∧ rows ⊆ [1, 4]) ∧
    (references "school" "PUPILS " "School").flagged enrolment "pupils" = .ok [] := by
  have hattended : enrolment.column? "pupils" "school" = some attended := by decide +kernel
  have hcodes : enrolment.column? "Schools" "CODE" = some schoolCodes := by decide +kernel
  have hname : enrolment.column? "Names" "name" = some relisted := by decide +kernel
  have hself : enrolment.column? "PUPILS " "School" = some attended := by decide +kernel
  have htargets : schoolCodes.keys = ["7", "", "A", ""] := by decide +kernel
  have hsame : ∀ key, key ≠ "" → (key ∈ relisted.keys ↔ key ∈ schoolCodes.keys) := by
    have hnames : relisted.keys = ["A", "7", "7"] := by decide +kernel
    intro key hne
    rw [hnames, htargets]
    simp [hne, or_comm]
  have htable : enrolment.table? "Schools" = some registered := by
    rw [enrolment, Submission.table?_insert, if_neg (by decide +kernel),
      Submission.table?_insert, if_pos (by decide +kernel)]
  have hextends : enlarged.Extends registered := .cons (by decide +kernel) .nil
  have hunmatched : unmatchedRows attended.keys schoolCodes.keys = [1, 4] := by
    rw [unmatchedRows_eq]
    decide +kernel
  obtain ⟨⟨rows, hrows, hok, -⟩, hcongr, hadded, -⟩ := references_flags hattended hcodes
  obtain ⟨-, -, -, hown⟩ := references_flags hattended hself
  obtain rfl : [1, 4] = rows :=
    hunmatched.symm.trans (Except.ok.inj ((flagged_references hattended hcodes).symm.trans hok))
  obtain ⟨first, later, hfirst, hlater, hsubset⟩ :=
    hadded htable hextends (by decide +kernel)
  obtain rfl : [1, 4] = first := Except.ok.inj (hok.symm.trans hfirst)
  exact ⟨hattended, hcodes, hrows, ⟨hsame, hcongr hattended hname rfl hsame⟩,
    ⟨hextends, later, hlater, hsubset⟩, hown (by decide +kernel) (by decide +kernel)⟩

end Standard

end Census
