/-
When the standard checks cannot be carried out, and which rows they flag.

* `Submission.lack?`: the table or the column that a submission lacks;
* `Standard.reads`, `Standard.lack?`: the columns that a check reads, in order, and the first item
  that is lacking;
* `Standard.lack?_eq`, `flagged_valid`: a check is refused for this item only, and what it flags are
  rows of its table, ascending;
* `Rule.examine_eq_of_body`: what becomes of a rule with a standard check;
* `Rule.CarriedOutBy`: a rule with a standard check whose columns it affects;
* `examine_eq`, `outcome_eq`: what becomes of such a rule;
* `Rule.FailsOnMissing`, `failsOnMissing`: it fails for want of what it reads only, and otherwise
  flags rows of its own table.
-/
import Census.Check.Standard
import Census.Ledger
import Census.Proofs.Distinct
import Census.Proofs.Table

namespace Census

/-! ### What is lacking -/

/-- What something is refused for. -/
def fault? {α : Type} : Except Fault α → Option Fault
  | .error fault => some fault
  | .ok _ => none

namespace Submission

variable {s : Submission} {table column : String} {fault : Fault} {keys : List String}

/-- What a submission lacks for a column of a table to be read: the table, or the column in any
spelling up to ASCII case. -/
def lack? (s : Submission) (read : String × String) : Option Fault :=
  match s.table? read.1 with
  | none => some (.missingTable read.1)
  | some t =>
    if t.columns.any fun c => Text.sameName c.name read.2 then none
    else some (.missingColumn read.1 read.2)

/-- Something is lacking when there is no table, or no column of it has the name. -/
lemma exists_lack?_iff {read : String × String} :
    (∃ fault, s.lack? read = some fault) ↔
      s.table? read.1 = none ∨ ∃ t, s.table? read.1 = some t ∧
        ∀ c ∈ t.columns, Text.sameName c.name read.2 = false := by
  rw [lack?]
  cases s.table? read.1 with
  | none => simp
  | some t => simp

/-- What is lacking is a table or a column, by the names that were asked for. -/
lemma eq_missing_of_lack? {read : String × String} (h : s.lack? read = some fault) :
    fault = .missingTable read.1 ∨ fault = .missingColumn read.1 read.2 := by
  rw [lack?] at h
  split at h
  · exact Or.inl (Option.some.inj h).symm
  · split at h
    · cases h
    · exact Or.inr (Option.some.inj h).symm

/-- What is lacking is what a look-up of the column is refused for. -/
lemma lack?_eq (s : Submission) (table column : String) :
    s.lack? (table, column) = fault? (s.requireColumn table column) := by
  rw [requireColumn, requireTable, lack?]
  cases s.table? table with
  | none => rfl
  | some t =>
      dsimp only
      rw [Table.requireColumn_eq, ← Table.isSome_column?]
      cases t.column? column <;> rfl

/-- A column that is read has one text for each row of its table. -/
lemma length_of_requireColumn (h : s.requireColumn table column = .ok keys) :
    ∃ t, s.table? table = some t ∧ keys.length = t.height := by
  rw [requireColumn, requireTable] at h
  cases ht : s.table? table with
  | none => simp [ht] at h
  | some t =>
      simp only [ht, Table.requireColumn] at h
      split at h
      · next hkeys =>
        cases h
        exact ⟨t, rfl, Table.length_of_keys? hkeys⟩
      · cases h

end Submission

/-! ### Flagged rows -/

namespace Standard

variable {s : Submission} {table : String} {check : Standard} {fault : Fault} {rows : List ℕ}

/-- The columns that a check of a rule on a table reads, in order. -/
def reads (table : String) : Standard → List (String × String)
  | required c | allowedValues c _ | unique c | isoDate c | integerRange c _ _ => [(table, c)]
  | references c targetTable targetColumn => [(table, c), (targetTable, targetColumn)]
  | dateOrder earlier later => [(table, earlier), (table, later)]

/-- The first item that is lacking of what a check reads. -/
def lack? (s : Submission) (table : String) (check : Standard) : Option Fault :=
  (check.reads table).findSome? s.lack?

/-- Something is lacking when one of the reads lacks it. -/
lemma exists_lack?_iff :
    (∃ fault, check.lack? s table = some fault) ↔
      ∃ read ∈ check.reads table, ∃ fault, s.lack? read = some fault := by
  rw [← Option.isSome_iff_exists, lack?, List.findSome?_isSome_iff]
  simp only [Option.isSome_iff_exists]

/-- What is lacking is one of the tables or columns that the check reads. -/
lemma eq_missing_of_lack? (h : check.lack? s table = some fault) :
    ∃ read ∈ check.reads table,
      fault = .missingTable read.1 ∨ fault = .missingColumn read.1 read.2 := by
  obtain ⟨read, hread, hfault⟩ := List.exists_of_findSome?_eq_some h
  exact ⟨read, hread, Submission.eq_missing_of_lack? hfault⟩

lemma findSome?_one_read {c : String} (rowsOf : List String → List ℕ) :
    [(table, c)].findSome? s.lack? =
      fault? (do let keys ← s.requireColumn table c; return rowsOf keys) := by
  rw [List.findSome?_singleton, Submission.lack?_eq]
  cases s.requireColumn table c <;> rfl

lemma findSome?_two_reads {c table' c' : String} (rowsOf : List String → List String → List ℕ) :
    [(table, c), (table', c')].findSome? s.lack? =
      fault? (do
        let keys ← s.requireColumn table c
        let keys' ← s.requireColumn table' c'
        return rowsOf keys keys') := by
  rw [List.findSome?_cons, List.findSome?_singleton, Submission.lack?_eq, Submission.lack?_eq]
  cases s.requireColumn table c with
  | error fault => rfl
  | ok keys => cases s.requireColumn table' c' <;> rfl

/-- **Refused checks**: a check is refused exactly when something is lacking, for the first such
item. -/
theorem lack?_eq (check : Standard) (s : Submission) (table : String) :
    check.lack? s table = fault? (check.flagged s table) := by
  cases check with
  | required c => exact findSome?_one_read _
  | allowedValues c allowed => exact findSome?_one_read _
  | unique c => exact findSome?_one_read _
  | isoDate c => exact findSome?_one_read _
  | integerRange c least greatest => exact findSome?_one_read _
  | references c targetTable targetColumn => exact findSome?_two_reads _
  | dateOrder earlier later => exact findSome?_two_reads _

/-- Rows of a table, ascending. -/
def RowsOf (height : ℕ) (rows : List ℕ) : Prop :=
  rows.Pairwise (· < ·) ∧ ∀ row ∈ rows, row < height

/-- The places of some members of a list are rows of it, ascending. -/
lemma rowsOf_filter_zipIdx {α : Type} (as : List α) (p : α × ℕ → Bool) :
    RowsOf as.length ((as.zipIdx.filter p).map (·.2)) := by
  have hplaces : (as.zipIdx.map (·.2)).Pairwise (· < ·) := by
    rw [List.zipIdx_map_snd]
    exact List.pairwise_lt_range'
  refine ⟨hplaces.sublist (List.filter_sublist.map _), fun row hrow => ?_⟩
  obtain ⟨q, hq, rfl⟩ := List.mem_map.mp hrow
  have hbound := List.snd_lt_add_of_mem_zipIdx (List.mem_filter.mp hq).1
  omega

lemma RowsOf.mono {height height' : ℕ} (h : RowsOf height rows) (hle : height ≤ height') :
    RowsOf height' rows :=
  ⟨h.1, fun row hrow => lt_of_lt_of_le (h.2 row hrow) hle⟩

/-- What a check makes of the columns it reads are rows of its table. -/
lemma exists_of_one_read {c : String} {rowsOf : List String → List ℕ}
    (hrows : ∀ keys, RowsOf keys.length (rowsOf keys))
    (h : (do let keys ← s.requireColumn table c; return rowsOf keys) = .ok rows) :
    ∃ t, s.table? table = some t ∧ RowsOf t.height rows := by
  cases hread : s.requireColumn table c with
  | error e => rw [hread] at h; cases h
  | ok keys =>
      rw [hread] at h
      obtain ⟨t, ht, hlength⟩ := Submission.length_of_requireColumn hread
      cases h
      exact ⟨t, ht, hlength ▸ hrows keys⟩

lemma exists_of_two_reads {c table' c' : String} {rowsOf : List String → List String → List ℕ}
    (hrows : ∀ keys keys', RowsOf keys.length (rowsOf keys keys'))
    (h : (do let keys ← s.requireColumn table c
             let keys' ← s.requireColumn table' c'
             return rowsOf keys keys') = .ok rows) :
    ∃ t, s.table? table = some t ∧ RowsOf t.height rows := by
  cases hread' : s.requireColumn table' c' with
  | error e =>
      rw [hread'] at h
      cases hread : s.requireColumn table c <;> rw [hread] at h <;> cases h
  | ok keys' =>
      rw [hread'] at h
      exact exists_of_one_read (fun keys => hrows keys keys') h

/-- **Flagged rows**: a check flags rows of its own table, ascending. -/
theorem flagged_valid (h : check.flagged s table = .ok rows) :
    ∃ t, s.table? table = some t ∧ RowsOf t.height rows := by
  cases check with
  | required c => exact exists_of_one_read (fun keys => rowsOf_filter_zipIdx keys _) h
  | allowedValues c allowed => exact exists_of_one_read (fun keys => rowsOf_filter_zipIdx keys _) h
  | unique c => exact exists_of_one_read (fun keys => rowsOf_filter_zipIdx keys _) h
  | isoDate c => exact exists_of_one_read (fun keys => rowsOf_filter_zipIdx keys _) h
  | integerRange c least greatest =>
      exact exists_of_one_read (fun keys => rowsOf_filter_zipIdx keys _) h
  | references c targetTable targetColumn =>
      exact exists_of_two_reads (fun keys _ => rowsOf_filter_zipIdx keys _) h
  | dateOrder earlier later =>
      refine exists_of_two_reads (fun starts stops => ?_) h
      have hle : (starts.zip stops).length ≤ starts.length := by
        rw [List.length_zip]
        exact min_le_left _ _
      exact (rowsOf_filter_zipIdx (starts.zip stops) _).mono hle

end Standard

/-! ### Rules with a standard check -/

/-- Fields that are requested by their own names are known. -/
lemma Findings.unknownField?_eq_none {f : Findings} {requested : List String}
    (h : ∀ name ∈ requested, name ∈ f.fields ∧ Text.trim name = name) :
    f.unknownField? requested = none := by
  refine List.find?_eq_none.mpr fun name hname => ?_
  obtain ⟨hfield, htrim⟩ := h name hname
  have hstands : Findings.stands name name = true := by
    rw [Findings.stands, htrim]
    exact Text.sameName_refl name
  simpa using ⟨name, hfield, hstands⟩

/-- The rule is carried out by a standard check, whose columns are fields of the rule. -/
structure Rule.CarriedOutBy (rule : Rule) (check : Standard) : Prop where
  body : rule.check.body = check.body
  fields : ∀ c ∈ check.columns, c ∈ rule.fields ∧ Text.trim c = c
  table : Text.identifier rule.table = rule.table

/-- What becomes of a rule with a standard check on its own table: the check is refused for the first
item that is lacking, or else for the first of its columns that is no field; otherwise it comes to
its end, with one issue unless it flags no row. -/
theorem Rule.examine_eq_of_body {rule : Rule} {check : Standard}
    (hbody : rule.check.body = check.body) (htable : Text.identifier rule.table = rule.table)
    (s : Submission) :
    rule.examine s =
      match check.flagged s rule.table, rule.findings.unknownField? check.columns with
      | .error fault, _ => (rule.findings, .refused fault)
      | .ok _, some name => (rule.findings, .refused (.unknownField rule.code name))
      | .ok rows, none =>
        (⟨rule.code, rule.table, rule.fields,
          if rows = [] then []
          else [⟨rule.code, rule.table, rule.findings.implicated check.columns, rows⟩]⟩,
          .finished) := by
  have hown : rule.findings.table = rule.table := rfl
  rw [Rule.examine, hbody, Standard.body, hown]
  cases hflagged : check.flagged s rule.table with
  | error fault => rfl
  | ok rows =>
      simp only [Findings.record, Findings.reportIn]
      cases rule.findings.unknownField? check.columns with
      | some name => rfl
      | none =>
          obtain ⟨t, -, hrows⟩ := Standard.flagged_valid hflagged
          have hdistinct : distinct rows = rows := distinct_of_nodup (hrows.1.imp ne_of_lt)
          dsimp only
          rw [hown, htable, Findings.push]
          split
          · rfl
          · rw [Issue.of, hdistinct]
            rfl

namespace Rule.CarriedOutBy

variable {rule : Rule} {check : Standard}

/-- **Examinations** by a standard check: it is refused for the first item that is lacking; otherwise
it comes to its end, with one issue unless it flags no row. -/
theorem examine_eq (h : rule.CarriedOutBy check) (s : Submission) :
    rule.examine s =
      match check.flagged s rule.table with
      | .error fault => (rule.findings, .refused fault)
      | .ok rows =>
        (⟨rule.code, rule.table, rule.fields,
          if rows = [] then []
          else [⟨rule.code, rule.table, rule.findings.implicated check.columns, rows⟩]⟩,
          .finished) := by
  have hknown : rule.findings.unknownField? check.columns = none :=
    Findings.unknownField?_eq_none h.fields
  rw [Rule.examine_eq_of_body h.body h.table, hknown]
  cases check.flagged s rule.table <;> rfl

/-- **Outcomes** of a standard check: the text of the first item that is lacking, or at most one
issue. -/
theorem outcome_eq (h : rule.CarriedOutBy check) (s : Submission) :
    rule.outcome s =
      match check.flagged s rule.table with
      | .error fault => .failed (.fault fault.text)
      | .ok rows => .completed (if rows = [] then []
          else [⟨rule.code, rule.table, rule.findings.implicated check.columns, rows⟩]) := by
  rw [Rule.outcome, h.examine_eq]
  cases check.flagged s rule.table <;> rfl

/-- It comes to its end unless something is lacking, and is refused for this. -/
lemma ending_eq (h : rule.CarriedOutBy check) (s : Submission) :
    (rule.examine s).2 = (check.lack? s rule.table).elim .finished .refused := by
  rw [h.examine_eq, Standard.lack?_eq]
  cases check.flagged s rule.table <;> rfl

lemma outcome_eq_failed_iff (h : rule.CarriedOutBy check) {s : Submission} {failure : Failure} :
    rule.outcome s = .failed failure ↔
      ∃ fault, check.lack? s rule.table = some fault ∧ failure = .fault fault.text := by
  rw [h.outcome_eq, Standard.lack?_eq]
  cases check.flagged s rule.table with
  | error fault => simp [fault?, eq_comm]
  | ok rows => simp [fault?]

/-- Its issues are in the rule's own table, and their rows are rows of it. -/
lemma exists_of_completed (h : rule.CarriedOutBy check) {s : Submission} {issues : List Issue}
    (hissues : rule.outcome s = .completed issues) :
    ∃ t, s.table? rule.table = some t ∧ (∀ issue ∈ issues, issue.table = rule.table) ∧
      Standard.RowsOf t.height (issues.flatMap Issue.rows) := by
  rw [h.outcome_eq] at hissues
  cases hflagged : check.flagged s rule.table with
  | error fault => rw [hflagged] at hissues; cases hissues
  | ok rows =>
      obtain ⟨t, ht, hrows⟩ := Standard.flagged_valid hflagged
      rw [hflagged] at hissues
      cases hissues
      by_cases hempty : rows = []
      · subst hempty
        exact ⟨t, ht, by simp, hrows⟩
      · rw [if_neg hempty]
        exact ⟨t, ht, by simp, by simpa using hrows⟩

end Rule.CarriedOutBy

/-- On a submission the rule fails in the ledger exactly for want of a table or a column that its
check reads, with the text of the first that is lacking.  Otherwise it flags rows of its own
table. -/
structure Rule.FailsOnMissing (rule : Rule) (check : Standard) (s : Submission) (l : Ledger) :
    Prop where
  /-- It fails exactly when a table that its check reads is absent, or a column that it reads has no
  match there. -/
  failed : (∃ failure, l.outcome? rule.code = some (.failed failure)) ↔
    ∃ read ∈ check.reads rule.table, s.table? read.1 = none ∨ ∃ t, s.table? read.1 = some t ∧
      ∀ c ∈ t.columns, Text.sameName c.name read.2 = false
  /-- Its failure has the text of the first item that is lacking. -/
  failure : ∀ failure, l.outcome? rule.code = some (.failed failure) →
    ∃ fault, check.lack? s rule.table = some fault ∧ failure = .fault fault.text
  /-- What is lacking is a table or a column that the check reads. -/
  missing : ∀ fault, check.lack? s rule.table = some fault → ∃ read ∈ check.reads rule.table,
    fault = .missingTable read.1 ∨ fault = .missingColumn read.1 read.2
  /-- The check comes to its end or is refused for this item; it has no other ending. -/
  ending : (rule.examine s).2 = (check.lack? s rule.table).elim .finished .refused
  /-- The rows of its issues are rows of its own table, each once and in order. -/
  rows : ∀ issues, l.outcome? rule.code = some (.completed issues) →
    ∃ t, s.table? rule.table = some t ∧ (∀ issue ∈ issues, issue.table = rule.table) ∧
      Standard.RowsOf t.height (issues.flatMap Issue.rows)

/-- A rule with a standard check that has its outcome in a ledger fails there only for want of what
it reads. -/
theorem Rule.CarriedOutBy.failsOnMissing {rule : Rule} {check : Standard} {s : Submission}
    {l : Ledger} (h : rule.CarriedOutBy check)
    (hl : l.outcome? rule.code = some (rule.outcome s)) : rule.FailsOnMissing check s l := by
  have hfailed : ∀ failure, l.outcome? rule.code = some (.failed failure) ↔
      ∃ fault, check.lack? s rule.table = some fault ∧ failure = .fault fault.text := by
    intro failure
    rw [hl, Option.some.injEq, h.outcome_eq_failed_iff]
  have hlacks : (∃ failure, l.outcome? rule.code = some (.failed failure)) ↔
      ∃ fault, check.lack? s rule.table = some fault := by
    simp only [hfailed]
    exact ⟨fun ⟨_, fault, hlack, _⟩ => ⟨fault, hlack⟩, fun ⟨fault, hlack⟩ => ⟨_, fault, hlack, rfl⟩⟩
  refine ⟨?_, fun failure => (hfailed failure).mp, fun _ => Standard.eq_missing_of_lack?,
    h.ending_eq s, fun issues hissues => ?_⟩
  · rw [hlacks, Standard.exists_lack?_iff]
    simp only [Submission.exists_lack?_iff]
  · rw [hl] at hissues
    exact h.exists_of_completed (Option.some.inj hissues)

end Census
