/-
What a report says of its ledger.

* `Ledger.issuesOf`, `Ledger.codesOf`: the issues of a code, and the codes of each status;
* `Ledger.sweep`, `sweep_eq`: the summary got in one pass over the outcomes, in which the unknown
  codes are taken up on the way;
* `SummaryRecord.Before`, `pairwise_summaryRecords`: the order of a summary;
* `map_rule_filter_status`: one record for each code of a status;
* `affectedRows_eq_card`: the rows that a record counts are those listed for its code;
* `hasErrors_compile_iff`: when a report has errors;
* `Report.Faithful`, `compile_faithful`: all of this, for every ledger.
-/
import Census.Proofs.Distinct
import Census.Proofs.Report

namespace Census

/-! ### Codes and their outcomes -/

namespace Keyed

variable {α β : Type}

/-- The keys with what they look up are the entries. -/
lemma map_keys_get? (m : Keyed α) (f : String → Option α → β) :
    m.keys.map (fun k => f k (m.get? k)) = m.entries.map fun e => f e.1 (some e.2) := by
  rw [keys, List.map_map]
  refine List.map_congr_left fun e he => ?_
  have hget : m.get? e.1 = some e.2 := mem_entries_iff.mp he
  rw [Function.comp_apply, hget]

/-- Lists got from the keys and what they look up are got from the entries. -/
lemma flatMap_keys_get? (m : Keyed α) (f : String → Option α → List β) :
    m.keys.flatMap (fun k => f k (m.get? k)) = m.entries.flatMap fun e => f e.1 (some e.2) := by
  rw [List.flatMap_def, List.flatMap_def, map_keys_get?]

/-- Keys chosen by what they look up are those of the entries chosen. -/
lemma filter_keys_get? (m : Keyed α) (p : Option α → Bool) :
    m.keys.filter (fun k => p (m.get? k)) =
      (m.entries.filter fun e => p (some e.2)).map (·.1) := by
  rw [keys, List.filter_map]
  refine congrArg _ (List.filter_congr fun e he => ?_)
  have hget : m.get? e.1 = some e.2 := mem_entries_iff.mp he
  rw [Function.comp_apply, hget]

end Keyed

namespace Ledger

/-- The issues of a code; there are none without an outcome. -/
def issuesOf (l : Ledger) (code : String) : List Issue :=
  ((l.outcome? code).map Outcome.issues).getD []

/-- The codes, ascending, that a summary has with a status: those with issues, those that failed,
and those that no rule has. -/
def codesOf (l : Ledger) : Status → List String
  | .issues => l.outcomes.keys.filter fun code => !(l.issuesOf code).isEmpty
  | .failure => l.outcomes.keys.filter fun code =>
      ((l.outcome? code).bind Outcome.failure?).isSome
  | .unknown => l.unknown.keys

/-- One pass over outcomes, ascending.  In front of each go the unknown codes below its own, behind
the last one those that are left. -/
def sweep (l : Ledger) : List (String × Outcome) → List String → List SummaryRecord
  | [], unknown => unknown.map unknownRecord
  | (code, o) :: rest, unknown =>
    (unknown.takeWhile (· < code)).map unknownRecord ++
      ((l.summaryRecord? code o).toList ++ l.sweep rest (unknown.dropWhile (· < code)))

end Ledger

/-- One record of a summary precedes another: its code is smaller, or the codes are equal and only
the other one is of an unknown code. -/
def SummaryRecord.Before (a b : SummaryRecord) : Prop :=
  a.rule < b.rule ∨ a.rule = b.rule ∧ a.status ≠ .unknown ∧ b.status = .unknown

lemma SummaryRecord.Before.trans {a b c : SummaryRecord} (hab : a.Before b) (hbc : b.Before c) :
    a.Before c := by
  rcases hab with hab | ⟨hab, ha, hb⟩
  · rcases hbc with hbc | ⟨hbc, -, -⟩
    · exact Or.inl (String.lt_trans hab hbc)
    · exact Or.inl (hbc ▸ hab)
  · rcases hbc with hbc | ⟨-, hb', -⟩
    · exact Or.inl (hab ▸ hbc)
    · exact absurd hb hb'

/-! ### Merged lists -/

section Merge

variable {α : Type} {le : α → α → Bool}

/-- What is below all of the other list comes first. -/
lemma merge_append_right {xs bs : List α} (h : ∀ b ∈ bs, ∀ x ∈ xs, ¬le x b = true)
    (ys : List α) : xs.merge (bs ++ ys) le = bs ++ xs.merge ys le := by
  induction bs with
  | nil => rfl
  | cons b bs ih =>
      have hrest : ∀ b ∈ bs, ∀ x ∈ xs, ¬le x b = true := fun b' hb' =>
        h b' (List.mem_cons_of_mem _ hb')
      rw [List.cons_append, merge_cons_right (h b List.mem_cons_self), ih hrest,
        List.cons_append]

/-- Two merged lists are in an order that each is in and that the comparison decides between
them. -/
lemma pairwise_merge {R : α → α → Prop} (trans : ∀ {a b c}, R a b → R b c → R a c)
    {xs ys : List α} (hx : xs.Pairwise R) (hy : ys.Pairwise R)
    (hpos : ∀ x ∈ xs, ∀ y ∈ ys, le x y = true → R x y)
    (hneg : ∀ x ∈ xs, ∀ y ∈ ys, ¬le x y = true → R y x) : (xs.merge ys le).Pairwise R := by
  induction xs generalizing ys with
  | nil => simpa using hy
  | cons x xs ihx =>
      obtain ⟨hxs, hx'⟩ := List.pairwise_cons.mp hx
      induction ys with
      | nil => simpa using hx
      | cons y ys ihy =>
          obtain ⟨hys, hy'⟩ := List.pairwise_cons.mp hy
          by_cases hle : le x y = true
          · have hxy : R x y := hpos x List.mem_cons_self y List.mem_cons_self hle
            rw [List.cons_merge_cons_pos le xs ys hle, List.pairwise_cons]
            refine ⟨fun z hz => ?_, ihx hx' hy (fun a ha => hpos a (List.mem_cons_of_mem _ ha))
              fun a ha => hneg a (List.mem_cons_of_mem _ ha)⟩
            rcases List.mem_merge.mp hz with hz | hz
            · exact hxs z hz
            · rcases List.mem_cons.mp hz with rfl | hz
              · exact hxy
              · exact trans hxy (hys z hz)
          · have hyx : R y x := hneg x List.mem_cons_self y List.mem_cons_self hle
            rw [List.cons_merge_cons_neg le xs ys hle, List.pairwise_cons]
            refine ⟨fun z hz => ?_, ihy hy' (fun a ha b hb => hpos a ha b
              (List.mem_cons_of_mem _ hb)) fun a ha b hb => hneg a ha b (List.mem_cons_of_mem _ hb)⟩
            rcases List.mem_merge.mp hz with hz | hz
            · rcases List.mem_cons.mp hz with rfl | hz
              · exact hyx
              · exact trans hyx (hxs z hz)
            · exact hys z hz

end Merge

namespace Ledger

variable {l : Ledger}

/-! ### One pass -/

/-- What is passed over in an ascending list of texts is below a text, what is left is not. -/
lemma not_lt_of_mem_dropWhile {ks : List String} (h : ks.Pairwise (· < ·)) {code k : String}
    (hk : k ∈ ks.dropWhile (· < code)) : ¬k < code := by
  induction ks with
  | nil => cases hk
  | cons k' ks ih =>
      obtain ⟨hks, h'⟩ := List.pairwise_cons.mp h
      rw [List.dropWhile_cons] at hk
      split at hk
      · exact ih h' hk
      · next hlt =>
        rw [decide_eq_true_eq] at hlt
        rcases List.mem_cons.mp hk with rfl | hk
        · exact hlt
        · exact fun hkc => hlt (String.lt_trans (hks k hk) hkc)

/-- **One pass**: the summary is what one pass over the outcomes gives. -/
theorem sweep_eq (l : Ledger) :
    l.sweep l.outcomes.entries l.unknown.keys = l.summaryRecords := by
  have key : ∀ (es : List (String × Outcome)) (ks : List String),
      es.Pairwise (fun a b => a.1 < b.1) → ks.Pairwise (· < ·) →
      l.sweep es ks = (es.filterMap fun e => l.summaryRecord? e.1 e.2).merge
        (ks.map unknownRecord) fun a b => a.rule ≤ b.rule := by
    intro es
    induction es with
    | nil => intro ks _ _; simp [sweep]
    | cons e es ih =>
        intro ks hes hks
        obtain ⟨he, hes'⟩ := List.pairwise_cons.mp hes
        have hrule : ∀ rec ∈ (e :: es).filterMap (fun e => l.summaryRecord? e.1 e.2),
            e.1 ≤ rec.rule := by
          intro rec hrec
          obtain ⟨e', he', hsome⟩ := List.mem_filterMap.mp hrec
          rw [(rule_of_summaryRecord? hsome).1]
          rcases List.mem_cons.mp he' with rfl | he'
          · exact String.le_refl _
          · exact String.not_lt.mp (String.lt_asymm (he e' he'))
        have hbelow : ∀ b ∈ (ks.takeWhile (· < e.1)).map unknownRecord,
            ∀ rec ∈ (e :: es).filterMap (fun e => l.summaryRecord? e.1 e.2),
              ¬decide (rec.rule ≤ b.rule) = true := by
          intro b hb rec hrec
          obtain ⟨k, hk, rfl⟩ := List.mem_map.mp hb
          have hlt : k < e.1 :=
            of_decide_eq_true (List.all_eq_true.mp List.all_takeWhile k hk)
          rw [decide_eq_true_eq]
          exact fun hle => String.not_lt.mpr (String.le_trans (hrule rec hrec) hle) hlt
        have hleft : ∀ b ∈ (ks.dropWhile (· < e.1)).map unknownRecord, e.1 ≤ b.rule := by
          intro b hb
          obtain ⟨k, hk, rfl⟩ := List.mem_map.mp hb
          exact String.not_lt.mp (not_lt_of_mem_dropWhile hks hk)
        have hks' : (ks.dropWhile (· < e.1)).Pairwise (· < ·) :=
          hks.sublist (List.dropWhile_sublist _)
        conv_rhs => rw [← List.takeWhile_append_dropWhile (p := (· < e.1)) (l := ks)]
        rw [sweep, ih _ hes' hks', List.map_append, merge_append_right hbelow,
          List.filterMap_cons]
        cases hrec : l.summaryRecord? e.1 e.2 with
        | none => rfl
        | some rec =>
            have hcode : rec.rule = e.1 := (rule_of_summaryRecord? hrec).1
            dsimp only
            rw [merge_cons_left fun b hb => decide_eq_true (hcode ▸ hleft b hb)]
            rfl
  exact key _ _ l.outcomes.ascending l.unknown.pairwise_keys

/-! ### The order of a summary -/

/-- **The order of a summary**: codes do not descend, and where no rule has a code with an outcome
its own record comes behind that of the outcome. -/
theorem pairwise_summaryRecords (l : Ledger) :
    l.summaryRecords.Pairwise SummaryRecord.Before := by
  have hknown : l.knownRecords.Pairwise SummaryRecord.Before := by
    refine List.Pairwise.filterMap _ (fun e e' hlt rec hrec rec' hrec' => ?_)
      l.outcomes.ascending
    refine Or.inl ?_
    rw [(rule_of_summaryRecord? hrec).1, (rule_of_summaryRecord? hrec').1]
    exact hlt
  have hunknown : l.unknownRecords.Pairwise SummaryRecord.Before :=
    List.pairwise_map.mpr (l.unknown.pairwise_keys.imp fun hlt => Or.inl hlt)
  rw [summaryRecords_eq]
  refine pairwise_merge (fun hab hbc => hab.trans hbc) hknown hunknown ?_ ?_
  · intro a ha b hb hle
    rw [decide_eq_true_eq] at hle
    by_cases heq : a.rule = b.rule
    · exact Or.inr ⟨heq, (of_mem_knownRecords ha).2, (of_mem_unknownRecords hb).2⟩
    · refine Or.inl (Keyed.lt_of_not_lt_of_ne ?_ (Ne.symm heq))
      exact String.not_lt.mpr hle
  · intro a _ b _ hle
    rw [decide_eq_true_eq] at hle
    exact Or.inl (String.not_le.mp hle)

/-! ### Records by status -/

/-- Where entries give records of their own keys, the records that pass a test are those of the
entries that give one. -/
lemma map_rule_filter_filterMap {γ : Type} {f : String × γ → Option SummaryRecord}
    (hrule : ∀ e rec, f e = some rec → rec.rule = e.1) (p : SummaryRecord → Bool)
    (es : List (String × γ)) :
    ((es.filterMap f).filter p).map (·.rule) = (es.filter fun e => (f e).any p).map (·.1) := by
  induction es with
  | nil => rfl
  | cons e es ih =>
      cases hrec : f e with
      | none =>
          rw [List.filterMap_cons_none hrec, ih, List.filter_cons_of_neg (by simp [hrec])]
      | some rec =>
          rw [List.filterMap_cons_some hrec]
          by_cases hp : p rec = true
          · rw [List.filter_cons_of_pos hp, List.filter_cons_of_pos (by simp [hrec, hp]),
              List.map_cons, List.map_cons, ih, hrule e rec hrec]
          · rw [List.filter_cons_of_neg hp, List.filter_cons_of_neg (by simp [hrec, hp]), ih]

/-- **Records by status**: a summary has one record for each code of a status, and no other. -/
theorem map_rule_filter_status (l : Ledger) (status : Status) :
    (l.summaryRecords.filter (·.status == status)).map (·.rule) = l.codesOf status := by
  have hnone : status ≠ .unknown →
      l.unknownRecords.filter (·.status == status) = [] := by
    intro hne
    refine List.filter_eq_nil_iff.mpr fun rec hrec => ?_
    rw [(of_mem_unknownRecords hrec).2]
    simpa using Ne.symm hne
  have hknown : ∀ p : Option Outcome → Bool,
      (∀ code o, (l.summaryRecord? code o).any (·.status == status) = p (some o)) →
      (l.knownRecords.filter (·.status == status)).map (·.rule) =
        l.outcomes.keys.filter fun code => p (l.outcome? code) := by
    intro p hp
    have hrule : ∀ (e : String × Outcome) rec, l.summaryRecord? e.1 e.2 = some rec →
        rec.rule = e.1 := fun e rec hrec => (rule_of_summaryRecord? hrec).1
    refine (map_rule_filter_filterMap hrule _ l.outcomes.entries).trans ?_
    simp only [hp]
    exact (Keyed.filter_keys_get? l.outcomes p).symm
  rw [filter_summaryRecords]
  cases status with
  | issues =>
      rw [hnone (by simp), List.merge_right]
      refine hknown (fun o => !((o.map Outcome.issues).getD []).isEmpty) fun code o => ?_
      cases o with
      | completed issues => cases issues <;> rfl
      | failed f => rfl
  | failure =>
      rw [hnone (by simp), List.merge_right]
      refine hknown (fun o => (o.bind Outcome.failure?).isSome) fun code o => ?_
      cases o with
      | completed issues => cases issues <;> rfl
      | failed f => rfl
  | unknown =>
      have hempty : l.knownRecords.filter (·.status == .unknown) = [] :=
        List.filter_eq_nil_iff.mpr fun rec hrec => by simpa using (of_mem_knownRecords hrec).2
      have hall : l.unknownRecords.filter (·.status == .unknown) = l.unknownRecords :=
        List.filter_eq_self.mpr fun rec hrec => by simpa using (of_mem_unknownRecords hrec).2
      rw [hempty, hall, List.nil_merge, unknownRecords, List.map_map]
      exact List.map_id _

/-- The records of a status are as many as its codes. -/
lemma count_compile (l : Ledger) (status : Status) :
    (Report.compile l).count status = (l.codesOf status).length := by
  rw [← map_rule_filter_status, List.length_map]
  rfl

/-! ### The listing -/

/-- The listing, by codes and their issues. -/
lemma issueRecords_eq (l : Ledger) :
    l.issueRecords = l.outcomes.keys.flatMap fun code =>
      (l.issuesOf code).flatMap fun i => i.rows.map fun row => ⟨code, i.table, i.fields, row⟩ :=
  (Keyed.flatMap_keys_get? l.outcomes fun code o =>
    ((o.map Outcome.issues).getD []).flatMap (Issue.records code)).symm

/-- The records listed for a code are those of its issues. -/
lemma filter_issueRecords {code : String} {o : Outcome} (h : l.outcome? code = some o) :
    l.issueRecords.filter (·.rule == code) = o.issues.flatMap (Issue.records code) := by
  have hone : l.outcomes.entries.filter (fun e => e.1 == code) = [(code, o)] := by
    have hcut := Keyed.restrict_beq (m := l.outcomes) h
    exact (congrArg Keyed.entries hcut :)
  have hrec : ∀ e : String × Outcome, ∀ rec ∈ e.2.issues.flatMap (Issue.records e.1),
      rec.rule = e.1 := by
    intro e rec hrec
    obtain ⟨i, -, hi⟩ := List.mem_flatMap.mp hrec
    exact Issue.rule_of_mem_records hi
  refine (filter_flatMap_entries hrec (· == code) l.outcomes.entries).trans ?_
  rw [hone, List.flatMap_singleton]

/-- As many records are listed as the issues have rows. -/
lemma length_issueRecords (l : Ledger) :
    l.issueRecords.length = ((l.outcomes.values.flatMap Outcome.issues).map Issue.rowCount).sum := by
  have hcode : ∀ e : String × Outcome, (e.2.issues.flatMap (Issue.records e.1)).length =
      (e.2.issues.map Issue.rowCount).sum := by
    intro e
    rw [List.length_flatMap]
    refine congrArg List.sum (List.map_congr_left fun i _ => ?_)
    exact List.length_map _
  rw [Keyed.values, issueRecords]
  induction l.outcomes.entries with
  | nil => rfl
  | cons e es ih =>
      rw [List.flatMap_cons, List.length_append, ih, hcode, List.map_cons, List.flatMap_cons,
        List.map_append, List.sum_append]

/-! ### Affected rows -/

/-- Issues affect the different pairs of a table and a row that they implicate. -/
lemma affectedRows_eq_card (code : String) (issues : List Issue) :
    affectedRows issues =
      ((issues.flatMap (Issue.records code)).map fun r => (r.table, r.row)).toFinset.card := by
  have hpairs : (issues.flatMap (Issue.records code)).map (fun r => (r.table, r.row)) =
      issues.flatMap fun i => i.rows.map fun row => (i.table, row) := by
    rw [List.map_flatMap]
    refine List.flatMap_congr fun i _ => ?_
    rw [Issue.records, List.map_map]
    rfl
  rw [affectedRows, length_distinct, hpairs]

lemma mem_knownRecords_iff {rec : SummaryRecord} :
    rec ∈ l.knownRecords ↔
      ∃ code o, l.outcome? code = some o ∧ l.summaryRecord? code o = some rec := by
  rw [knownRecords, List.mem_filterMap]
  constructor
  · rintro ⟨e, he, hrec⟩
    exact ⟨e.1, e.2, Keyed.mem_entries_iff.mp he, hrec⟩
  · rintro ⟨code, o, ho, hrec⟩
    exact ⟨(code, o), Keyed.mem_entries_iff.mpr ho, hrec⟩

/-- The record of an outcome is in the summary. -/
lemma mem_summaryRecords_of_outcome? {code : String} {o : Outcome} {rec : SummaryRecord}
    (ho : l.outcome? code = some o) (hrec : l.summaryRecord? code o = some rec) :
    rec ∈ l.summaryRecords :=
  mem_summaryRecords.mpr (Or.inl (mem_knownRecords_iff.mpr ⟨code, o, ho, hrec⟩))

/-- **Affected rows**: a record of issues counts the different rows listed for its code, any other
record counts none. -/
theorem affectedRows_of_mem {rec : SummaryRecord} (h : rec ∈ l.summaryRecords) :
    rec.affectedRows =
      if rec.status = .issues then
        ((l.issueRecords.filter (·.rule == rec.rule)).map
          fun r => (r.table, r.row)).toFinset.card
      else 0 := by
  rcases mem_summaryRecords.mp h with hknown | hunknown
  · obtain ⟨code, o, ho, hrec⟩ := mem_knownRecords_iff.mp hknown
    cases o with
    | failed f => cases hrec; rfl
    | completed issues =>
        cases issues with
        | nil => cases hrec
        | cons i issues =>
            cases hrec
            rw [if_pos rfl, filter_issueRecords ho]
            exact affectedRows_eq_card code (i :: issues)
  · obtain ⟨code, -, rfl⟩ := List.mem_map.mp hunknown
    rfl

/-! ### Errors -/

/-- **Errors**: a report has errors when a code is unknown, a rule failed, or a rule of severity
error has issues. -/
theorem hasErrors_compile_iff (l : Ledger) :
    (Report.compile l).hasErrors = true ↔
      (∃ code, code ∈ l.unknown.keys) ∨
      (∃ code f, l.outcome? code = some (.failed f)) ∨
      ∃ code i issues rule, l.outcome? code = some (.completed (i :: issues)) ∧
        l.rules.get? code = some rule ∧ rule.severity = .error := by
  rw [Report.hasErrors, List.any_eq_true]
  show (∃ rec ∈ l.summaryRecords, _) ↔ _
  constructor
  · rintro ⟨rec, hrec, herr⟩
    rcases mem_summaryRecords.mp hrec with hknown | hunknown
    · obtain ⟨code, o, ho, hsome⟩ := mem_knownRecords_iff.mp hknown
      cases o with
      | failed f => exact Or.inr (Or.inl ⟨code, f, ho⟩)
      | completed issues =>
          cases issues with
          | nil => cases hsome
          | cons i issues =>
              cases hsome
              have hsev : (l.rules.get? code).map Rule.severity = some .error := by
                simpa using herr
              obtain ⟨rule, hrule, hseverity⟩ := Option.map_eq_some_iff.mp hsev
              exact Or.inr (Or.inr ⟨code, i, issues, rule, ho, hrule, hseverity⟩)
    · exact Or.inl ⟨rec.rule, (of_mem_unknownRecords hunknown).1⟩
  · rintro (⟨code, hcode⟩ | ⟨code, f, ho⟩ | ⟨code, i, issues, rule, ho, hrule, hsev⟩)
    · refine ⟨unknownRecord code, mem_summaryRecords.mpr (Or.inr ?_), rfl⟩
      exact List.mem_map_of_mem hcode
    · exact ⟨_, mem_summaryRecords_of_outcome? ho rfl, rfl⟩
    · exact ⟨_, mem_summaryRecords_of_outcome? ho rfl, by simp [hrule, hsev]⟩

end Ledger

/-! ### Faithful reports -/

/-- What a report has to say of a ledger. -/
structure Report.Faithful (r : Report) (l : Ledger) : Prop where
  /-- The codes with an outcome ascend. -/
  ascending : l.outcomes.keys.Pairwise (· < ·)
  /-- Listed is, by ascending code, each row of each issue, in the order in which issues and rows were
  recorded. -/
  listing : r.issues = l.outcomes.keys.flatMap fun code =>
    (l.issuesOf code).flatMap fun i => i.rows.map fun row => ⟨code, i.table, i.fields, row⟩
  /-- The summary has one record for each code with issues, for each code that failed and for each
  unknown code, and no other. -/
  codes : ∀ status, (r.summary.filter (·.status == status)).map (·.rule) = l.codesOf status
  /-- The codes of the summary do not descend, and an unknown code comes behind the same code with
  an outcome. -/
  order : r.summary.Pairwise SummaryRecord.Before
  /-- One pass over the outcomes gives the summary. -/
  swept : r.summary = l.sweep l.outcomes.entries l.unknown.keys
  /-- A record of issues counts the different rows listed for its code, any other none. -/
  affected : ∀ rec ∈ r.summary, rec.affectedRows =
    if rec.status = .issues then
      ((r.issues.filter (·.rule == rec.rule)).map fun i => (i.table, i.row)).toFinset.card
    else 0
  /-- The failures are as many as the codes that failed. -/
  failures : r.failureCount = (l.codesOf .failure).length
  /-- The unknown codes are as many as the ledger has. -/
  unknowns : r.unknownCount = l.unknown.size
  /-- The listed rows are as many as all issues have. -/
  rows : r.issueCount = ((l.outcomes.values.flatMap Outcome.issues).map Issue.rowCount).sum
  /-- There are errors exactly when a code is unknown, a rule failed, or a rule of severity error has
  issues. -/
  errors : r.hasErrors = true ↔
    (∃ code, code ∈ l.unknown.keys) ∨
    (∃ code f, l.outcome? code = some (.failed f)) ∨
    ∃ code i issues rule, l.outcome? code = some (.completed (i :: issues)) ∧
      l.rules.get? code = some rule ∧ rule.severity = .error

/-- **Reports are faithful** to the ledger that they are compiled from, whatever was entered in
it. -/
theorem compile_faithful (l : Ledger) : (Report.compile l).Faithful l where
  ascending := l.outcomes.pairwise_keys
  listing := l.issueRecords_eq
  codes := l.map_rule_filter_status
  order := l.pairwise_summaryRecords
  swept := l.sweep_eq.symm
  affected := fun _ h => Ledger.affectedRows_of_mem h
  failures := l.count_compile .failure
  unknowns := by
    have hsize : l.unknown.size = l.unknown.keys.length := (List.length_map _).symm
    rw [hsize]
    exact l.count_compile .unknown
  rows := l.length_issueRecords
  errors := l.hasErrors_compile_iff

/-- An unknown code comes behind the same code with an outcome, also where the rule passed. -/
example :
    let outcomes := .ofList [("100", .completed []), ("200", .failed (.fault "no table"))]
    let l : Ledger := ⟨outcomes, .empty, .ofList ["200", "150", "100"]⟩
    (Report.compile l).summary.map (fun rec => (rec.rule, rec.status)) =
      [("100", .unknown), ("150", .unknown), ("200", .failure), ("200", .unknown)] := by
  cbv

end Census
