/-
Reports of parts of a ledger.

* `filter_merge`: some members of two merged lists are the merged lists of these members;
* `Ledger.restrict`: a ledger cut down to the codes that pass a test;
* `issues_restrict`, `summary_restrict`: the report of the part is that part of the report;
* `filter_status_summaryRecords`: the summary less the unknown codes;
* `summaryRecords_congr`: of the rules only messages and severities are shown.
-/
import Census.Report
import Census.Proofs.Keyed

namespace Census

/-! ### Merged lists -/

section Merge

variable {α : Type} {le : α → α → Bool}

/-- A member that is not above any of the other list comes first. -/
lemma merge_cons_left {a : α} {ys : List α} (h : ∀ y ∈ ys, le a y = true) (xs : List α) :
    (a :: xs).merge ys le = a :: xs.merge ys le := by
  cases ys with
  | nil => simp
  | cons y ys => rw [List.cons_merge_cons_pos le xs ys (h y List.mem_cons_self)]

/-- A member that is below all of the other list comes first. -/
lemma merge_cons_right {b : α} {xs : List α} (h : ∀ x ∈ xs, ¬le x b = true) (ys : List α) :
    xs.merge (b :: ys) le = b :: xs.merge ys le := by
  cases xs with
  | nil => simp
  | cons x xs => rw [List.cons_merge_cons_neg le xs ys (h x List.mem_cons_self)]

/-- Some members of two ascending lists, merged, are what the merged lists have of them. -/
lemma filter_merge (trans : ∀ a b c, le a b = true → le b c = true → le a c = true) (p : α → Bool)
    {xs ys : List α} (hx : xs.Pairwise fun a b => le a b = true)
    (hy : ys.Pairwise fun a b => le a b = true) :
    (xs.merge ys le).filter p = (xs.filter p).merge (ys.filter p) le := by
  induction xs generalizing ys with
  | nil => simp
  | cons x xs ihx =>
      obtain ⟨hxs, hx'⟩ := List.pairwise_cons.mp hx
      induction ys with
      | nil => simp
      | cons y ys ihy =>
          obtain ⟨hys, hy'⟩ := List.pairwise_cons.mp hy
          by_cases hle : le x y = true
          · have hall : ∀ z ∈ (y :: ys).filter p, le x z = true := by
              intro z hz
              rcases List.mem_cons.mp (List.mem_filter.mp hz).1 with rfl | hz
              · exact hle
              · exact trans _ _ _ hle (hys z hz)
            rw [List.cons_merge_cons_pos le xs ys hle]
            by_cases hp : p x = true
            · rw [List.filter_cons_of_pos hp, List.filter_cons_of_pos hp, merge_cons_left hall,
                ihx hx' hy]
            · rw [List.filter_cons_of_neg hp, List.filter_cons_of_neg hp, ihx hx' hy]
          · have hall : ∀ z ∈ (x :: xs).filter p, ¬le z y = true := by
              intro z hz hzy
              rcases List.mem_cons.mp (List.mem_filter.mp hz).1 with rfl | hz
              · exact hle hzy
              · exact hle (trans _ _ _ (hxs z hz) hzy)
            rw [List.cons_merge_cons_neg le xs ys hle]
            by_cases hp : p y = true
            · rw [List.filter_cons_of_pos hp, List.filter_cons_of_pos (a := y) hp,
                merge_cons_right hall, ihy hy']
            · rw [List.filter_cons_of_neg hp, List.filter_cons_of_neg (a := y) hp, ihy hy']

end Merge

/-! ### Records and their codes -/

/-- Where the entries of a map give records of their own keys, the records of some keys are those
that the entries of these keys give. -/
lemma filter_flatMap_entries {γ δ : Type} {f : String × γ → List δ} {key : δ → String}
    (h : ∀ e, ∀ x ∈ f e, key x = e.1) (p : String → Bool) (es : List (String × γ)) :
    (es.flatMap f).filter (fun x => p (key x)) = (es.filter fun e => p e.1).flatMap f := by
  induction es with
  | nil => rfl
  | cons e es ih =>
      rw [List.flatMap_cons, List.filter_append, ih]
      -- all records of one key pass the test, or none does
      by_cases he : p e.1 = true
      · have hall : (f e).filter (fun x => p (key x)) = f e :=
          List.filter_eq_self.mpr fun x hx => by rw [h e x hx, he]
        rw [hall, List.filter_cons_of_pos (by exact he), List.flatMap_cons]
      · have hnone : (f e).filter (fun x => p (key x)) = [] :=
          List.filter_eq_nil_iff.mpr fun x hx => by rw [h e x hx]; exact he
        rw [hnone, List.filter_cons_of_neg (by exact he), List.nil_append]

lemma Issue.rule_of_mem_records {code : String} {i : Issue} {rec : IssueRecord}
    (h : rec ∈ i.records code) : rec.rule = code := by
  obtain ⟨_, -, rfl⟩ := List.mem_map.mp h
  rfl

namespace Ledger

variable {l l' : Ledger}

/-- A record of a report is one of an issue of its code. -/
lemma exists_issue_of_mem_issues {rec : IssueRecord} (h : rec ∈ (Report.compile l).issues) :
    ∃ issues, l.outcome? rec.rule = some (.completed issues) ∧
      ∃ i ∈ issues, rec ∈ i.records rec.rule := by
  obtain ⟨⟨code, outcome⟩, he, hrec⟩ := List.mem_flatMap.mp h
  obtain ⟨i, hi, hmem⟩ := List.mem_flatMap.mp hrec
  obtain rfl := Issue.rule_of_mem_records hmem
  cases outcome with
  | completed issues => exact ⟨issues, Keyed.mem_entries_iff.mp he, i, hi, hmem⟩
  | failed failure => exact absurd hi (by simp [Outcome.issues])

/-- Only of codes whose check came to its end are there issues. -/
lemma completed_of_mem_issues {rec : IssueRecord}
    (h : rec ∈ (Report.compile l).issues) :
    ∃ issues, l.outcome? rec.rule = some (.completed issues) :=
  let ⟨issues, hout, _⟩ := exists_issue_of_mem_issues h
  ⟨issues, hout⟩

lemma rule_of_summaryRecord? {code : String} {o : Outcome} {rec : SummaryRecord}
    (h : l.summaryRecord? code o = some rec) : rec.rule = code ∧ rec.status ≠ .unknown := by
  cases o with
  | completed issues =>
      cases issues with
      | nil => exact absurd h (by simp [summaryRecord?])
      | cons issue issues => cases h; exact ⟨rfl, by simp⟩
  | failed failure => cases h; exact ⟨rfl, by simp⟩

/-- The records of the outcomes, by ascending code. -/
def knownRecords (l : Ledger) : List SummaryRecord :=
  l.outcomes.entries.filterMap fun (code, o) => l.summaryRecord? code o

/-- The records of the unknown codes, by ascending code. -/
def unknownRecords (l : Ledger) : List SummaryRecord :=
  l.unknown.keys.map unknownRecord

lemma summaryRecords_eq (l : Ledger) :
    l.summaryRecords = l.knownRecords.merge l.unknownRecords fun a b => a.rule ≤ b.rule := rfl

lemma of_mem_knownRecords {rec : SummaryRecord} (h : rec ∈ l.knownRecords) :
    rec.rule ∈ l.outcomes.keys ∧ rec.status ≠ .unknown := by
  obtain ⟨e, hmem, he⟩ := List.mem_filterMap.mp h
  obtain ⟨hrule, hstatus⟩ := rule_of_summaryRecord? he
  exact ⟨hrule ▸ List.mem_map_of_mem hmem, hstatus⟩

lemma of_mem_unknownRecords {rec : SummaryRecord} (h : rec ∈ l.unknownRecords) :
    rec.rule ∈ l.unknown.keys ∧ rec.status = .unknown := by
  obtain ⟨code, hcode, rfl⟩ := List.mem_map.mp h
  exact ⟨hcode, rfl⟩

lemma mem_summaryRecords {rec : SummaryRecord} :
    rec ∈ l.summaryRecords ↔ rec ∈ l.knownRecords ∨ rec ∈ l.unknownRecords := by
  rw [summaryRecords_eq, List.mem_merge]

lemma pairwise_knownRecords (l : Ledger) :
    l.knownRecords.Pairwise fun a b => decide (a.rule ≤ b.rule) = true := by
  refine List.Pairwise.filterMap _ (fun e e' hlt rec hrec rec' hrec' => ?_) l.outcomes.ascending
  rw [(rule_of_summaryRecord? hrec).1, (rule_of_summaryRecord? hrec').1, decide_eq_true_eq]
  exact String.not_lt.mp (String.lt_asymm hlt)

lemma pairwise_unknownRecords (l : Ledger) :
    l.unknownRecords.Pairwise fun a b => decide (a.rule ≤ b.rule) = true := by
  refine List.pairwise_map.mpr (l.unknown.pairwise_keys.imp fun hlt => ?_)
  rw [decide_eq_true_eq]
  exact String.not_lt.mp (String.lt_asymm hlt)

/-- Some of the records of a summary are those of its two parts. -/
lemma filter_summaryRecords (l : Ledger) (p : SummaryRecord → Bool) :
    l.summaryRecords.filter p =
      (l.knownRecords.filter p).merge (l.unknownRecords.filter p) fun a b => a.rule ≤ b.rule := by
  refine filter_merge (fun a b c hab hbc => ?_) p l.pairwise_knownRecords l.pairwise_unknownRecords
  rw [decide_eq_true_eq] at hab hbc ⊢
  exact String.le_trans hab hbc

/-! ### Parts of a ledger -/

/-- The ledger cut down to the codes that pass a test. -/
def restrict (p : String → Bool) (l : Ledger) : Ledger :=
  ⟨l.outcomes.restrict p, l.rules.restrict p, l.unknown.restrict p⟩

/-- **The issues of a part** of a ledger are those of its codes, in the same order. -/
theorem issues_restrict (p : String → Bool) (l : Ledger) :
    (Report.compile (l.restrict p)).issues =
      (Report.compile l).issues.filter fun rec => p rec.rule := by
  refine (filter_flatMap_entries (fun e rec hrec => ?_) p l.outcomes.entries).symm
  obtain ⟨i, -, hi⟩ := List.mem_flatMap.mp hrec
  exact Issue.rule_of_mem_records hi

lemma knownRecords_restrict (p : String → Bool) (l : Ledger) :
    (l.restrict p).knownRecords = l.knownRecords.filter fun rec => p rec.rule := by
  have hsame : ∀ e ∈ (l.restrict p).outcomes.entries,
      (l.restrict p).summaryRecord? e.1 e.2 = l.summaryRecord? e.1 e.2 := by
    intro e he
    have hrules : (l.restrict p).rules.get? e.1 = l.rules.get? e.1 :=
      (Keyed.get?_restrict p l.rules e.1).trans (if_pos (List.mem_filter.mp he).2)
    simp only [summaryRecord?, hrules]
  rw [knownRecords, List.filterMap_congr hsame, knownRecords, List.filterMap_eq_flatMap_toList,
    List.filterMap_eq_flatMap_toList]
  refine (filter_flatMap_entries (fun e rec hrec => ?_) p l.outcomes.entries).symm
  exact (rule_of_summaryRecord? (Option.mem_toList.mp hrec)).1

lemma unknownRecords_restrict (p : String → Bool) (l : Ledger) :
    (l.restrict p).unknownRecords = l.unknownRecords.filter fun rec => p rec.rule := by
  rw [unknownRecords, unknownRecords, List.filter_map]
  show (l.unknown.restrict p).keys.map _ = _
  rw [Keyed.keys_restrict]
  rfl

/-- **The summary of a part** of a ledger has the records of its codes, in the same order. -/
theorem summary_restrict (p : String → Bool) (l : Ledger) :
    (Report.compile (l.restrict p)).summary =
      (Report.compile l).summary.filter fun rec => p rec.rule := by
  show (l.restrict p).summaryRecords = l.summaryRecords.filter fun rec => p rec.rule
  rw [filter_summaryRecords, summaryRecords_eq, knownRecords_restrict, unknownRecords_restrict]

/-! ### The unknown codes and the others -/

/-- The summary less the unknown codes has the records of the outcomes. -/
lemma filter_status_summaryRecords (l : Ledger) :
    l.summaryRecords.filter (fun rec => rec.status != .unknown) = l.knownRecords := by
  have hknown : l.knownRecords.filter (fun rec => rec.status != .unknown) = l.knownRecords :=
    List.filter_eq_self.mpr fun rec hrec => bne_iff_ne.mpr (of_mem_knownRecords hrec).2
  have hunknown : l.unknownRecords.filter (fun rec => rec.status != .unknown) = [] := by
    refine List.filter_eq_nil_iff.mpr fun rec hrec => ?_
    rw [(of_mem_unknownRecords hrec).2]
    decide
  rw [filter_summaryRecords, hknown, hunknown, List.merge_right]

/-- Without unknown codes the summary has the records of the outcomes. -/
lemma summaryRecords_of_unknown_empty {l : Ledger} (h : l.unknown = .empty) :
    l.summaryRecords = l.knownRecords := by
  rw [summaryRecords_eq, unknownRecords, h]
  exact List.merge_right ..

/-- Of the rules a summary shows only severities and messages. -/
lemma summaryRecords_congr (ho : l.outcomes = l'.outcomes) (hu : l.unknown = l'.unknown)
    (hs : ∀ code, (l.rules.get? code).map Rule.severity = (l'.rules.get? code).map Rule.severity)
    (hm : ∀ code, (l.rules.get? code).map Rule.message = (l'.rules.get? code).map Rule.message) :
    l.summaryRecords = l'.summaryRecords := by
  have hsame : ∀ code o, l.summaryRecord? code o = l'.summaryRecord? code o := by
    intro code o
    simp only [summaryRecord?, hs, hm]
  rw [summaryRecords_eq, summaryRecords_eq, knownRecords, knownRecords, unknownRecords,
    unknownRecords, ho, hu]
  simp only [hsame]

end Ledger

end Census
