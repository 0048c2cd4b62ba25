/-
Laws of lists with later repetitions dropped, and lists without any.

* `distinct_eq`: what is kept stands at the index of its value;
* `distinct_sublist`, `mem_distinct`, `nodup_distinct`: the members in their order, each once;
* `length_distinct`, `length_filter_distinct`: as many as there are different members;
* `distinct_of_nodup`: nothing is dropped where nothing is repeated;
* `distinct_eq_eraseDups`: what is dropped has an equal member in front of it;
* `idxOf_ne_iff`: a member does not stand at its index when an equal one stands before it;
* `Enumerates`: an ascending list of what has a property.
-/
import Mathlib.Tactic
import Census.Distinct

namespace Census

variable {α : Type} [BEq α] [LawfulBEq α] [Hashable α] [LawfulHashable α]

/-- Kept are the members that stand at their index. -/
lemma distinct_eq (as : List α) :
    distinct as = (as.zipIdx.filter fun p => as.idxOf p.1 == p.2).map (·.1) := by
  have hsame : ∀ p ∈ as.zipIdx,
      ((firstPlaces as)[p.1]? == some p.2) = (as.idxOf p.1 == p.2) := by
    intro p hp
    have hmem : as.contains p.1 = true :=
      List.contains_iff_mem.mpr (List.fst_mem_of_mem_zipIdx hp)
    rw [getElem?_firstPlaces, if_pos hmem]
    rfl
  exact congrArg _ (List.filter_congr hsame)

lemma distinct_sublist (as : List α) : (distinct as).Sublist as := by
  have hall : as.zipIdx.map (·.1) = as := List.zipIdx_map_fst 0 as
  rw [distinct_eq]
  conv_rhs => rw [← hall]
  exact List.filter_sublist.map _

/-- No member is lost. -/
lemma mem_distinct {as : List α} {a : α} : a ∈ distinct as ↔ a ∈ as := by
  refine ⟨fun h => (distinct_sublist as).subset h, fun h => ?_⟩
  have hidx : as[as.idxOf a]? = some a := List.getElem?_idxOf h
  rw [distinct_eq]
  refine List.mem_map.mpr ⟨(a, as.idxOf a), List.mem_filter.mpr ⟨?_, beq_self_eq_true _⟩, rfl⟩
  exact List.mk_mem_zipIdx_iff_getElem?.mpr hidx

/-- No member is kept twice. -/
lemma nodup_distinct (as : List α) : (distinct as).Nodup := by
  have hplaces : (as.zipIdx.map (·.2)).Nodup := by
    rw [List.zipIdx_map_snd]
    exact List.nodup_range'
  have hpairs : as.zipIdx.Pairwise fun p q => p.2 ≠ q.2 := List.pairwise_map.mp hplaces
  rw [distinct_eq, List.Nodup, List.pairwise_map]
  refine (hpairs.filter _).imp_of_mem fun {p q} hp hq hne heq => hne ?_
  -- two members of one value stand at one index
  have hpi := beq_iff_eq.mp (List.mem_filter.mp hp).2
  have hqi := beq_iff_eq.mp (List.mem_filter.mp hq).2
  rw [← hpi, ← hqi, heq]

/-- Of the members that pass a test as many are kept as there are different ones. -/
lemma length_filter_distinct [DecidableEq α] (p : α → Bool) (as : List α) :
    ((distinct as).filter p).length = (as.filter p).toFinset.card := by
  have hset : ((distinct as).filter p).toFinset = (as.filter p).toFinset := by
    ext a
    simp only [List.mem_toFinset, List.mem_filter, mem_distinct]
  rw [← hset, List.toFinset_card_of_nodup ((nodup_distinct as).filter p)]

/-- As many members are kept as there are different ones. -/
lemma length_distinct [DecidableEq α] (as : List α) :
    (distinct as).length = as.toFinset.card := by
  have hall := length_filter_distinct (fun _ => true) as
  rwa [List.filter_true, List.filter_true] at hall

/-- Where nothing is repeated nothing is dropped. -/
lemma distinct_of_nodup {as : List α} (h : as.Nodup) : distinct as = as := by
  have hsubset : as ⊆ distinct as := fun a ha => mem_distinct.mpr ha
  have hlength : as.length ≤ (distinct as).length := (h.subperm hsubset).length_le
  exact (distinct_sublist as).eq_of_length_le hlength

/-- A last member is kept where it has no equal in front of it. -/
lemma distinct_concat (as : List α) (a : α) :
    distinct (as ++ [a]) = distinct as ++ if as.contains a then [] else [a] := by
  have hsame : ∀ p ∈ as.zipIdx, ((as ++ [a]).idxOf p.1 == p.2) = (as.idxOf p.1 == p.2) := by
    intro p hp
    rw [List.idxOf_append, if_pos (List.fst_mem_of_mem_zipIdx hp)]
  have hlast : ((as ++ [a]).idxOf a == as.length) = !as.contains a := by
    rw [List.idxOf_append]
    by_cases ha : a ∈ as
    · have hlt : as.idxOf a ≠ as.length := (List.idxOf_lt_length_of_mem ha).ne
      simp [ha, hlt]
    · simp [ha]
  rw [distinct_eq, List.zipIdx_append, List.filter_append, List.map_append, distinct_eq,
    List.filter_congr hsame, Nat.zero_add, List.zipIdx_singleton]
  rw [List.filter_cons, hlast]
  cases as.contains a <;> rfl

/-- Of equal members the first one keeps its place. -/
lemma distinct_eq_eraseDups (as : List α) : distinct as = as.eraseDups := by
  induction as using List.reverseRecOn with
  | nil => rfl
  | append_singleton as a ih =>
      rw [distinct_concat, ih, List.eraseDups_append]
      by_cases ha : a ∈ as
      · simp [List.removeAll, ha]
      · simp [List.removeAll, List.eraseDups_cons, ha]

/-- An equal member stands before a place exactly when the first one does. -/
lemma idxOf_ne_iff {β : Type} [BEq β] [LawfulBEq β] {as : List β} {a : β} {i : ℕ}
    (h : as[i]? = some a) : as.idxOf a ≠ i ↔ ∃ j < i, as[j]? = some a := by
  have hmem : a ∈ as := List.mem_of_getElem? h
  have hle : ∀ j, as[j]? = some a → as.idxOf a ≤ j := by
    intro j hj
    have htake : a ∈ as.take (j + 1) :=
      List.mem_of_getElem? ((List.getElem?_take_of_lt (Nat.lt_succ_self j)).trans hj)
    exact Nat.lt_succ_iff.mp ((List.mem_take_iff_idxOf_lt hmem).mp htake)
  constructor
  · intro hne
    exact ⟨as.idxOf a, lt_of_le_of_ne (hle i h) hne, List.getElem?_idxOf hmem⟩
  · rintro ⟨j, hj, ha⟩
    exact ((hle j ha).trans_lt hj).ne

/-! ### Ascending lists -/

/-- The list holds what has a property, in ascending order. -/
structure Enumerates {β : Type} [LT β] (bs : List β) (p : β → Prop) : Prop where
  ascending : bs.Pairwise (· < ·)
  mem_iff : ∀ b, b ∈ bs ↔ p b

lemma Enumerates.congr {β : Type} [LT β] {bs : List β} {p q : β → Prop} (h : Enumerates bs p)
    (hpq : ∀ b, p b ↔ q b) : Enumerates bs q :=
  ⟨h.ascending, fun b => (h.mem_iff b).trans (hpq b)⟩

end Census
