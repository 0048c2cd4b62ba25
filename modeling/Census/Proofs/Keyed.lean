/-
Laws of maps from text.

* `Keyed.restrict`: a map cut down to the keys that pass a test, with `get?_restrict` and
  `keys_restrict`;
* `get?_map`, `mem_keys_iff`: look-ups of an image, and the keys as what can be looked up;
* `exchange_eq`: an exchange gives what a look-up gives, and is an insertion;
* `get?_foldl_insert`, `ofList_ascending`: entries put in one after another, and the map of a list
  that is ascending already;
* `filterMap_get?_keys`: some of the keys, in their order, give the values of the restriction;
* `TextSet.mem_keys_ofList`, `TextSet.ext`: sets of texts by their members.
-/
import Mathlib.Tactic
import Census.Keyed

namespace Census

namespace Keyed

variable {α β : Type}

/-- Maps with the same entries are equal. -/
lemma ext_entries {m n : Keyed α} (h : m.entries = n.entries) : m = n := by
  cases m
  cases n
  simpa using h

/-! ### Keys -/

/-- The keys ascend. -/
lemma pairwise_keys (m : Keyed α) : m.keys.Pairwise (· < ·) :=
  List.pairwise_map.mpr m.ascending

/-- No key is listed twice. -/
lemma nodup_keys (m : Keyed α) : m.keys.Nodup :=
  m.pairwise_keys.imp fun h => String.ne_of_lt h

/-- The keys are what can be looked up. -/
lemma mem_keys_iff {m : Keyed α} {k : String} : k ∈ m.keys ↔ ∃ a, m.get? k = some a := by
  rw [keys, List.mem_map]
  constructor
  · rintro ⟨⟨k', a⟩, he, rfl⟩
    exact ⟨a, mem_entries_iff.mp he⟩
  · rintro ⟨a, ha⟩
    exact ⟨(k, a), mem_entries_iff.mpr ha, rfl⟩

lemma get?_eq_none_iff {m : Keyed α} {k : String} : m.get? k = none ↔ k ∉ m.keys := by
  rw [mem_keys_iff, Option.eq_none_iff_forall_ne_some]
  simp

lemma contains_iff {m : Keyed α} {k : String} : m.contains k = true ↔ k ∈ m.keys := by
  rw [contains, mem_keys_iff, Option.isSome_iff_exists]

/-- Two ascending lists of texts with the same members are equal. -/
lemma eq_of_mem_iff_keys {ks ls : List String} (hk : ks.Pairwise (· < ·))
    (hl : ls.Pairwise (· < ·)) (h : ∀ k, k ∈ ks ↔ k ∈ ls) : ks = ls :=
  List.Perm.eq_of_pairwise (fun _ _ _ _ h1 h2 => absurd h2 (String.lt_asymm h1)) hk hl
    ((List.perm_ext_iff_of_nodup (hk.imp fun h => String.ne_of_lt h)
      (hl.imp fun h => String.ne_of_lt h)).mpr h)

/-! ### Insertions -/

/-- An insertion of what is there changes nothing. -/
lemma insert_self {m : Keyed α} {k : String} {a : α} (h : m.get? k = some a) :
    m.insert k a = m := by
  apply ext_get?
  intro j
  rw [get?_insert]
  split
  · next hj => rw [hj, h]
  · rfl

/-- Of two insertions of one key the later one counts. -/
lemma insert_insert (m : Keyed α) (k : String) (a b : α) :
    (m.insert k a).insert k b = m.insert k b := by
  apply ext_get?
  intro j
  rw [get?_insert, get?_insert, get?_insert]
  split <;> rfl

/-- Insertions of different keys may be made in either order. -/
lemma insert_comm {k l : String} (h : k ≠ l) (m : Keyed α) (a b : α) :
    (m.insert k a).insert l b = (m.insert l b).insert k a := by
  apply ext_get?
  intro j
  simp only [get?_insert]
  by_cases hk : j = k
  · have hl : j ≠ l := fun hl => h (hk.symm.trans hl)
    rw [if_neg hl, if_pos hk, if_pos hk]
  · rw [if_neg hk, if_neg hk]

/-- In ascending order an entry displaces the one that a look-up of its key finds. -/
lemma fst_swap {es : List (String × α)} (h : es.Pairwise fun a b => a.1 < b.1) (k : String)
    (a : α) : (swap k a es).1 = es.lookup k := by
  induction es with
  | nil => rfl
  | cons e es ih =>
      obtain ⟨hfirst, hrest⟩ := List.pairwise_cons.mp h
      rw [lookup_cons_ite]
      simp only [swap]
      split
      · next hlt =>
        -- the keys behind the place are greater, so none of them is the key
        have hnone : es.lookup k = none := by
          rw [List.lookup_eq_none_iff]
          intro x hx
          simpa using String.ne_of_lt (String.lt_trans hlt (hfirst x hx))
        rw [if_neg (String.ne_of_lt hlt), hnone]
      · split
        · rfl
        · exact ih hrest

/-- An exchange gives what a look-up gives, and is an insertion. -/
lemma exchange_eq (m : Keyed α) (k : String) (a : α) :
    m.exchange k a = (m.get? k, m.insert k a) :=
  Prod.ext (fst_swap m.ascending k a) (ext_entries (snd_swap k a m.entries))

/-! ### Images -/

lemma keys_map (f : α → β) (m : Keyed α) : (m.map f).keys = m.keys := by
  simp [keys, map]

/-- An image is looked up by looking up first. -/
lemma get?_map (f : α → β) (m : Keyed α) (k : String) : (m.map f).get? k = (m.get? k).map f := by
  have key : ∀ es : List (String × α),
      (es.map fun e => (e.1, f e.2)).lookup k = (es.lookup k).map f := by
    intro es
    induction es with
    | nil => rfl
    | cons e es ih =>
        rw [List.map_cons, lookup_cons_ite, lookup_cons_ite, ih]
        split <;> rfl
  exact key m.entries

/-! ### Restriction -/

/-- The map cut down to the keys that pass a test. -/
def restrict (p : String → Bool) (m : Keyed α) : Keyed α :=
  ⟨m.entries.filter (fun e => p e.1), m.ascending.sublist List.filter_sublist⟩

lemma entries_restrict (p : String → Bool) (m : Keyed α) :
    (m.restrict p).entries = m.entries.filter (fun e => p e.1) := rfl

/-- A restriction is looked up where the test passes. -/
lemma get?_restrict (p : String → Bool) (m : Keyed α) (k : String) :
    (m.restrict p).get? k = if p k then m.get? k else none := by
  have key : ∀ es : List (String × α),
      (es.filter fun e => p e.1).lookup k = if p k then es.lookup k else none := by
    intro es
    induction es with
    | nil => simp
    | cons e es ih =>
        by_cases he : p e.1 = true
        · rw [List.filter_cons_of_pos (by exact he), lookup_cons_ite, lookup_cons_ite, ih]
          by_cases hk : k = e.1
          · rw [if_pos hk, if_pos hk, hk, if_pos he]
          · rw [if_neg hk, if_neg hk]
        · rw [List.filter_cons_of_neg (by exact he), lookup_cons_ite, ih]
          by_cases hk : k = e.1
          · rw [hk, if_neg he, if_neg he]
          · rw [if_neg hk]
  exact key m.entries

lemma keys_restrict (p : String → Bool) (m : Keyed α) :
    (m.restrict p).keys = m.keys.filter p := by
  rw [keys, keys, entries_restrict, List.filter_map]
  rfl

/-- Two restrictions one after the other are one. -/
lemma restrict_restrict (p q : String → Bool) (m : Keyed α) :
    (m.restrict p).restrict q = m.restrict fun k => p k && q k := by
  apply ext_entries
  rw [entries_restrict, entries_restrict, entries_restrict, List.filter_filter]
  simp only [Bool.and_comm]

/-- A restriction of an image is the image of the restriction. -/
lemma restrict_map (p : String → Bool) (f : α → β) (m : Keyed α) :
    (m.map f).restrict p = (m.restrict p).map f := by
  apply ext_entries
  rw [entries_restrict, map, map, List.filter_map]
  rfl

/-- A map cut down to one of its keys has the entry of this key only. -/
lemma restrict_beq {m : Keyed α} {k : String} {a : α} (h : m.get? k = some a) :
    m.restrict (· == k) = empty.insert k a := by
  apply ext_get?
  intro j
  rw [get?_restrict, get?_insert, get?_empty]
  by_cases hj : j = k
  · rw [if_pos hj, if_pos (beq_iff_eq.mpr hj), hj, h]
  · rw [if_neg hj, if_neg (by simpa using hj)]

/-- A restriction to none of the keys has no entry. -/
lemma restrict_eq_empty {p : String → Bool} {m : Keyed α} (h : ∀ k ∈ m.keys, p k = false) :
    m.restrict p = empty := by
  apply ext_get?
  intro k
  rw [get?_restrict, get?_empty]
  by_cases hk : k ∈ m.keys
  · rw [h k hk]
    rfl
  · rw [get?_eq_none_iff.mpr hk, ite_self]

/-- Some of the keys, in their order, give the values of the restriction. -/
lemma filterMap_get?_keys (p : String → Bool) (m : Keyed α) :
    (m.keys.filter p).filterMap m.get? = (m.restrict p).values := by
  rw [← keys_restrict, keys, values, List.filterMap_map, ← List.filterMap_eq_map]
  refine List.filterMap_congr fun e he => ?_
  have hm : (e.1, e.2) ∈ m.entries := (List.mem_filter.mp he).1
  exact mem_entries_iff.mp hm

/-! ### Look-ups in lists of entries -/

lemma mem_of_lookup {es : List (String × α)} {k : String} {a : α} (h : es.lookup k = some a) :
    (k, a) ∈ es := by
  induction es with
  | nil => cases h
  | cons e es ih =>
      rw [lookup_cons_ite] at h
      split at h
      · next heq =>
        obtain rfl := Option.some.inj h
        exact heq ▸ List.mem_cons_self
      · exact List.mem_cons_of_mem _ (ih h)

/-- With different keys, every entry is found under its own. -/
lemma lookup_of_mem {es : List (String × α)} (hne : es.Pairwise fun a b => a.1 ≠ b.1) {k : String}
    {a : α} (h : (k, a) ∈ es) : es.lookup k = some a := by
  induction es with
  | nil => cases h
  | cons e es ih =>
      obtain ⟨hfirst, hrest⟩ := List.pairwise_cons.mp hne
      rw [lookup_cons_ite]
      rcases List.mem_cons.mp h with rfl | hmem
      · rw [if_pos rfl]
      · rw [if_neg fun heq => hfirst _ hmem heq.symm]
        exact ih hrest hmem

/-! ### Entries put in one after another -/

/-- Of entries with different keys each is seen after all have been put in; elsewhere the map is
what it was. -/
lemma get?_foldl_insert {es : List (String × α)} (h : es.Pairwise (fun a b => a.1 ≠ b.1))
    (m : Keyed α) (k : String) :
    (es.foldl (fun m e => m.insert e.1 e.2) m).get? k = (es.lookup k).or (m.get? k) := by
  induction es generalizing m with
  | nil => rfl
  | cons e es ih =>
      obtain ⟨he, hes⟩ := List.pairwise_cons.mp h
      rw [List.foldl_cons, ih hes, get?_insert, lookup_cons_ite]
      by_cases hk : k = e.1
      · have hnone : es.lookup k = none := by
          rw [List.lookup_eq_none_iff]
          intro x hx
          simpa [hk] using he x hx
        rw [if_pos hk, if_pos hk, hnone]
        rfl
      · rw [if_neg hk, if_neg hk]

/-- The map of a list whose keys ascend has just the entries of the list. -/
lemma ofList_ascending {es : List (String × α)} (h : es.Pairwise (fun a b => a.1 < b.1)) :
    ofList es = ⟨es, h⟩ := by
  apply ext_get?
  intro k
  rw [ofList, get?_foldl_insert (h.imp fun hlt => String.ne_of_lt hlt), get?_empty, Option.or_none]
  rfl

/-- A map is the map of its entries. -/
lemma ofList_entries (m : Keyed α) : ofList m.entries = m :=
  ofList_ascending m.ascending

/-- A key that is new adds one to the number of keys. -/
lemma size_insert {m : Keyed α} {k : String} (h : m.get? k = none) (a : α) :
    (m.insert k a).size = m.size + 1 := by
  have key : ∀ es : List (String × α), es.lookup k = none →
      (place k a es).length = es.length + 1 := by
    intro es
    induction es with
    | nil => intro _; rfl
    | cons e es ih =>
        intro hnone
        rw [lookup_cons_ite] at hnone
        have hk : k ≠ e.1 := fun hk => by simp [hk] at hnone
        rw [if_neg hk] at hnone
        rw [place, if_neg hk]
        split
        · rfl
        · rw [List.length_cons, ih hnone, List.length_cons]
  exact key m.entries h

end Keyed

/-! ### Sets of texts -/

namespace TextSet

/-- The members of the set of a list are those of the list. -/
lemma mem_keys_ofList {ts : List String} {t : String} : t ∈ (ofList ts).keys ↔ t ∈ ts := by
  have key : ∀ (ts : List String) (s : TextSet),
      t ∈ (ts.foldl add s).keys ↔ t ∈ ts ∨ t ∈ s.keys := by
    intro ts
    induction ts with
    | nil => simp
    | cons u us ih =>
        intro s
        rw [List.foldl_cons, ih, ← Keyed.contains_iff, contains_add, Bool.or_eq_true, beq_iff_eq,
          Keyed.contains_iff, List.mem_cons]
        tauto
  rw [ofList, key]
  simp [Keyed.keys, Keyed.empty]

/-- Sets with the same members are equal. -/
lemma ext {s s' : TextSet} (h : ∀ t, t ∈ s.keys ↔ t ∈ s'.keys) : s = s' := by
  apply Keyed.ext_get?
  intro t
  have unit : ∀ u : TextSet, u.get? t = if t ∈ u.keys then some () else none := by
    intro u
    by_cases ht : t ∈ u.keys
    · obtain ⟨a, ha⟩ := Keyed.mem_keys_iff.mp ht
      rw [if_pos ht, ha]
    · rw [if_neg ht, Keyed.get?_eq_none_iff.mpr ht]
  rw [unit, unit, if_congr (h t) rfl rfl]

/-- A set is the set of its members. -/
lemma ofList_keys (s : TextSet) : ofList s.keys = s :=
  ext fun _ => mem_keys_ofList

end TextSet

end Census
