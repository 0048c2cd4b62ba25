/-
Maps from text, kept in ascending order of their keys.

* `Keyed α`: at most one value for each key, the entries ascending by key;
* `get?`, `insert`, `erase`, `keys`, `values`, `size`: the operations;
* `exchange`: the insertion that gives the value which it displaces;
* `get?_insert`: what an insertion does to a look-up;
* `Keyed.ext_get?`: two maps with the same look-ups are equal;
* `mem_entries_iff`: an entry is what its key looks up.

Text is ordered by code point, which is the order of its UTF-8 bytes.
-/

namespace Census

/-- A map from text: its entries in strictly ascending order of their keys. -/
structure Keyed (α : Type) where
  entries : List (String × α)
  ascending : entries.Pairwise (fun a b => a.1 < b.1)

namespace Keyed

variable {α : Type}

/-! ### Operations -/

/-- The map with no entry. -/
def empty : Keyed α :=
  ⟨[], List.Pairwise.nil⟩

instance : Inhabited (Keyed α) :=
  ⟨empty⟩

/-- The value of a key. -/
def get? (m : Keyed α) (k : String) : Option α :=
  m.entries.lookup k

/-- The key has a value. -/
def contains (m : Keyed α) (k : String) : Bool :=
  (m.get? k).isSome

/-- The keys, ascending. -/
def keys (m : Keyed α) : List String :=
  m.entries.map (·.1)

/-- The values, by ascending key. -/
def values (m : Keyed α) : List α :=
  m.entries.map (·.2)

/-- The number of keys. -/
def size (m : Keyed α) : Nat :=
  m.entries.length

/-- There is no key. -/
def isEmpty (m : Keyed α) : Bool :=
  m.entries.isEmpty

/-- Puts an entry at its place in ascending order, where it displaces one of the same key. -/
def place (k : String) (a : α) : List (String × α) → List (String × α)
  | [] => [(k, a)]
  | e :: es =>
    if k < e.1 then (k, a) :: e :: es
    else if k = e.1 then (k, a) :: es
    else e :: place k a es

theorem mem_place {k : String} {a : α} {x : String × α} {es : List (String × α)}
    (h : x ∈ place k a es) : x = (k, a) ∨ x ∈ es := by
  induction es with
  | nil => simpa [place] using h
  | cons e es ih =>
    simp only [place] at h
    split at h
    · simpa using h
    · split at h
      · rcases List.mem_cons.mp h with h | h
        · exact Or.inl h
        · exact Or.inr (List.mem_cons_of_mem _ h)
      · rcases List.mem_cons.mp h with h | h
        · exact Or.inr (h ▸ List.mem_cons_self)
        · exact (ih h).imp_right (List.mem_cons_of_mem _)

/-- Of two keys that are neither ascending nor equal, the second is the smaller. -/
theorem lt_of_not_lt_of_ne {a b : String} (h : ¬a < b) (hne : a ≠ b) : b < a :=
  Classical.byContradiction fun h' =>
    hne (String.le_antisymm (String.not_lt.mp h') (String.not_lt.mp h))

theorem pairwise_place (k : String) (a : α) {es : List (String × α)}
    (h : es.Pairwise (fun a b => a.1 < b.1)) :
    (place k a es).Pairwise (fun a b => a.1 < b.1) := by
  induction es with
  | nil => simp [place]
  | cons e es ih =>
    obtain ⟨he, hes⟩ := List.pairwise_cons.mp h
    simp only [place]
    split
    · next hk =>
      refine List.pairwise_cons.mpr ⟨fun x hx => ?_, h⟩
      rcases List.mem_cons.mp hx with rfl | hx
      · exact hk
      · exact String.lt_trans hk (he x hx)
    · next hk =>
      split
      · next hke => exact List.pairwise_cons.mpr ⟨fun x hx => hke ▸ he x hx, hes⟩
      · next hke =>
        refine List.pairwise_cons.mpr ⟨fun x hx => ?_, ih hes⟩
        rcases mem_place hx with rfl | hx
        · exact lt_of_not_lt_of_ne hk hke
        · exact he x hx

/-- Puts an entry at its place in ascending order, and gives the value that it displaces there. -/
def swap (k : String) (a : α) : List (String × α) → Option α × List (String × α)
  | [] => (none, [(k, a)])
  | e :: es =>
    if k < e.1 then (none, (k, a) :: e :: es)
    else if k = e.1 then (some e.2, (k, a) :: es)
    else
      let (old, rest) := swap k a es
      (old, e :: rest)

theorem snd_swap (k : String) (a : α) (es : List (String × α)) : (swap k a es).2 = place k a es := by
  induction es with
  | nil => rfl
  | cons e es ih =>
    simp only [swap, place]
    split
    · rfl
    · split
      · rfl
      · exact congrArg (e :: ·) ih

/-- The map with a value for one key, whatever it had before. -/
def insert (m : Keyed α) (k : String) (a : α) : Keyed α :=
  ⟨place k a m.entries, pairwise_place k a m.ascending⟩

/-- The value that a key had before, and the map with another value for it. -/
def exchange (m : Keyed α) (k : String) (a : α) : Option α × Keyed α :=
  let r := swap k a m.entries
  (r.1, ⟨r.2, snd_swap k a m.entries ▸ pairwise_place k a m.ascending⟩)

/-- The map without one key. -/
def erase (m : Keyed α) (k : String) : Keyed α :=
  ⟨m.entries.filter (fun e => e.1 != k), m.ascending.sublist List.filter_sublist⟩

/-- The map of a list of entries: of two with the same key the later one counts. -/
def ofList (es : List (String × α)) : Keyed α :=
  es.foldl (fun m e => m.insert e.1 e.2) empty

/-- The map with every value replaced by its image. -/
def map {β : Type} (f : α → β) (m : Keyed α) : Keyed β :=
  ⟨m.entries.map (fun e => (e.1, f e.2)), List.pairwise_map.mpr m.ascending⟩

/-- Equal keys with equal values, as a given comparison of values sees them. -/
def eqBy (same : α → α → Bool) (m n : Keyed α) : Bool :=
  m.keys == n.keys && (m.values.zip n.values).all fun (a, b) => same a b

/-! ### Look-ups -/

@[simp] theorem get?_empty (k : String) : (empty : Keyed α).get? k = none :=
  rfl

theorem lookup_cons_ite (e : String × α) (es : List (String × α)) (j : String) :
    (e :: es).lookup j = if j = e.1 then some e.2 else es.lookup j := by
  rw [List.lookup_cons]
  by_cases h : j = e.1
  · simp [h]
  · have : (j == e.1) = false := by simpa using h
    simp [h, this]

theorem lookup_place (k : String) (a : α) (es : List (String × α)) (j : String) :
    (place k a es).lookup j = if j = k then some a else es.lookup j := by
  induction es with
  | nil => simp only [place, lookup_cons_ite]
  | cons e es ih =>
    simp only [place]
    split
    · simp only [lookup_cons_ite]
    · split
      · next hke => subst hke; simp only [lookup_cons_ite]; split <;> rfl
      · next hke =>
        simp only [lookup_cons_ite, ih]
        by_cases h : j = e.1
        · have : ¬j = k := fun h' => hke (h'.symm.trans h)
          rw [if_pos h, if_neg this, if_pos h]
        · simp only [if_neg h]

/-- An insertion is seen at its key and nowhere else. -/
theorem get?_insert (m : Keyed α) (k : String) (a : α) (j : String) :
    (m.insert k a).get? j = if j = k then some a else m.get? j :=
  lookup_place k a m.entries j

/-! ### Entries and look-ups determine each other -/

theorem lookup_eq_some_iff {es : List (String × α)} (h : es.Pairwise (fun a b => a.1 < b.1))
    {k : String} {a : α} : es.lookup k = some a ↔ (k, a) ∈ es := by
  induction es with
  | nil => simp
  | cons e es ih =>
    obtain ⟨he, hes⟩ := List.pairwise_cons.mp h
    rw [lookup_cons_ite, List.mem_cons]
    by_cases hk : k = e.1
    · have hnot : (k, a) ∉ es := fun hm => String.lt_irrefl e.1 (hk ▸ he _ hm)
      rw [if_pos hk, Option.some.injEq]
      constructor
      · intro ha; exact Or.inl (Prod.ext hk ha.symm)
      · rintro (ha | ha)
        · rw [← ha]
        · exact (hnot ha).elim
    · rw [if_neg hk, ih hes]
      constructor
      · exact Or.inr
      · rintro (ha | ha)
        · exact (hk (by rw [← ha])).elim
        · exact ha

/-- An entry is what its key looks up. -/
theorem mem_entries_iff {m : Keyed α} {k : String} {a : α} :
    (k, a) ∈ m.entries ↔ m.get? k = some a :=
  (lookup_eq_some_iff m.ascending).symm

/-- Two ascending lists with the same members are equal. -/
theorem eq_of_mem_iff {es fs : List (String × α)} (he : es.Pairwise (fun a b => a.1 < b.1))
    (hf : fs.Pairwise (fun a b => a.1 < b.1)) (h : ∀ x, x ∈ es ↔ x ∈ fs) : es = fs := by
  induction es generalizing fs with
  | nil =>
    cases fs with
    | nil => rfl
    | cons f fs => exact absurd ((h f).mpr List.mem_cons_self) (by simp)
  | cons e es ih =>
    cases fs with
    | nil => exact absurd ((h e).mp List.mem_cons_self) (by simp)
    | cons f fs =>
      obtain ⟨he1, he2⟩ := List.pairwise_cons.mp he
      obtain ⟨hf1, hf2⟩ := List.pairwise_cons.mp hf
      have hef : e = f := by
        rcases List.mem_cons.mp ((h e).mp List.mem_cons_self) with h1 | h1
        · exact h1
        rcases List.mem_cons.mp ((h f).mpr List.mem_cons_self) with h2 | h2
        · exact h2.symm
        exact (String.lt_asymm (he1 f h2) (hf1 e h1)).elim
      subst hef
      refine congrArg (e :: ·) (ih he2 hf2 fun x => ?_)
      constructor
      · intro hx
        rcases List.mem_cons.mp ((h x).mp (List.mem_cons_of_mem _ hx)) with rfl | h1
        · exact (String.lt_irrefl _ (he1 _ hx)).elim
        · exact h1
      · intro hx
        rcases List.mem_cons.mp ((h x).mpr (List.mem_cons_of_mem _ hx)) with rfl | h1
        · exact (String.lt_irrefl _ (hf1 _ hx)).elim
        · exact h1

/-- Maps with the same look-ups are equal. -/
theorem ext_get? {m n : Keyed α} (h : ∀ k, m.get? k = n.get? k) : m = n := by
  have he : m.entries = n.entries := eq_of_mem_iff m.ascending n.ascending fun x => by
    rw [show x = (x.1, x.2) from rfl, mem_entries_iff, mem_entries_iff, h]
  cases m
  cases n
  simpa using he

end Keyed

/-! ### Sets of texts -/

/-- A finite set of texts, listed in ascending order. -/
abbrev TextSet := Keyed Unit

namespace TextSet

/-- The set with one more member. -/
def add (s : TextSet) (t : String) : TextSet :=
  s.insert t ()

/-- The set of the members of a list. -/
def ofList (ts : List String) : TextSet :=
  ts.foldl add Keyed.empty

theorem contains_add (s : TextSet) (t u : String) :
    (s.add t).contains u = (u == t || s.contains u) := by
  rw [Keyed.contains, add, Keyed.get?_insert]
  by_cases h : u = t
  · simp [h]
  · have : (u == t) = false := by simpa using h
    simp [h, this, Keyed.contains]

end TextSet

end Census
