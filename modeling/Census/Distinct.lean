/-
First occurrences in a list.

* `firstPlaces`: where each member of a list stands first;
* `distinct`: the list with later repetitions dropped;
* `getElem?_firstPlaces`: the first place of a member is its index.
-/
import Std.Data.HashMap

namespace Census

variable {α : Type} [BEq α] [Hashable α]

/-- The first place of each member, counting from `n`. -/
def firstPlacesFrom (n : Nat) (as : List α) : Std.HashMap α Nat :=
  (as.zipIdx n).foldr (fun p m => m.insert p.1 p.2) ∅

/-- The first place of each member. -/
def firstPlaces (as : List α) : Std.HashMap α Nat :=
  firstPlacesFrom 0 as

/-- The list with later repetitions dropped. -/
def distinct (as : List α) : List α :=
  let first := firstPlaces as
  (as.zipIdx.filter fun p => first[p.1]? == some p.2).map (·.1)

theorem getElem?_firstPlacesFrom [LawfulBEq α] [LawfulHashable α] (n : Nat) (as : List α) (a : α) :
    (firstPlacesFrom n as)[a]? = if as.contains a then some (n + as.idxOf a) else none := by
  induction as generalizing n with
  | nil => simp [firstPlacesFrom]
  | cons b as ih =>
    have hstep : firstPlacesFrom n (b :: as) = (firstPlacesFrom (n + 1) as).insert b n := rfl
    rw [hstep, Std.HashMap.getElem?_insert]
    by_cases h : b = a
    · subst h; simp
    · have hb : (b == a) = false := by simpa using h
      have ha : (a == b) = false := by simpa using fun h' => h h'.symm
      simp only [hb, ih, List.contains_cons, ha, Bool.false_or, List.idxOf_cons]
      simp only [cond_false, Nat.add_assoc, Nat.add_comm 1, Bool.false_eq_true, if_false]

/-- The first place of a member is its index; what is no member has none. -/
theorem getElem?_firstPlaces [LawfulBEq α] [LawfulHashable α] (as : List α) (a : α) :
    (firstPlaces as)[a]? = if as.contains a then some (as.idxOf a) else none := by
  rw [firstPlaces, getElem?_firstPlacesFrom, Nat.zero_add]

end Census
