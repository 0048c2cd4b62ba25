/-
Sets of names in which the case of ASCII letters does not count.

* `NameSet`: the spelling that came first of each name, by the name in upper case;
* `NameSet.add`, `NameSet.ofList`: names put in one after another;
* `NameSet.get?`: the spelling that the set has for a name;
* `NameSet.contains`, `NameSet.size`;
* `get?_add`: a name that is put in is seen where no other spelling of it was.
-/
import Census.Keyed
import Census.Text.Fold

namespace Census

/-- Names that differ from each other in more than ASCII case, each by its upper-case form. -/
structure NameSet where
  spellings : Keyed String
  own : ∀ form name, spellings.get? form = some name → Text.upper name = form

namespace NameSet

/-- The set without names. -/
def empty : NameSet :=
  ⟨Keyed.empty, fun _ _ h => by cases h⟩

/-- The spelling that the set has for a name. -/
def get? (s : NameSet) (name : String) : Option String :=
  s.spellings.get? (Text.upper name)

/-- The set has the name in some spelling. -/
def contains (s : NameSet) (name : String) : Bool :=
  s.spellings.contains (Text.upper name)

/-- The number of names. -/
def size (s : NameSet) : Nat :=
  s.spellings.size

/-- There is no name. -/
def isEmpty (s : NameSet) : Bool :=
  s.spellings.isEmpty

theorem own_insert (s : NameSet) (name : String) (form name' : String)
    (h : (s.spellings.insert (Text.upper name) name).get? form = some name') :
    Text.upper name' = form := by
  rw [Keyed.get?_insert] at h
  split at h
  · next hform =>
    obtain rfl := Option.some.inj h
    exact hform.symm
  · exact s.own form name' h

/-- The set with a name, which keeps the spelling that it has for it. -/
def add (s : NameSet) (name : String) : NameSet :=
  if s.contains name then s
  else ⟨s.spellings.insert (Text.upper name) name, s.own_insert name⟩

/-- The set of the names of a list. -/
def ofList (names : List String) : NameSet :=
  names.foldl add empty

/-- A name that is put in is seen where no other spelling of it was. -/
theorem get?_add (s : NameSet) (new name : String) :
    (s.add new).get? name =
      (s.get? name).or (if Text.upper name = Text.upper new then some new else none) := by
  rw [add]
  by_cases hold : s.contains new = true
  · rw [if_pos hold]
    split
    · next hform =>
      -- the spelling that the set has is kept
      obtain ⟨old, hfound⟩ := Option.isSome_iff_exists.mp hold
      rw [get?, hform, hfound]
      rfl
    · rw [Option.or_none]
  · rw [if_neg hold]
    show (s.spellings.insert (Text.upper new) new).get? (Text.upper name) = _
    rw [Keyed.get?_insert]
    split
    · next hform =>
      have hnone : s.spellings.get? (Text.upper new) = none := by
        rw [contains, Keyed.contains, Bool.not_eq_true, Option.isSome_eq_false_iff,
          Option.isNone_iff_eq_none] at hold
        exact hold
      rw [get?, hform, hnone]
      rfl
    · rw [Option.or_none]
      rfl

end NameSet

end Census
