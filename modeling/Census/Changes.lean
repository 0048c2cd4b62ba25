/-
What changed between two registries.

* `Changes`: codes added, removed and modified, each list ascending;
* `Registry.changesTo`: the changes from an older registry to a newer one.
-/
import Census.Registry

namespace Census

/-- The codes in which two registries differ, each list ascending. -/
structure Changes where
  added : List String
  removed : List String
  modified : List String
  deriving DecidableEq, Repr

/-- The registries do not differ. -/
def Changes.isEmpty (c : Changes) : Bool :=
  c.added.isEmpty && c.removed.isEmpty && c.modified.isEmpty

namespace Registry

/-- A rule has another description or another check than the one of its code in a registry. -/
def modifies (older : Registry) (rule : Rule) : Bool :=
  match older.rule? rule.code with
  | some previous => !previous.same rule
  | none => false

/-- The changes from an older registry to a newer one. -/
def changesTo (older newer : Registry) : Changes where
  added := (newer.toList.map (·.code)).filter fun code => !older.contains code
  removed := older.codes.filter fun code => !newer.contains code
  modified := (newer.toList.filter older.modifies).map (·.code)

end Registry

end Census
