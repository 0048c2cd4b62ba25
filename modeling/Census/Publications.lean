/-
Published cycles.

* `Cycle`: the identifier of a reporting cycle;
* `Ruleset`: the registry frozen for a cycle, and the cycle that it was derived from;
* `Publications`: the rulesets by cycle, none of which is ever replaced;
* `publishBase`, `publish`: a cycle of its own, and one derived from another by an amendment;
* `resolve`, `ruleset`, `latest?`: what has been published.
-/
import Census.Amendment

namespace Census

/-- The identifier of a reporting cycle. -/
structure Cycle where
  id : String
  deriving DecidableEq, Repr

namespace Cycle

/-- The cycle that a text identifies: it is trimmed and must then have characters, none of them
blank. -/
def parse (text : String) : Except RegistryError Cycle :=
  let id := Text.trim text
  if id = "" ∨ id.toList.any Text.isBlank then .error (.invalidCycle text) else .ok ⟨id⟩

/-- The name under which the rules of a cycle are kept. -/
def snapshot (c : Cycle) : String :=
  "ruleset-" ++ c.id

end Cycle

/-- The registry frozen for a cycle. -/
structure Ruleset where
  cycle : Cycle
  parent : Option Cycle
  registry : Registry

/-- The published rulesets by cycle, and the policy for amendments. -/
structure Publications where
  policy : Policy
  rulesets : Keyed Ruleset

namespace Publications

/-- Nothing published yet. -/
def start (policy : Policy) : Publications :=
  ⟨policy, Keyed.empty⟩

/-- The ruleset of a cycle. -/
def find (p : Publications) (c : Cycle) : Except RegistryError Ruleset :=
  match p.rulesets.get? c.id with
  | some r => .ok r
  | none => .error (.unknownCycle c.id)

/-- The ruleset of a cycle given as text. -/
def ruleset (p : Publications) (cycle : String) : Except RegistryError Ruleset := do
  p.find (← Cycle.parse cycle)

/-- The registry of a cycle given as text. -/
def resolve (p : Publications) (cycle : String) : Except RegistryError Registry := do
  return (← p.ruleset cycle).registry

/-- The cycle that a text identifies, if nothing is published for it yet. -/
def unpublished (p : Publications) (cycle : String) : Except RegistryError Cycle := do
  let c ← Cycle.parse cycle
  if p.rulesets.contains c.id then throw (.cycleTaken c.id) else return c

/-- The publications with one more ruleset. -/
def add (p : Publications) (r : Ruleset) : Publications :=
  { p with rulesets := p.rulesets.insert r.cycle.id r }

/-- Publishes a registry for a cycle without a predecessor. -/
def publishBase (p : Publications) (cycle : String) (registry : Registry) :
    Except RegistryError Publications := do
  let c ← p.unpublished cycle
  return p.add ⟨c, none, registry⟩

/-- Publishes for a cycle what an amendment makes of the registry of a prior one. -/
def publish (p : Publications) (cycle prior : String) (a : Amendment) :
    Except RegistryError Publications := do
  let c ← p.unpublished cycle
  let prior ← Cycle.parse prior
  let base ← p.find prior
  let registry ← base.registry.amend p.policy a
  return p.add ⟨c, some prior, registry⟩

/-- The rulesets by ascending cycle. -/
def toList (p : Publications) : List Ruleset :=
  p.rulesets.values

/-- The ruleset of the highest cycle. -/
def latest? (p : Publications) : Option Ruleset :=
  p.toList.getLast?

/-- The number of published cycles. -/
def size (p : Publications) : Nat :=
  p.rulesets.size

end Publications

end Census
