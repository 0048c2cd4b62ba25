/-
Registries: the rules of one cycle, by code.

* `Registry`: rules keyed by their codes;
* `add?`, `put`, `erase`: additions that refuse or displace a rule of the same code, and removal;
* `ofList`: the registry of a list of rules whose codes differ;
* `Registry.same`: equal codes with the same rules.
-/
import Census.Rule

namespace Census

/-- Why a registry could not be made or found. -/
inductive RegistryError
  /-- A rule of the code is there already. -/
  | codeTaken (code : String)
  /-- A list of rules has two of the code. -/
  | codeRepeated (code : String)
  /-- An amendment deletes a code that its base does not have. -/
  | absentDeletion (code : String)
  | unknownCycle (cycle : String)
  | cycleTaken (cycle : String)
  | invalidCycle (text : String)
  | draft (error : DraftError)
  deriving DecidableEq, Repr

/-- The text shown for a registry that could not be made or found. -/
def RegistryError.text : RegistryError → String
  | codeTaken code => s!"Rule code '{code}' is defined more than once"
  | codeRepeated code => s!"Duplicate rule code '{code}' in registration table"
  | absentDeletion code => s!"Delta deletes rule '{code}' which is not in the base registry"
  | unknownCycle cycle => s!"No ruleset published for cycle '{cycle}'"
  | cycleTaken cycle => s!"Ruleset for cycle '{cycle}' is already published"
  | invalidCycle text => s!"Invalid cycle identifier '{text}'"
  | draft error => error.text

/-- The rules of one cycle, by code. -/
structure Registry where
  rules : Keyed Rule

namespace Registry

/-- The registry without rules. -/
def empty : Registry :=
  ⟨Keyed.empty⟩

instance : Inhabited Registry :=
  ⟨empty⟩

/-- The rule of a code. -/
def rule? (r : Registry) (code : String) : Option Rule :=
  r.rules.get? code

/-- There is a rule of the code. -/
def contains (r : Registry) (code : String) : Bool :=
  r.rules.contains code

/-- The codes, ascending. -/
def codes (r : Registry) : List String :=
  r.rules.keys

/-- The rules, by ascending code. -/
def toList (r : Registry) : List Rule :=
  r.rules.values

/-- The number of rules. -/
def size (r : Registry) : Nat :=
  r.rules.size

/-- The registry with a rule under its code, in place of one that was there. -/
def put (r : Registry) (rule : Rule) : Registry :=
  ⟨r.rules.insert rule.code rule⟩

/-- The registry with one more rule, or nothing when there is a rule of its code. -/
def add? (r : Registry) (rule : Rule) : Option Registry :=
  if r.contains rule.code then none else some (r.put rule)

/-- The registry with one more rule. -/
def add (r : Registry) (rule : Rule) : Except RegistryError Registry :=
  match r.add? rule with
  | some r => .ok r
  | none => .error (.codeTaken rule.code)

/-- The registry without the rule of a code. -/
def erase (r : Registry) (code : String) : Registry :=
  ⟨r.rules.erase code⟩

/-- Equal codes with the same rules. -/
def same (a b : Registry) : Bool :=
  a.rules.eqBy Rule.same b.rules

/-- Adds the rules of a list in order, up to the first whose code is there already. -/
def addAll (r : Registry) : List Rule → Except RegistryError Registry
  | [] => .ok r
  | rule :: rest =>
    match r.add? rule with
    | some r => addAll r rest
    | none => .error (.codeRepeated rule.code)

/-- The registry of a list of rules whose codes differ. -/
def ofList (rules : List Rule) : Except RegistryError Registry :=
  addAll empty rules

theorem rule?_put (r : Registry) (rule : Rule) (code : String) :
    (r.put rule).rule? code = if code = rule.code then some rule else r.rule? code :=
  Keyed.get?_insert ..

end Registry

end Census
