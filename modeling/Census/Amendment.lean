/-
Amendments: what changes from the rules of one cycle to those of the next.

* `Amendment`: codes to delete and rules to put in;
* `Policy`: whether a deleted code has to be there;
* `Registry.amend`: the registry that an amendment makes of a base.

A code that is both deleted and put in is replaced.
-/
import Census.Registry

namespace Census

/-- Codes to delete and rules to put in, these by their own codes. -/
structure Amendment where
  deleted : TextSet
  upserted : Keyed Rule

namespace Amendment

/-- The amendment that changes nothing. -/
def empty : Amendment :=
  ⟨Keyed.empty, Keyed.empty⟩

instance : Inhabited Amendment :=
  ⟨empty⟩

/-- Deletes a code, which is trimmed. -/
def delete (a : Amendment) (code : String) : Amendment :=
  { a with deleted := a.deleted.add (Text.trim code) }

/-- Deletes the codes of a list. -/
def deleteAll (a : Amendment) (codes : List String) : Amendment :=
  codes.foldl delete a

/-- Puts in a rule, in place of one of the same code put in before. -/
def upsert (a : Amendment) (rule : Rule) : Amendment :=
  { a with upserted := a.upserted.insert rule.code rule }

/-- The amendment puts in a rule of the code. -/
def upserts (a : Amendment) (code : String) : Bool :=
  a.upserted.contains code

/-- The codes, ascending, that are deleted and put in again. -/
def replaced (a : Amendment) : List String :=
  a.deleted.keys.filter a.upserts

/-- Nothing is deleted and nothing put in. -/
def isEmpty (a : Amendment) : Bool :=
  a.deleted.isEmpty && a.upserted.isEmpty

/-- The same codes deleted and the same rules put in. -/
def same (a b : Amendment) : Bool :=
  a.deleted.keys == b.deleted.keys && a.upserted.eqBy Rule.same b.upserted

end Amendment

/-- What becomes of a deletion whose code is not there: it is refused or passed over. -/
inductive Policy
  | strict
  | lenient
  deriving DecidableEq, Repr

namespace Registry

/-- The deleted codes, ascending, that the base does not have. -/
def absentDeletions (base : Registry) (a : Amendment) : List String :=
  a.deleted.keys.filter fun code => !base.contains code

/-- Puts in the rules of the amendment, then deletes the codes that it does not put in. -/
def amended (base : Registry) (a : Amendment) : Registry :=
  let withRules := a.upserted.values.foldl put base
  (a.deleted.keys.filter fun code => !a.upserts code).foldl erase withRules

/-- The registry that an amendment makes of a base.  The strict policy refuses it for the first
deleted code that the base does not have. -/
def amend (policy : Policy) (base : Registry) (a : Amendment) : Except RegistryError Registry :=
  match policy, base.absentDeletions a with
  | .strict, code :: _ => .error (.absentDeletion code)
  | _, _ => .ok (base.amended a)

end Registry

end Census
