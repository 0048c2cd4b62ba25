/-
What a run carries out.

* `Plan`: the rules of a run by ascending code, and the requested codes that no rule has;
* `Plan.of`: the plan of a registry and an optional selection of codes.
-/
import Census.Registry

namespace Census

/-- The rules of a run by ascending code, and the requested codes that no rule has. -/
structure Plan where
  rules : List Rule
  unknown : TextSet

namespace Plan

/-- The code that a selected text stands for: the text trimmed, but one that is all blank as it
is. -/
def requested (text : String) : String :=
  let code := Text.trim text
  if code = "" then text else code

/-- A selected text names a rule of the registry. -/
def names (r : Registry) (text : String) : Bool :=
  Text.trim text != "" && r.contains (Text.trim text)

/-- The plan of a registry.  Without a selection it is all of it; otherwise each selected code
counts once. -/
def of (r : Registry) (selection : Option (List String)) : Plan :=
  match selection with
  | none => ⟨r.toList, Keyed.empty⟩
  | some texts =>
    let (known, unknown) := texts.partition (names r)
    let codes := TextSet.ofList (known.map requested)
    ⟨codes.keys.filterMap r.rule?, TextSet.ofList (unknown.map requested)⟩

end Plan

end Census
