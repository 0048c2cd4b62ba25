/-
Spelling up to ASCII case.

* `lower`, `upper`: the text with its ASCII letters in lower or in upper case, all else as it
  stands;
* `sameName`: two names that agree up to ASCII case;
* `identifier`: the normal form of a table's identifier, trimmed and in lower case.
-/
import Census.Text.Blank

namespace Census.Text

/-- The text with the letters `A` to `Z` in lower case.  Letters beyond ASCII keep their case. -/
def lower (s : String) : String :=
  String.ofList (s.toList.map Char.toLower)

/-- The text with the letters `a` to `z` in upper case.  Letters beyond ASCII keep their case. -/
def upper (s : String) : String :=
  String.ofList (s.toList.map Char.toUpper)

/-- Two names agree when they differ in the case of ASCII letters only. -/
def sameName (a b : String) : Bool :=
  lower a == lower b

/-- The normal form of a table's identifier. -/
def identifier (s : String) : String :=
  lower (trim s)

@[simp] theorem toList_lower (s : String) : (lower s).toList = s.toList.map Char.toLower :=
  String.toList_ofList

@[simp] theorem toList_upper (s : String) : (upper s).toList = s.toList.map Char.toUpper :=
  String.toList_ofList

theorem sameName_iff {a b : String} : sameName a b = true ↔ lower a = lower b := by
  simp [sameName]

theorem sameName_refl (a : String) : sameName a a = true := by
  simp [sameName]

end Census.Text
