/-
Texts up to ASCII case, and identifiers in their normal form.

* `isUpper_iff`, `toNat_toLower`: capital letters, and lower case by code point;
* `SameLetter`, `CaseVariant`: texts that differ in the case of ASCII letters only;
* `upper_eq_upper_iff`, `sameName_iff_caseVariant`: it makes no difference whether texts are
  compared in upper case, in lower case or letter by letter;
* `trim_lower`, `identifier_identifier`: the normal form of an identifier is its own.
-/
import Mathlib
import Census.Text.Fold

namespace Census.Text

lemma isUpper_iff {c : Char} : c.isUpper = true ↔ 65 ≤ c.toNat ∧ c.toNat ≤ 90 :=
  decide_eq_true_iff

lemma toNat_toLower (c : Char) :
    c.toLower.toNat = if c.isUpper = true then c.toNat + 32 else c.toNat := by
  split
  · next hupper =>
    have hrange := isUpper_iff.mp hupper
    have hvalid : (c.toNat + 32).isValidChar := Or.inl (by omega)
    rw [Char.toLower_eq_of_isUpper hupper, Char.toNat_ofNat, if_pos hvalid]
  · next hother => rw [Char.toLower_eq_of_not_isUpper hother]

/-! ### Variants in case -/

/-- The same character, or one ASCII letter in its two cases. -/
def SameLetter (c d : Char) : Prop :=
  c = d ∨ c.isUpper = true ∧ d.toNat = c.toNat + 32 ∨ d.isUpper = true ∧ c.toNat = d.toNat + 32

/-- The texts are equal but for the case of ASCII letters. -/
def CaseVariant (a b : String) : Prop :=
  List.Forall₂ SameLetter a.toList b.toList

/-- Characters of one lower case are the same letter. -/
lemma toLower_eq_toLower_iff {c d : Char} : c.toLower = d.toLower ↔ SameLetter c d := by
  rw [SameLetter, ← Char.toNat_inj, ← Char.toNat_inj, toNat_toLower, toNat_toLower]
  simp only [isUpper_iff]
  split <;> split <;> omega

lemma lower_upper (s : String) : lower (upper s) = lower s := by
  rw [lower, toList_upper, List.map_map, lower]
  exact congrArg String.ofList (List.map_congr_left fun c _ => c.toLower_toUpper_eq_toLower)

lemma upper_lower (s : String) : upper (lower s) = upper s := by
  rw [upper, toList_lower, List.map_map, upper]
  exact congrArg String.ofList (List.map_congr_left fun c _ => c.toUpper_toLower_eq_toUpper)

/-- Texts agree in upper case when they agree in lower case. -/
lemma upper_eq_upper_iff {a b : String} : upper a = upper b ↔ lower a = lower b := by
  constructor
  · intro h
    rw [← lower_upper a, h, lower_upper]
  · intro h
    rw [← upper_lower a, h, upper_lower]

/-- Texts agree in lower case when they agree letter by letter. -/
lemma lower_eq_lower_iff {a b : String} : lower a = lower b ↔ CaseVariant a b := by
  rw [← String.toList_inj, toList_lower, toList_lower, ← List.forall₂_eq_eq_eq,
    List.forall₂_map_left_iff, List.forall₂_map_right_iff, CaseVariant]
  simp only [toLower_eq_toLower_iff]

lemma sameName_iff_upper {a b : String} : sameName a b = true ↔ upper a = upper b := by
  rw [sameName_iff, upper_eq_upper_iff]

lemma sameName_iff_caseVariant {a b : String} : sameName a b = true ↔ CaseVariant a b := by
  rw [sameName_iff, lower_eq_lower_iff]

lemma sameName_eq_false_iff {a b : String} : sameName a b = false ↔ ¬CaseVariant a b := by
  rw [← Bool.not_eq_true, sameName_iff_caseVariant]

instance (a b : String) : Decidable (CaseVariant a b) :=
  decidable_of_iff _ sameName_iff_caseVariant

-- only ASCII letters have two cases here
example : CaseVariant "Größe" "gRößE" ∧ ¬CaseVariant "Größe" "GRÖßE" := by
  decide +kernel

/-! ### Identifiers -/

/-- What is blank does not depend on the case of letters. -/
lemma isBlank_toLower (c : Char) : isBlank c.toLower = isBlank c := by
  have hletter : ∀ d : Char, 65 ≤ d.toNat ∧ d.toNat ≤ 122 → isBlank d = false := by
    intro d hd
    unfold isBlank
    generalize d.toNat = n at hd
    simp
    omega
  by_cases hupper : c.isUpper = true
  · have hrange := isUpper_iff.mp hupper
    have hlower := toNat_toLower c
    rw [if_pos hupper] at hlower
    rw [hletter c (by omega), hletter c.toLower (by omega)]
  · rw [Char.toLower_eq_of_not_isUpper hupper]

lemma lower_lower (s : String) : lower (lower s) = lower s := by
  rw [lower, toList_lower, List.map_map, lower]
  exact congrArg String.ofList (List.map_congr_left fun c _ => c.toLower_toLower_eq_toLower)

/-- Blanks at the ends go, whatever the case of the letters. -/
lemma trim_lower (s : String) : trim (lower s) = lower (trim s) := by
  have hleft : ∀ cs : List Char,
      trimLeft (cs.map Char.toLower) = (trimLeft cs).map Char.toLower := by
    intro cs
    rw [trimLeft, List.dropWhile_map, trimLeft]
    congr 2
    funext c
    exact isBlank_toLower c
  have hright : ∀ cs : List Char,
      trimRight (cs.map Char.toLower) = (trimRight cs).map Char.toLower := by
    intro cs
    rw [trimRight, ← List.map_reverse, ← trimLeft, hleft, ← List.map_reverse]
    rfl
  rw [trim, toList_lower, trimChars, hleft, hright, lower, toList_trim]
  rfl

/-- The normal form of an identifier is its own. -/
lemma identifier_identifier (s : String) : identifier (identifier s) = identifier s := by
  rw [identifier, identifier, trim_lower, lower_lower, trim_trim]

end Census.Text
