/-
Whole numbers in decimal notation.

* `digitsValue`: the number that a list of digits denotes;
* `natural?`: one or more ASCII digits;
* `integer?`: the same after at most one sign;
* `signed64?`: trimmed text that denotes a number of the signed 64-bit range;
* `unsigned64?`: text that denotes a number of the unsigned 64-bit range, with at most one `+`.
-/
import Census.Text.Blank

namespace Census.Number

/-- The number that a list of digits denotes, most significant digit first. -/
def digitsValue (ds : List Char) : Nat :=
  ds.foldl (fun n d => 10 * n + (d.toNat - '0'.toNat)) 0

/-- One or more ASCII digits and nothing else. -/
def natural? (cs : List Char) : Option Nat :=
  if cs ≠ [] ∧ cs.all Char.isDigit then some (digitsValue cs) else none

/-- At most one sign, then one or more ASCII digits. -/
def integer? : List Char → Option Int
  | '-' :: ds => (natural? ds).map fun n => -(n : Int)
  | '+' :: ds => (natural? ds).map fun n => (n : Int)
  | ds => (natural? ds).map fun n => (n : Int)

/-- The signed 64-bit range. -/
def InSigned64 (n : Int) : Prop :=
  -9223372036854775808 ≤ n ∧ n ≤ 9223372036854775807

instance (n : Int) : Decidable (InSigned64 n) :=
  inferInstanceAs (Decidable (_ ∧ _))

/-- The number is in the unsigned 64-bit range. -/
def fitsUnsigned64 (n : Nat) : Bool :=
  n ≤ 18446744073709551615

/-- The number of the signed 64-bit range that a text denotes, once it is trimmed. -/
def signed64? (s : String) : Option Int :=
  (integer? (Text.trimChars s.toList)).filter fun n => InSigned64 n

/-- The number of the unsigned 64-bit range that a text denotes.  It may start with a `+` but is
not trimmed. -/
def unsigned64? (s : String) : Option Nat :=
  let digits := match s.toList with
    | '+' :: ds => ds
    | ds => ds
  (natural? digits).filter fitsUnsigned64

theorem signed64?_eq_some_iff {s : String} {n : Int} :
    signed64? s = some n ↔ integer? (Text.trimChars s.toList) = some n ∧ InSigned64 n := by
  simp [signed64?, Option.filter_eq_some_iff]

end Census.Number
