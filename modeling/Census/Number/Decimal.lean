/-
Decimal numbers in positional notation.

* `Decimal`: digits times a power of ten;
* `Decimal.chars`: the number without exponent, as many zeros as it takes;
* `trimFraction`: the notation without the zeros that end its fraction, and without a point
  that ends it.
-/

namespace Census.Number

/-- The number `digits * 10 ^ exponent`. -/
structure Decimal where
  digits : Nat
  exponent : Int
  deriving DecidableEq, Repr

namespace Decimal

/-- Positional notation.  A number of non-negative exponent has no point; any other has at least
one digit on either side of it. -/
def chars (d : Decimal) : List Char :=
  let ds := Nat.toDigits 10 d.digits
  if 0 ≤ d.exponent then
    ds ++ List.replicate d.exponent.toNat '0'
  else
    let places := (-d.exponent).toNat
    let ds := List.replicate (places + 1 - ds.length) '0' ++ ds
    ds.take (ds.length - places) ++ '.' :: ds.drop (ds.length - places)

end Decimal

/-- The list without the copies of a character that end it. -/
def dropEnd (c : Char) (cs : List Char) : List Char :=
  (cs.reverse.dropWhile (· == c)).reverse

/-- Notation without the zeros that end a fraction, and without the point when nothing follows it.
What has no point is left as it stands. -/
def trimFraction (cs : List Char) : List Char :=
  if cs.contains '.' then
    let kept := dropEnd '.' (dropEnd '0' cs)
    if kept = [] ∨ kept = ['-'] then ['0'] else kept
  else cs

end Census.Number
