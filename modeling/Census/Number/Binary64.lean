/-
Binary floating point numbers of 64 bits, and their shortest decimal notation.

* `Binary64`: the numbers, a finite one as sign, mantissa and exponent of two;
* `Binary64.ofBits`: the number of an interchange bit pattern;
* `Binary64.Rounding`: the decimals that read back as a given number;
* `shortest`: of the decimals with fewest digits that read back, the nearest;
* `Binary64.text`: sign and positional notation, the fraction trimmed.
-/
import Census.Number.Decimal

namespace Census.Number

/-- A binary floating point number.  The finite one is `± mantissa * 2 ^ exponent`;
`halvedBelow` says that the gap to the next smaller number is half of the gap to the next larger
one. -/
inductive Binary64
  | nan
  | infinite (negative : Bool)
  | finite (negative : Bool) (mantissa : Nat) (exponent : Int) (halvedBelow : Bool)
  deriving DecidableEq, Repr

namespace Binary64

/-- The number that a bit pattern of the interchange format denotes. -/
def ofBits (bits : UInt64) : Binary64 :=
  let negative := bits >>> 63 != 0
  let biased := ((bits >>> 52) &&& 0x7FF).toNat
  let fraction := (bits &&& 0xFFFFFFFFFFFFF).toNat
  if biased = 0x7FF then
    if fraction = 0 then infinite negative else nan
  else if biased = 0 then finite negative fraction (-1074) false
  else
    finite negative (Nat.pow 2 52 + fraction) ((biased : Int) - 1075) (fraction == 0 && biased != 1)

/-! ### The shortest decimal -/

/-- The interval of reals that round to a number, in units of `1 / denominator`: `value` is the
number itself, and the two ends belong to the interval when `closed`. -/
structure Rounding where
  low : Nat
  value : Nat
  high : Nat
  denominator : Nat
  closed : Bool
  deriving Repr

/-- Half a gap on either side of `mantissa * 2 ^ exponent`; a quarter below where the gap is
halved there.  Both ends round to an even mantissa. -/
def rounding (mantissa : Nat) (exponent : Int) (halvedBelow : Bool) : Rounding :=
  let scale := Nat.pow 2 (exponent - 2).toNat
  { low := (4 * mantissa - (if halvedBelow then 1 else 2)) * scale
    value := 4 * mantissa * scale
    high := (4 * mantissa + 2) * scale
    denominator := Nat.pow 2 (2 - exponent).toNat
    closed := mantissa % 2 == 0 }

/-- The decimal lies in the interval. -/
def Rounding.holds (r : Rounding) (d : Decimal) : Bool :=
  let x := d.digits * Nat.pow 10 d.exponent.toNat * r.denominator
  let scale := Nat.pow 10 (-d.exponent).toNat
  if r.closed then r.low * scale ≤ x && x ≤ r.high * scale
  else r.low * scale < x && x < r.high * scale

/-- The least `e` with `value < 10 ^ e`, found from a lower bound of it. -/
def magnitudeFrom (r : Rounding) : Nat → Int → Int
  | 0, e => e
  | fuel + 1, e =>
    if r.value * Nat.pow 10 (-e).toNat < Nat.pow 10 e.toNat * r.denominator then e
    else magnitudeFrom r fuel (e + 1)

/-- The least `e` with `value < 10 ^ e`.  Every positive number is at least `10 ^ (-324)` and less
than `10 ^ 309`. -/
def magnitude (r : Rounding) : Int :=
  magnitudeFrom r 640 (-324)

/-- Of the two neighbours of the number on the grid of multiples of `10 ^ exponent` the one that
reads back; of two that do the nearer, of two as near the larger. -/
def onGrid? (r : Rounding) (exponent : Int) : Option Decimal :=
  let unit := Nat.pow 10 exponent.toNat * r.denominator
  let value := r.value * Nat.pow 10 (-exponent).toNat
  let below : Decimal := ⟨value / unit, exponent⟩
  let above : Decimal := ⟨value / unit + 1, exponent⟩
  match r.holds below, r.holds above with
  | true, true => some (if 2 * (value % unit) < unit then below else above)
  | true, false => some below
  | false, true => some above
  | false, false => none

/-- The first grid, from `digits` digits on, that has a decimal which reads back. -/
def shortestFrom (r : Rounding) (magnitude : Int) : Nat → Nat → Option Decimal
  | 0, _ => none
  | fuel + 1, digits =>
    match onGrid? r (magnitude - digits) with
    | some d => some d
    | none => shortestFrom r magnitude fuel (digits + 1)

/-- The nearest of the decimals with fewest digits that read back.  Seventeen digits suffice. -/
def shortest (mantissa : Nat) (exponent : Int) (halvedBelow : Bool) : Decimal :=
  if mantissa = 0 then ⟨0, 0⟩
  else
    let r := rounding mantissa exponent halvedBelow
    (shortestFrom r (magnitude r) 17 1).getD ⟨0, 0⟩

/-! ### Notation -/

/-- Positional notation of the shortest decimal.  A zero keeps its sign. -/
def chars : Binary64 → List Char
  | nan => ['N', 'a', 'N']
  | infinite negative => (if negative then ['-'] else []) ++ ['i', 'n', 'f']
  | finite negative m e halvedBelow =>
    (if negative then ['-'] else []) ++ (shortest m e halvedBelow).chars

/-- The notation of a number in a cell. -/
def text (x : Binary64) : String :=
  String.ofList (trimFraction x.chars)

end Binary64

end Census.Number
