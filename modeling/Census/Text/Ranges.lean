/-
Ranges of code points.

* `inRanges`: a number in one of some ranges.
-/
namespace Census.Text

/-- The number is in one of the ranges, ends included. -/
def inRanges (ranges : List (Nat × Nat)) (n : Nat) : Bool :=
  ranges.any fun r => r.1 ≤ n && n ≤ r.2

end Census.Text
