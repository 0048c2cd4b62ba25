/-
Text that counts as a date in a return.

* `scanDate?`: year, hyphen, month, hyphen, day, with blanks allowed before each number and a sign
  before the year;
* `isoDay?`: the day number of a text of ten bytes that is such a date of the calendar;
* `isIsoDate`: the text has a day number.
-/
import Census.Calendar.Date
import Census.Number.Integer

namespace Census

/-! ### Scanning -/

/-- The number of the leading digits, at most `most` of them, and what follows. -/
def scanNumber? (most : Nat) (cs : List Char) : Option (Nat × List Char) :=
  let ds := (cs.takeWhile Char.isDigit).take most
  if ds = [] then none else some (Number.digitsValue ds, cs.drop ds.length)

/-- A year after optional blanks: up to four digits, or a sign and any number of digits. -/
def scanYear? (cs : List Char) : Option (Int × List Char) :=
  match Text.trimLeft cs with
  | '-' :: r => (scanNumber? r.length r).map fun (n, rest) => (-(n : Int), rest)
  | '+' :: r => (scanNumber? r.length r).map fun (n, rest) => ((n : Int), rest)
  | r => (scanNumber? 4 r).map fun (n, rest) => ((n : Int), rest)

/-- What follows a hyphen. -/
def scanHyphen? : List Char → Option (List Char)
  | '-' :: r => some r
  | _ => none

/-- Year, month and day with hyphens, and nothing else. -/
def scanDate? (cs : List Char) : Option Date := do
  let (year, cs) ← scanYear? cs
  let cs ← scanHyphen? cs
  let (month, cs) ← scanNumber? 2 (Text.trimLeft cs)
  let cs ← scanHyphen? cs
  let (day, cs) ← scanNumber? 2 (Text.trimLeft cs)
  if cs = [] then some ⟨year, month, day⟩ else none

/-! ### Dates of a return -/

/-- The years that a date of a return may have. -/
def InYearRange (year : Int) : Prop :=
  -262143 ≤ year ∧ year ≤ 262142

instance (year : Int) : Decidable (InYearRange year) :=
  inferInstanceAs (Decidable (_ ∧ _))

/-- The day number of a text of ten bytes that is a date of the calendar. -/
def isoDay? (s : String) : Option Int :=
  if s.utf8ByteSize = 10 then
    ((scanDate? s.toList).filter fun d => d.Exists ∧ InYearRange d.year).map Date.dayNumber
  else none

/-- The text is a date. -/
def isIsoDate (s : String) : Bool :=
  (isoDay? s).isSome

end Census
