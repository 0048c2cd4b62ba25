/-
Dates of the proleptic Gregorian calendar.

* `Date`: year, month and day of the month;
* `Date.Exists`: the calendar has the date;
* `Date.dayNumber`: days since 1970-01-01;
* `Date.ofDayNumber`: the date of a day number;
* `Date.text`: year, month and day with hyphens, a year beyond 0 to 9999 with its sign;
* `instantText`, `stampText`: date and time of day of a count of milliseconds.

Years are counted with a year 0.  Internally a year starts in March, so that the day that a leap
year has more is its last.
-/

namespace Census

/-- Year, month (1 to 12) and day of the month (from 1). -/
structure Date where
  year : Int
  month : Nat
  day : Nat
  deriving DecidableEq, Repr

/-- A leap year: every fourth, but of the centuries only every fourth. -/
def isLeapYear (year : Int) : Bool :=
  year % 4 == 0 && (year % 100 != 0 || year % 400 == 0)

/-- The number of days of a month; 0 for what is no month. -/
def daysInMonth (year : Int) (month : Nat) : Nat :=
  match month with
  | 2 => if isLeapYear year then 29 else 28
  | 4 | 6 | 9 | 11 => 30
  | 1 | 3 | 5 | 7 | 8 | 10 | 12 => 31
  | _ => 0

namespace Date

/-- The calendar has the date. -/
def Exists (d : Date) : Prop :=
  1 ≤ d.day ∧ d.day ≤ daysInMonth d.year d.month

instance (d : Date) : Decidable d.Exists :=
  inferInstanceAs (Decidable (_ ∧ _))

/-! ### Day numbers -/

/-- Days from the first of March to the first of the `m`-th month after it. -/
def daysBeforeMonth (m : Nat) : Nat :=
  (153 * m + 2) / 5

/-- Days since 1970-01-01. -/
def dayNumber (d : Date) : Int :=
  let year := if d.month ≤ 2 then d.year - 1 else d.year
  let month := (d.month + 9) % 12
  365 * year + year / 4 - year / 100 + year / 400 + daysBeforeMonth month + d.day - 719469

/-- The date of a day number.  The calendar repeats every 146097 days, which are 400 years. -/
def ofDayNumber (n : Int) : Date :=
  let shifted := n + 719468
  let era := shifted / 146097
  let ofEra := (shifted % 146097).toNat
  let yearOfEra := (ofEra - ofEra / 1460 + ofEra / 36524 - ofEra / 146096) / 365
  let ofYear := ofEra - (365 * yearOfEra + yearOfEra / 4 - yearOfEra / 100)
  let m := (5 * ofYear + 2) / 153
  let month := if m < 10 then m + 3 else m - 9
  { year := 400 * era + yearOfEra + (if month ≤ 2 then 1 else 0)
    month := month
    day := ofYear - daysBeforeMonth m + 1 }

/-! ### Notation -/

/-- A number with zeros in front up to a width. -/
def padded (width n : Nat) : String :=
  let ds := Nat.toDigits 10 n
  String.ofList (List.replicate (width - ds.length) '0' ++ ds)

/-- A year in four digits; one before 0 or after 9999 with a sign in front of at least four. -/
def yearText (year : Int) : String :=
  if 0 ≤ year ∧ year ≤ 9999 then padded 4 year.toNat
  else (if year < 0 then "-" else "+") ++ padded 4 year.natAbs

/-- Year, month and day with hyphens. -/
def text (d : Date) : String :=
  yearText d.year ++ "-" ++ padded 2 d.month ++ "-" ++ padded 2 d.day

end Date

/-! ### Instants -/

/-- The time of day that is some milliseconds after midnight.  The milliseconds of the last second
are written only when there are any. -/
def timeText (milliseconds : Nat) : String :=
  let seconds := milliseconds / 1000
  let millis := milliseconds % 1000
  Date.padded 2 (seconds / 3600) ++ ":" ++ Date.padded 2 (seconds / 60 % 60) ++ ":" ++
    Date.padded 2 (seconds % 60) ++ (if millis = 0 then "" else "." ++ Date.padded 3 millis)

/-- Date and time of day of a count of milliseconds since 1970-01-01, with something between
them. -/
def dateAndTime (between : String) (milliseconds : Int) : String :=
  (Date.ofDayNumber (milliseconds / 86400000)).text ++ between ++
    timeText (milliseconds % 86400000).toNat

/-- An instant, date and time of day apart by a blank. -/
def instantText (milliseconds : Int) : String :=
  dateAndTime " " milliseconds

/-- An instant as it is written in reports and logs, with its distance from universal time. -/
def stampText (milliseconds : Int) : String :=
  dateAndTime "T" milliseconds ++ "+00:00"

end Census
