/-
Day numbers and the dates of the calendar.

* `yearStart`, `daysBefore`: the days of the years from 1970 on, and of the months of a year;
* `dayNumber_eq`: a day number counts these and the days of the month;
* `Date.Before`, `dayNumber_lt_iff`: dates are in the order of their day numbers;
* `exists_cycles`, `yearOfEra_eq`: a day of an era of 400 years, by cycles of 100, 4 and 1 years;
* `ofDayNumber_spec`, `dayNumber_eq_iff`: the date of a day number exists, and is the only one that
  has it.
-/
import Mathlib.Tactic
import Census.Calendar.Date

namespace Census

namespace Date

/-! ### Counting the days -/

/-- The number of days of a year. -/
def daysInYear (year : ℤ) : ℕ :=
  if isLeapYear year then 366 else 365

/-- The days before a year, counted from 1970-01-01. -/
def yearStart (year : ℤ) : ℤ :=
  365 * (year - 1) + (year - 1) / 4 - (year - 1) / 100 + (year - 1) / 400 - 719162

/-- The days of a year before one of its months. -/
def daysBefore (year : ℤ) (month : ℕ) : ℕ :=
  ∑ m ∈ Finset.range month, daysInMonth year m

lemma isLeapYear_iff {year : ℤ} :
    isLeapYear year = true ↔ year % 4 = 0 ∧ (year % 100 ≠ 0 ∨ year % 400 = 0) := by
  simp [isLeapYear]

lemma daysInYear_le (year : ℤ) : daysInYear year ≤ 366 := by
  rw [daysInYear]
  split <;> omega

/-- A year starts when the days of the one before it are over. -/
lemma yearStart_succ (year : ℤ) : yearStart (year + 1) = yearStart year + daysInYear year := by
  rw [daysInYear]
  split
  · next h =>
    rw [isLeapYear_iff] at h
    simp only [yearStart]
    omega
  · next h =>
    rw [isLeapYear_iff] at h
    simp only [yearStart]
    omega

lemma month_of_exists {d : Date} (h : d.Exists) : 1 ≤ d.month ∧ d.month ≤ 12 := by
  obtain ⟨hday, hmonth⟩ := h
  rw [daysInMonth.eq_def] at hmonth
  split at hmonth <;> omega

/-- From March to January the months have the same lengths in every year. -/
lemma daysInMonth_fromMarch (year : ℤ) {m : ℕ} (h : m < 11) :
    daysBeforeMonth m + daysInMonth year (if m < 10 then m + 3 else m - 9) =
      daysBeforeMonth (m + 1) := by
  interval_cases m <;> rfl

/-- Before a month from March on there are the two months whose lengths depend on the year, and then
as many days as in every year. -/
lemma daysBefore_of_three_le {year : ℤ} {month : ℕ} (hlow : 3 ≤ month) (hhigh : month ≤ 12) :
    daysBefore year month + 306 = daysInYear year + daysBeforeMonth (month - 3) := by
  induction month, hlow using Nat.le_induction with
  | base =>
      simp only [daysBefore, Finset.sum_range_succ, Finset.sum_range_zero, daysInMonth, daysInYear]
      split <;> rfl
  | succ month hlow ih =>
      have hlength := daysInMonth_fromMarch year (show month - 3 < 11 by omega)
      have hmonth : month - 3 + 3 = month := by omega
      have hnext : daysBefore year (month + 1) = daysBefore year month + daysInMonth year month :=
        Finset.sum_range_succ ..
      rw [if_pos (by omega), hmonth] at hlength
      have hprior := ih (by omega)
      rw [show month + 1 - 3 = month - 3 + 1 by omega, ← hlength, hnext]
      omega

/-- The months of a year make up the year. -/
lemma daysBefore_thirteen (year : ℤ) : daysBefore year 13 = daysInYear year := by
  have hlast : daysBefore year 12 + 306 = daysInYear year + daysBeforeMonth 9 :=
    daysBefore_of_three_le (by decide) (by decide)
  have hend : daysBefore year 13 = daysBefore year 12 + 31 := Finset.sum_range_succ ..
  have hautumn : daysBeforeMonth 9 = 275 := rfl
  omega

/-- **Day numbers** count the days of the years from 1970 on, those of the months before, and those
of the month. -/
theorem dayNumber_eq {d : Date} (h : d.Exists) :
    d.dayNumber = yearStart d.year + daysBefore d.year d.month + d.day - 1 := by
  obtain ⟨hlow, hhigh⟩ := month_of_exists h
  by_cases hmarch : 3 ≤ d.month
  · have hmonth : (d.month + 9) % 12 = d.month - 3 := by omega
    have hnext := yearStart_succ d.year
    have hdays : daysBefore d.year d.month + 306 =
        daysInYear d.year + daysBeforeMonth (d.month - 3) := daysBefore_of_three_le hmarch hhigh
    rw [dayNumber, hmonth, if_neg (by omega)]
    simp only [yearStart] at hnext ⊢
    omega
  · have hday : daysBefore d.year d.month + 306 = daysBeforeMonth ((d.month + 9) % 12) := by
      have hmonth : d.month = 1 ∨ d.month = 2 := by omega
      rcases hmonth with hmonth | hmonth <;> rw [hmonth] <;> rfl
    rw [dayNumber, if_pos (by omega), ← hday, yearStart]
    push_cast
    omega

example : (⟨1970, 1, 1⟩ : Date).dayNumber = 0 := rfl

/-! ### Order -/

/-- A date comes before another one: by its year, then by its month, then by its day. -/
def Before (d e : Date) : Prop :=
  d.year < e.year ∨ d.year = e.year ∧ (d.month < e.month ∨ d.month = e.month ∧ d.day < e.day)

lemma before_or_eq_or_before (d e : Date) : d.Before e ∨ d = e ∨ e.Before d := by
  obtain ⟨year, month, day⟩ := d
  obtain ⟨year', month', day'⟩ := e
  simp only [Before, mk.injEq]
  omega

/-- Later years start later. -/
lemma yearStart_mono {year year' : ℤ} (h : year ≤ year') : yearStart year ≤ yearStart year' := by
  simp only [yearStart]
  omega

/-- A date falls behind the start of its month and before that of any later one. -/
lemma daysBefore_add_day_le {d : Date} (h : d.Exists) {month : ℕ} (hlt : d.month < month) :
    daysBefore d.year d.month + d.day ≤ daysBefore d.year month := by
  have hmonth : daysBefore d.year (d.month + 1) ≤ daysBefore d.year month :=
    Finset.sum_le_sum_of_subset (Finset.range_mono hlt)
  have hnext : daysBefore d.year (d.month + 1) =
      daysBefore d.year d.month + daysInMonth d.year d.month := Finset.sum_range_succ ..
  have hday := h.2
  omega

/-- **Order of day numbers**: earlier dates have lower ones. -/
theorem dayNumber_lt_of_before {d e : Date} (hd : d.Exists) (he : e.Exists) (h : d.Before e) :
    d.dayNumber < e.dayNumber := by
  rw [dayNumber_eq hd, dayNumber_eq he]
  have hday := he.1
  rcases h with hyear | ⟨hyear, hmonth | ⟨hmonth, hlt⟩⟩
  · have hmonth := (month_of_exists hd).2
    have hend := daysBefore_add_day_le hd (show d.month < 13 by omega)
    have hstart : yearStart (d.year + 1) ≤ yearStart e.year := yearStart_mono hyear
    rw [daysBefore_thirteen] at hend
    rw [yearStart_succ] at hstart
    omega
  · have hend := daysBefore_add_day_le hd hmonth
    rw [← hyear]
    omega
  · rw [← hyear, ← hmonth]
    omega

/-- Dates are in the order of their day numbers. -/
theorem dayNumber_lt_iff {d e : Date} (hd : d.Exists) (he : e.Exists) :
    d.dayNumber < e.dayNumber ↔ d.Before e := by
  refine ⟨fun h => ?_, dayNumber_lt_of_before hd he⟩
  rcases before_or_eq_or_before d e with hlt | rfl | hgt
  · exact hlt
  · exact absurd h (lt_irrefl _)
  · exact absurd h (dayNumber_lt_of_before he hd hgt).not_gt

/-! ### From day numbers to dates -/

/-- The date some days after the first of March of a year.  Counted from March on, a leap year has
its additional day at the end. -/
def afterMarch (year : ℤ) (days : ℕ) : Date :=
  let m := (5 * days + 2) / 153
  let month := if m < 10 then m + 3 else m - 9
  ⟨year + (if month ≤ 2 then 1 else 0), month, days - daysBeforeMonth m + 1⟩

/-- Twelve months from March on cover the days up to the end of February. -/
lemma daysBeforeMonth_of_days {days : ℕ} (h : days ≤ 365) :
    (5 * days + 2) / 153 ≤ 11 ∧ daysBeforeMonth ((5 * days + 2) / 153) ≤ days ∧
      days < daysBeforeMonth ((5 * days + 2) / 153 + 1) := by
  simp only [daysBeforeMonth]
  omega

/-- The date is one of the calendar, as long as the days stay within the year to the next March. -/
lemma exists_afterMarch {year : ℤ} {days : ℕ} (h : days < daysInYear (year + 1)) :
    (afterMarch year days).Exists := by
  have hle : days ≤ 365 := by
    have hyear := daysInYear_le (year + 1)
    omega
  obtain ⟨hm, hlow, hhigh⟩ := daysBeforeMonth_of_days hle
  rw [afterMarch]
  generalize (5 * days + 2) / 153 = m at hm hlow hhigh ⊢
  refine ⟨Nat.succ_pos _, ?_⟩
  rcases Nat.lt_or_ge m 11 with hlt | hge
  · have hlength := daysInMonth_fromMarch
      (year + if (if m < 10 then m + 3 else m - 9) ≤ 2 then 1 else 0) hlt
    dsimp only
    omega
  · -- in the last month the length of the year counts
    obtain rfl : m = 11 := by omega
    have hfeb : daysInMonth (year + 1) 2 + 337 = daysInYear (year + 1) := by
      rw [daysInYear, daysInMonth]
      split <;> rfl
    have hmarch : daysBeforeMonth 11 = 337 := rfl
    show days - daysBeforeMonth 11 + 1 ≤ daysInMonth (year + 1) 2
    omega

lemma dayNumber_afterMarch {year : ℤ} {days : ℕ} (h : days ≤ 365) :
    (afterMarch year days).dayNumber =
      365 * year + year / 4 - year / 100 + year / 400 + days - 719468 := by
  obtain ⟨hm, hlow, -⟩ := daysBeforeMonth_of_days h
  rw [afterMarch]
  generalize (5 * days + 2) / 153 = m at hm hlow ⊢
  have hback : ((if m < 10 then m + 3 else m - 9) + 9) % 12 = m := by split <;> omega
  have hyear : (if (if m < 10 then m + 3 else m - 9) ≤ 2
      then year + (if (if m < 10 then m + 3 else m - 9) ≤ 2 then 1 else 0) - 1
      else year + (if (if m < 10 then m + 3 else m - 9) ≤ 2 then 1 else 0)) = year := by
    split <;> simp_all
  simp only [dayNumber, hback, hyear]
  push_cast [hlow]
  ring

/-! ### Eras -/

/-- A day of an era of 400 years falls into one of its four centuries, there into one of 25 cycles
of four years, and there into one of four years.  Only the last year of a cycle can have a 366th
day, and in the last cycle of a century only that of the last century. -/
lemma exists_cycles {day : ℕ} (h : day < 146097) :
    ∃ c q k r : ℕ, (c < 4 ∧ q < 25 ∧ k < 4 ∧ r ≤ 365 ∧ (r = 365 → k = 3 ∧ (q = 24 → c = 3))) ∧
      day = 36524 * c + 1461 * q + 365 * k + r := by
  by_cases hlast : day = 146096
  · exact ⟨3, 24, 3, 365, by omega, by omega⟩
  by_cases hleap : day % 36524 % 1461 = 1460
  · exact ⟨day / 36524, day % 36524 / 1461, 3, 365, by omega, by omega⟩
  · exact ⟨day / 36524, day % 36524 / 1461, day % 36524 % 1461 / 365,
      day % 36524 % 1461 % 365, by omega, by omega⟩

/-- The year of an era that a day falls into: without the days that leap years have more, a year has
365 days. -/
lemma yearOfEra_eq {c q k r : ℕ}
    (h : c < 4 ∧ q < 25 ∧ k < 4 ∧ r ≤ 365 ∧ (r = 365 → k = 3 ∧ (q = 24 → c = 3))) {day : ℕ}
    (hday : day = 36524 * c + 1461 * q + 365 * k + r) :
    (day - day / 1460 + day / 36524 - day / 146096) / 365 = 100 * c + 4 * q + k := by
  obtain ⟨hc, hq, hk, hr, hlast⟩ := h
  have hcentury : day / 36524 - day / 146096 = c := by omega
  have hera : day / 146096 ≤ day / 36524 := by omega
  have hlow : 365 * (100 * c + 4 * q + k) + day / 1460 ≤ day + c := by
    interval_cases c <;> omega
  have hhigh : day + c < 365 * (100 * c + 4 * q + k + 1) + day / 1460 := by
    interval_cases c <;> omega
  omega

/-- The leap years up to a year of an era. -/
lemma leaps_of_era (era : ℤ) {c q k : ℕ} (hc : c < 4) (hq : q < 25) (hk : k < 4) :
    (400 * era + (100 * c + 4 * q + k : ℕ)) / 4 = 100 * era + 25 * c + q ∧
    (400 * era + (100 * c + 4 * q + k : ℕ)) / 100 = 4 * era + c ∧
    (400 * era + (100 * c + 4 * q + k : ℕ)) / 400 = era := by
  omega

/-- The date of a day number, by the year from March on and its day. -/
lemma ofDayNumber_eq (n : ℤ) : ∃ (year : ℤ) (days : ℕ), days < daysInYear (year + 1) ∧
    n = 365 * year + year / 4 - year / 100 + year / 400 + days - 719468 ∧
    ofDayNumber n = afterMarch year days := by
  obtain ⟨era, day, hn, hera, hday⟩ : ∃ (era : ℤ) (day : ℕ), n + 719468 = 146097 * era + day ∧
      (n + 719468) / 146097 = era ∧ ((n + 719468) % 146097).toNat = day :=
    ⟨_, _, by omega, rfl, rfl⟩
  obtain ⟨c, q, k, r, h, hcycles⟩ := exists_cycles (show day < 146097 by omega)
  have hyear := yearOfEra_eq h hcycles
  obtain ⟨hc, hq, hk, hr, hlast⟩ := h
  obtain ⟨h4, h100, h400⟩ := leaps_of_era era hc hq hk
  refine ⟨400 * era + (100 * c + 4 * q + k : ℕ), r, ?_, ?_, ?_⟩
  · rw [daysInYear]
    split
    · omega
    · next hleap =>
      rw [isLeapYear_iff] at hleap
      omega
  · rw [h4, h100, h400]
    push_cast
    omega
  · have hdays : day - (365 * (100 * c + 4 * q + k) + (100 * c + 4 * q + k) / 4 -
        (100 * c + 4 * q + k) / 100) = r := by
      clear hyear hn hera hday
      omega
    simp only [ofDayNumber, hera, hday, hyear, hdays, afterMarch]

/-- **Dates of day numbers**: every day number is that of a date of the calendar. -/
theorem ofDayNumber_spec (n : ℤ) : (ofDayNumber n).Exists ∧ (ofDayNumber n).dayNumber = n := by
  obtain ⟨year, days, hdays, hn, heq⟩ := ofDayNumber_eq n
  have hle : days ≤ 365 := by
    have hyear := daysInYear_le (year + 1)
    omega
  rw [heq]
  exact ⟨exists_afterMarch hdays, (dayNumber_afterMarch hle).trans hn.symm⟩

/-- No other date of the calendar has this day number. -/
lemma dayNumber_eq_iff {d : Date} (h : d.Exists) {n : ℤ} :
    d.dayNumber = n ↔ d = ofDayNumber n := by
  obtain ⟨hexists, hn⟩ := ofDayNumber_spec n
  constructor
  · rintro rfl
    rcases before_or_eq_or_before d (ofDayNumber d.dayNumber) with hlt | heq | hgt
    · exact absurd hn (dayNumber_lt_of_before h hexists hlt).ne'
    · exact heq
    · exact absurd hn (dayNumber_lt_of_before hexists h hgt).ne
  · rintro rfl
    exact hn

end Date

end Census
