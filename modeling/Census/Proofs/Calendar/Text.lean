/-
Dates as they are written, and read again.

* `denotes_padded`: a padded number denotes itself, in as many digits as asked for if they suffice;
* `writesDate_text`: the years 0 to 9999 are written in full;
* `isoDay?_text`, `isoDay?_text_eq_none`: a date is read again as the same day, unless its year
  takes a sign;
* `text_lt_text_iff`: texts of dates are in the order of the dates.
-/
import Census.Proofs.Calendar.DayNumber
import Census.Proofs.Calendar.IsoDate

namespace Census

open Number (Denotes)

namespace Date

/-! ### Padded numbers -/

lemma toList_padded (width n : ℕ) :
    (padded width n).toList =
      List.replicate (width - (Nat.toDigits 10 n).length) '0' ++ Nat.toDigits 10 n :=
  String.toList_ofList

/-- A padded number denotes itself. -/
lemma denotes_padded (width n : ℕ) : Denotes (padded width n).toList n := by
  rw [toList_padded]
  exact (Number.denotes_toDigits n).zeros_append _

/-- A number has as many digits as it is padded to, when it has no more. -/
lemma length_padded {width n : ℕ} (hwidth : 0 < width) (h : n < 10 ^ width) :
    (padded width n).toList.length = width := by
  have hle : (Nat.toDigits 10 n).length ≤ width :=
    (Nat.length_toDigits_le_iff (by decide) hwidth).mpr h
  rw [toList_padded, List.length_append, List.length_replicate]
  omega

lemma le_length_padded (width n : ℕ) : width ≤ (padded width n).toList.length := by
  rw [toList_padded, List.length_append, List.length_replicate]
  omega

/-! ### Written dates -/

/-- The year of a date takes four digits and no sign. -/
def HasFullYear (d : Date) : Prop :=
  0 ≤ d.year ∧ d.year ≤ 9999

instance (d : Date) : Decidable d.HasFullYear :=
  inferInstanceAs (Decidable (_ ∧ _))

variable {d e : Date}

lemma yearText_of_full (h : d.HasFullYear) : yearText d.year = padded 4 d.year.toNat :=
  if_pos h

lemma toList_text (d : Date) :
    d.text.toList = (yearText d.year).toList ++
      '-' :: ((padded 2 d.month).toList ++ '-' :: (padded 2 d.day).toList) := by
  have hhyphen : "-".toList = ['-'] := rfl
  simp only [text, String.toList_append, hhyphen, List.append_assoc, List.cons_append,
    List.nil_append]

/-- The month and the day of a date have two digits at most. -/
lemma lt_hundred_of_exists (h : d.Exists) : d.month < 10 ^ 2 ∧ d.day < 10 ^ 2 := by
  have hmonth := (month_of_exists h).2
  have hday := h.2
  rw [daysInMonth.eq_def] at hday
  split at hday <;> (try split at hday) <;> omega

/-- **Written dates**: dates of the years 0 to 9999 are written in full. -/
theorem writesDate_text (h : d.Exists) (hyear : d.HasFullYear) : WritesDate d.text.toList d := by
  obtain ⟨hmonth, hday⟩ := lt_hundred_of_exists h
  have hcast : (d.year.toNat : ℤ) = d.year := Int.toNat_of_nonneg hyear.1
  have hfour : d.year.toNat < 10 ^ 4 := by
    have hhigh := hyear.2
    omega
  have hwrites := WritesDate.parts (denotes_padded 4 d.year.toNat)
    (length_padded (by decide) hfour) (denotes_padded 2 d.month)
    (length_padded (by decide) hmonth) (denotes_padded 2 d.day) (length_padded (by decide) hday)
  rw [hcast] at hwrites
  rw [toList_text, yearText_of_full hyear]
  exact hwrites

/-- A date in full is read as its own day. -/
theorem isoDay?_text (h : d.Exists) (hyear : d.HasFullYear) :
    isoDay? d.text = some d.dayNumber := by
  have hwrites := writesDate_text h hyear
  exact isoDay?_eq_some_iff.mpr ⟨hwrites.utf8ByteSize_eq, d, hwrites.spellsDate, h, rfl⟩

/-- A year with a sign makes a text of more than ten bytes. -/
theorem isoDay?_text_eq_none (hyear : ¬d.HasFullYear) : isoDay? d.text = none := by
  have hsign : (yearText d.year).toList.length = 1 + (padded 4 d.year.natAbs).toList.length := by
    have htext : yearText d.year =
        (if d.year < 0 then "-" else "+") ++ padded 4 d.year.natAbs := if_neg hyear
    rw [htext, String.toList_append, List.length_append]
    split <;> rfl
  have hyear' := le_length_padded 4 d.year.natAbs
  have hmonth := le_length_padded 2 d.month
  have hday := le_length_padded 2 d.day
  have hbytes := length_le_utf8Len d.text.toList
  rw [String.utf8Len_toList, toList_text] at hbytes
  simp only [List.length_append, List.length_cons] at hbytes
  rw [isoDay?, if_neg (by omega)]

/-! ### Order -/

/-- Of two dates written in full the earlier one is the lower text: with as many digits for each
number the first number that differs decides. -/
lemma lt_of_writesDate {cs cs' : List Char} (h : WritesDate cs d)
    (h' : WritesDate cs' e) (hbefore : d.Before e) : cs < cs' := by
  cases h with
  | @parts _ _ ds year month day hyear hlength₁ hmonth hlength₂ hday hlength₃ =>
  cases h' with
  | @parts _ _ ds' year' month' day' hyear' hlength₁' hmonth' hlength₂' hday' hlength₃' =>
      simp only [Before, Nat.cast_lt, Nat.cast_inj] at hbefore
      refine hyear.append_lt_append hyear' (hlength₁.trans hlength₁'.symm)
        (hbefore.imp_right fun hyears => ⟨hyears.1, ?_⟩)
      refine List.cons_lt_cons_iff.mpr (Or.inr ⟨rfl, ?_⟩)
      refine hmonth.append_lt_append hmonth' (hlength₂.trans hlength₂'.symm)
        (hyears.2.imp_right fun hmonths => ⟨hmonths.1, ?_⟩)
      refine List.cons_lt_cons_iff.mpr (Or.inr ⟨rfl, ?_⟩)
      have hlast : ds ++ [] < ds' ++ [] :=
        hday.append_lt_append hday' (hlength₃.trans hlength₃'.symm) (Or.inl hmonths.2)
      rwa [List.append_nil, List.append_nil] at hlast

/-- **Order of texts**: dates in full are in the order of their texts. -/
theorem text_lt_text_iff (hd : d.Exists) (he : e.Exists) (hyear : d.HasFullYear)
    (hyear' : e.HasFullYear) : d.text < e.text ↔ d.Before e := by
  have hwrites := writesDate_text hd hyear
  have hwrites' := writesDate_text he hyear'
  refine ⟨fun h => ?_, lt_of_writesDate hwrites hwrites'⟩
  rcases before_or_eq_or_before d e with hlt | rfl | hgt
  · exact hlt
  · exact absurd h (String.lt_irrefl _)
  · exact absurd (lt_of_writesDate hwrites' hwrites hgt) (String.lt_asymm h)

/-! ### Blanks -/

/-- The text of a date has no blank, so that trimming leaves it as it is. -/
lemma trim_text (d : Date) : Text.trim d.text = d.text := by
  have hdigits : ∀ width n, ∀ c ∈ (padded width n).toList, Text.isBlank c = false :=
    fun width n => (denotes_padded width n).not_isBlank
  have hyear : ∀ c ∈ (yearText d.year).toList, Text.isBlank c = false := by
    rw [yearText]
    split
    · exact hdigits _ _
    · rw [String.toList_append, List.forall_mem_append]
      refine ⟨?_, hdigits _ _⟩
      split <;> exact List.forall_mem_singleton.mpr rfl
  have hno : ∀ c ∈ d.text.toList, Text.isBlank c = false := by
    rw [toList_text]
    simp only [List.forall_mem_append, List.forall_mem_cons]
    exact ⟨hyear, rfl, hdigits _ _, rfl, hdigits _ _⟩
  rw [Text.trim, Text.trimChars_eq_self hno, String.ofList_toList]

end Date

end Census
