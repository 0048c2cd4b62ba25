/-
Texts that count as dates.

* `SpellsYear`, `SpellsDate`: how a year and a date may be spelled where blanks, signs and missing
  zeros are allowed;
* `WritesDate`: a date in four digits, two and two with hyphens;
* `scanDate?_eq_some_iff`: the scanner accepts what spells a date, and nothing else;
* `isoDay?_eq_some_iff`: of the spellings with ten bytes those of dates of the calendar count;
* `isIsoDate_iff`: these are the dates in full, and some spellings with a blank or a sign.
-/
import Mathlib
import Census.Calendar.IsoDate
import Census.Proofs.Number.Integer

namespace Census

open Number (Denotes)

/-! ### Spellings -/

/-- A year is spelled by at most four digits, or by a sign and any number of them. -/
inductive SpellsYear : List Char → ℤ → Prop
  | unsigned {ds : List Char} {n : ℕ} (h : Denotes ds n) (hlength : ds.length ≤ 4) :
      SpellsYear ds n
  | plus {ds : List Char} {n : ℕ} (h : Denotes ds n) : SpellsYear ('+' :: ds) n
  | minus {ds : List Char} {n : ℕ} (h : Denotes ds n) : SpellsYear ('-' :: ds) (-n)

/-- All characters are blank. -/
def AllBlank (cs : List Char) : Prop :=
  ∀ c ∈ cs, Text.isBlank c = true

/-- A date is spelled by its year, its month and its day with hyphens, blanks allowed in front of
each.  Month and day have one digit or two. -/
inductive SpellsDate : List Char → Date → Prop
  | parts {b₁ y b₂ m b₃ e : List Char} {year : ℤ} {month day : ℕ}
      (hblank₁ : AllBlank b₁) (hyear : SpellsYear y year)
      (hblank₂ : AllBlank b₂) (hmonth : Denotes m month) (hlength₂ : m.length ≤ 2)
      (hblank₃ : AllBlank b₃) (hday : Denotes e day) (hlength₃ : e.length ≤ 2) :
      SpellsDate (b₁ ++ (y ++ '-' :: (b₂ ++ (m ++ '-' :: (b₃ ++ e))))) ⟨year, month, day⟩

/-- A date is written in full by four digits for its year, two for its month and two for its day,
with hyphens. -/
inductive WritesDate : List Char → Date → Prop
  | parts {y m e : List Char} {year month day : ℕ}
      (hyear : Denotes y year) (hlength₁ : y.length = 4)
      (hmonth : Denotes m month) (hlength₂ : m.length = 2)
      (hday : Denotes e day) (hlength₃ : e.length = 2) :
      WritesDate (y ++ '-' :: (m ++ '-' :: e)) ⟨year, month, day⟩

lemma allBlank_nil : AllBlank [] := fun _ h => by cases h

/-- What is written in full is spelled without blanks and signs. -/
lemma WritesDate.spellsDate {cs : List Char} {d : Date} (h : WritesDate cs d) :
    SpellsDate cs d := by
  cases h with
  | parts hyear hlength₁ hmonth hlength₂ hday hlength₃ =>
      exact .parts allBlank_nil (.unsigned hyear hlength₁.le) allBlank_nil hmonth hlength₂.le
        allBlank_nil hday hlength₃.le

/-! ### Scanning -/

section Scanning

variable {cs ds rest : List Char} {most n : ℕ}

/-- Digits are scanned up to what follows them. -/
lemma scanNumber?_append (h : Denotes ds n) (hmost : ds.length ≤ most)
    (hrest : ∀ c ∈ rest.head?, c.isDigit = false) :
    scanNumber? most (ds ++ rest) = some (n, rest) := by
  obtain ⟨hne, hdigits, hvalue⟩ := Number.denotes_iff.mp h
  have hstop : rest.takeWhile Char.isDigit = [] := by
    cases rest with
    | nil => rfl
    | cons c rest => exact List.takeWhile_cons_of_neg (by simp [hrest c rfl])
  have htaken : ((ds ++ rest).takeWhile Char.isDigit).take most = ds := by
    rw [List.takeWhile_append_of_pos hdigits, hstop, List.append_nil, List.take_of_length_le hmost]
  rw [scanNumber?, htaken, if_neg hne, hvalue, List.drop_left]

/-- What is scanned are digits in front. -/
lemma exists_of_scanNumber? (h : scanNumber? most cs = some (n, rest)) :
    ∃ ds, cs = ds ++ rest ∧ Denotes ds n ∧ ds.length ≤ most := by
  have hprefix : (cs.takeWhile Char.isDigit).take most <+: cs :=
    (List.take_prefix ..).trans (List.takeWhile_prefix _)
  have hdigits : ∀ c ∈ (cs.takeWhile Char.isDigit).take most, c.isDigit = true := fun c hc =>
    List.all_eq_true.mp List.all_takeWhile c (List.mem_of_mem_take hc)
  have hmost : ((cs.takeWhile Char.isDigit).take most).length ≤ most := List.length_take_le ..
  rw [scanNumber?] at h
  generalize (cs.takeWhile Char.isDigit).take most = ds at hprefix hdigits hmost h
  split at h
  · cases h
  · next hne =>
    cases h
    exact ⟨ds, (List.prefix_iff_eq_append.mp hprefix).symm,
      Number.denotes_iff.mpr ⟨hne, hdigits, rfl⟩, hmost⟩

/-- Blanks in front are passed over, up to a character that is none. -/
lemma trimLeft_append (hblank : AllBlank ds) (hfirst : ∀ c ∈ cs.head?, Text.isBlank c = false) :
    Text.trimLeft (ds ++ cs) = cs := by
  rw [Text.trimLeft, List.dropWhile_append_of_pos hblank]
  cases cs with
  | nil => rfl
  | cons c cs => exact List.dropWhile_cons_of_neg (by simp [hfirst c rfl])

lemma exists_trimLeft (cs : List Char) : ∃ bs, AllBlank bs ∧ cs = bs ++ Text.trimLeft cs :=
  ⟨cs.takeWhile Text.isBlank, List.all_eq_true.mp List.all_takeWhile,
    List.takeWhile_append_dropWhile.symm⟩

lemma scanHyphen?_eq_some_iff : scanHyphen? cs = some rest ↔ cs = '-' :: rest := by
  rw [scanHyphen?.eq_def]
  split
  · simp
  · next h => exact iff_of_false (by simp) (h rest)

/-- A spelled year starts with a digit or a sign, which is not blank. -/
lemma SpellsYear.not_isBlank_head? {y : List Char} {year : ℤ} (h : SpellsYear y year)
    (rest : List Char) : ∀ c ∈ (y ++ rest).head?, Text.isBlank c = false := by
  intro c hc
  cases h with
  | unsigned hds hlength => exact Text.isBlank_of_isDigit (hds.isDigit_head? rest c hc)
  | plus hds => cases hc; rfl
  | minus hds => cases hc; rfl

/-- A spelled year is scanned behind blanks, up to a character that is no digit. -/
lemma scanYear?_append {y : List Char} {year : ℤ} (hblank : AllBlank ds) (h : SpellsYear y year)
    (hrest : ∀ c ∈ rest.head?, c.isDigit = false) :
    scanYear? (ds ++ (y ++ rest)) = some (year, rest) := by
  have hsigned : ∀ {ds : List Char} {n : ℕ}, Denotes ds n →
      scanNumber? (ds ++ rest).length (ds ++ rest) = some (n, rest) :=
    fun hds => scanNumber?_append hds (by simp) hrest
  rw [scanYear?, trimLeft_append hblank (h.not_isBlank_head? rest)]
  cases h with
  | plus hds => simp only [List.cons_append, hsigned hds, Option.map_some]
  | minus hds => simp only [List.cons_append, hsigned hds, Option.map_some]
  | unsigned hds hlength =>
      have hsign : ∀ (c : Char) (r : List Char), c.isDigit = false → y ++ rest ≠ c :: r := by
        intro c r hc heq
        have hdigit := hds.isDigit_head? rest c (by rw [heq]; rfl)
        rw [hc] at hdigit
        cases hdigit
      split
      · next r hr => exact absurd hr (hsign '-' r rfl)
      · next r hr => exact absurd hr (hsign '+' r rfl)
      · rw [scanNumber?_append hds hlength hrest]
        rfl

/-- What is scanned is a spelled year behind blanks. -/
lemma exists_of_scanYear? {year : ℤ} (h : scanYear? cs = some (year, rest)) :
    ∃ bs y, cs = bs ++ (y ++ rest) ∧ AllBlank bs ∧ SpellsYear y year := by
  obtain ⟨bs, hblank, hcs⟩ := exists_trimLeft cs
  rw [scanYear?] at h
  split at h
  all_goals
    obtain ⟨⟨n, rest'⟩, hscan, heq⟩ := Option.map_eq_some_iff.mp h
    obtain ⟨ds, hds, hdenotes, hmost⟩ := exists_of_scanNumber? hscan
    cases heq
  · next r hr => exact ⟨bs, '-' :: ds, by rw [hcs, hr, hds]; rfl, hblank, .minus hdenotes⟩
  · next r hr => exact ⟨bs, '+' :: ds, by rw [hcs, hr, hds]; rfl, hblank, .plus hdenotes⟩
  · exact ⟨bs, ds, by rw [hcs, hds], hblank, .unsigned hdenotes hmost⟩

/-- A hyphen, and the end of a text, are no digits. -/
lemma hyphen_not_isDigit (cs : List Char) : ∀ c ∈ ('-' :: cs).head?, c.isDigit = false := by
  rintro c ⟨⟩
  rfl

/-- A number is scanned behind blanks, up to a character that is no digit. -/
lemma scanNumber?_trimLeft_append {bs : List Char} (hblank : AllBlank bs) (h : Denotes ds n)
    (hmost : ds.length ≤ most) (hrest : ∀ c ∈ rest.head?, c.isDigit = false) :
    scanNumber? most (Text.trimLeft (bs ++ (ds ++ rest))) = some (n, rest) := by
  have hfirst : ∀ c ∈ (ds ++ rest).head?, Text.isBlank c = false :=
    fun c hc => Text.isBlank_of_isDigit (h.isDigit_head? rest c hc)
  rw [trimLeft_append hblank hfirst, scanNumber?_append h hmost hrest]

lemma exists_of_scanNumber?_trimLeft (h : scanNumber? most (Text.trimLeft cs) = some (n, rest)) :
    ∃ bs ds, cs = bs ++ (ds ++ rest) ∧ AllBlank bs ∧ Denotes ds n ∧ ds.length ≤ most := by
  obtain ⟨bs, hblank, hcs⟩ := exists_trimLeft cs
  obtain ⟨ds, hds, hdenotes, hmost⟩ := exists_of_scanNumber? h
  exact ⟨bs, ds, by rw [hcs, hds], hblank, hdenotes, hmost⟩

/-- **Scanned dates**: the scanner accepts what spells a date, and nothing else. -/
theorem scanDate?_eq_some_iff {d : Date} : scanDate? cs = some d ↔ SpellsDate cs d := by
  constructor
  · intro h
    simp only [scanDate?, Option.bind_eq_bind, Option.bind_eq_some_iff, Prod.exists] at h
    obtain ⟨year, cs₁, hyear, cs₂, hhyphen, month, cs₃, hmonth, cs₄, hhyphen', day, cs₅, hday,
      hend⟩ := h
    obtain ⟨b₁, y, rfl, hblank₁, hspells⟩ := exists_of_scanYear? hyear
    obtain rfl := scanHyphen?_eq_some_iff.mp hhyphen
    obtain ⟨b₂, m, rfl, hblank₂, hdenotes₂, hlength₂⟩ := exists_of_scanNumber?_trimLeft hmonth
    obtain rfl := scanHyphen?_eq_some_iff.mp hhyphen'
    obtain ⟨b₃, e, rfl, hblank₃, hdenotes₃, hlength₃⟩ := exists_of_scanNumber?_trimLeft hday
    split at hend
    · next hnil =>
      cases hend
      rw [hnil, List.append_nil]
      exact .parts hblank₁ hspells hblank₂ hdenotes₂ hlength₂ hblank₃ hdenotes₃ hlength₃
    · cases hend
  · intro h
    cases h with
    | @parts b₁ y b₂ m b₃ e year month day hblank₁ hyear hblank₂ hmonth hlength₂ hblank₃ hday
        hlength₃ =>
        have hscan : scanNumber? 2 (Text.trimLeft (b₃ ++ (e ++ []))) = some (day, []) :=
          scanNumber?_trimLeft_append hblank₃ hday hlength₃ (by simp)
        rw [List.append_nil] at hscan
        simp only [scanDate?, Option.bind_eq_bind, Option.bind_some,
          scanYear?_append hblank₁ hyear (hyphen_not_isDigit _),
          scanHyphen?_eq_some_iff.mpr rfl,
          scanNumber?_trimLeft_append hblank₂ hmonth hlength₂ (hyphen_not_isDigit _), hscan,
          if_true]

end Scanning

/-! ### Texts of ten bytes -/

/-- A text has at least as many bytes as characters. -/
lemma length_le_utf8Len (cs : List Char) : cs.length ≤ String.utf8Len cs := by
  induction cs with
  | nil => exact Nat.zero_le _
  | cons c cs ih =>
      have hpos := c.utf8Size_pos
      rw [List.length_cons, String.utf8Len_cons]
      omega

/-- Digits have one byte each. -/
lemma utf8Len_of_denotes {ds : List Char} {n : ℕ} (h : Denotes ds n) :
    String.utf8Len ds = ds.length := by
  have key : ∀ cs : List Char, (∀ c ∈ cs, c.isDigit = true) → String.utf8Len cs = cs.length := by
    intro cs hcs
    induction cs with
    | nil => rfl
    | cons c cs ih =>
        obtain ⟨hc, hcs⟩ := List.forall_mem_cons.mp hcs
        have hrange : c.toNat ≤ 127 := (Char.isDigit_iff_toNat.mp hc).2.trans (by decide)
        have hone : c.utf8Size = 1 := Char.utf8Size_eq_one_iff.mpr hrange
        rw [String.utf8Len_cons, List.length_cons, ih hcs, hone]
  exact key ds h.digits

lemma utf8Len_cons_hyphen (cs : List Char) : String.utf8Len ('-' :: cs) = String.utf8Len cs + 1 :=
  String.utf8Len_cons ..

/-- Ten bytes leave a year at most four digits, or five with a sign. -/
lemma SpellsDate.inYearRange {cs : List Char} {d : Date} (h : SpellsDate cs d)
    (hbytes : String.utf8Len cs = 10) : InYearRange d.year := by
  cases h with
  | @parts b₁ y b₂ m b₃ e year month day _ hyear _ hmonth _ _ hday _ =>
      have hm := List.length_pos_iff.mpr hmonth.ne_nil
      have he := List.length_pos_iff.mpr hday.ne_nil
      have hlength := length_le_utf8Len y
      simp only [String.utf8Len_append, utf8Len_cons_hyphen, utf8Len_of_denotes hmonth,
        utf8Len_of_denotes hday] at hbytes
      have hy : y.length ≤ 6 := by omega
      have hbelow : ∀ {ds : List Char} {n : ℕ}, Denotes ds n → ds.length ≤ 5 → n < 100000 :=
        fun hds hle => hds.lt_pow.trans_le (Nat.pow_le_pow_right (by decide) hle)
      cases hyear with
      | unsigned hds hfour =>
          have hlt := hbelow hds (by omega)
          constructor <;> dsimp only <;> omega
      | plus hds =>
          have hlt := hbelow hds (Nat.le_of_succ_le_succ hy)
          constructor <;> dsimp only <;> omega
      | minus hds =>
          have hlt := hbelow hds (Nat.le_of_succ_le_succ hy)
          constructor <;> dsimp only <;> omega

/-- **Day numbers of texts**: a text has one when its ten bytes spell a date of the calendar, and it
is the day number of this date. -/
theorem isoDay?_eq_some_iff {s : String} {n : ℤ} :
    isoDay? s = some n ↔
      s.utf8ByteSize = 10 ∧ ∃ d, SpellsDate s.toList d ∧ d.Exists ∧ d.dayNumber = n := by
  rw [isoDay?]
  split
  · next hbytes =>
    rw [← String.utf8Len_toList] at hbytes
    simp only [Option.map_eq_some_iff, Option.filter_eq_some_iff, scanDate?_eq_some_iff,
      decide_eq_true_eq]
    constructor
    · rintro ⟨d, ⟨hspells, hexists, -⟩, hn⟩
      exact ⟨by rwa [← String.utf8Len_toList], d, hspells, hexists, hn⟩
    · rintro ⟨-, d, hspells, hexists, hn⟩
      exact ⟨d, ⟨hspells, hexists, hspells.inYearRange hbytes⟩, hn⟩
  · next hbytes => exact iff_of_false (by simp) fun h => hbytes h.1

lemma isIsoDate_eq_true_iff {s : String} :
    isIsoDate s = true ↔ s.utf8ByteSize = 10 ∧ ∃ d, SpellsDate s.toList d ∧ d.Exists := by
  rw [isIsoDate, Option.isSome_iff_exists]
  simp only [isoDay?_eq_some_iff]
  exact ⟨fun ⟨_, hbytes, d, hspells, hexists, _⟩ => ⟨hbytes, d, hspells, hexists⟩,
    fun ⟨hbytes, d, hspells, hexists⟩ => ⟨_, hbytes, d, hspells, hexists, rfl⟩⟩

/-! ### Dates in full -/

/-- A date in full has ten bytes. -/
lemma WritesDate.utf8ByteSize_eq {s : String} {d : Date} (h : WritesDate s.toList d) :
    s.utf8ByteSize = 10 := by
  rw [← String.utf8Len_toList]
  generalize s.toList = cs at h
  cases h with
  | parts hyear hlength₁ hmonth hlength₂ hday hlength₃ =>
      rw [String.utf8Len_append, utf8Len_cons_hyphen, String.utf8Len_append, utf8Len_cons_hyphen,
        utf8Len_of_denotes hyear, utf8Len_of_denotes hmonth, utf8Len_of_denotes hday, hlength₁,
        hlength₂, hlength₃]

/-- A date in full starts with a digit and has no blank. -/
lemma WritesDate.plain {cs : List Char} {d : Date} (h : WritesDate cs d) :
    (∀ c ∈ cs, Text.isBlank c = false) ∧ ∃ c ∈ cs.head?, c.isDigit = true := by
  cases h with
  | @parts y m e year month day hyear _ hmonth _ hday _ =>
      refine ⟨?_, ?_⟩
      · simp only [List.forall_mem_append, List.forall_mem_cons]
        exact ⟨hyear.not_isBlank, rfl, hmonth.not_isBlank, rfl, hday.not_isBlank⟩
      · obtain ⟨c, y, rfl⟩ := List.exists_cons_of_ne_nil hyear.ne_nil
        exact ⟨c, rfl, hyear.digits c List.mem_cons_self⟩

lemma AllBlank.eq_nil {cs : List Char} (h : AllBlank cs) (hno : ∀ c ∈ cs, Text.isBlank c = false) :
    cs = [] := by
  refine List.eq_nil_iff_forall_not_mem.mpr fun c hc => ?_
  have hblank := h c hc
  rw [hno c hc] at hblank
  cases hblank

/-- Ten bytes that start with a digit and have no blank spell a date only in full. -/
lemma SpellsDate.writesDate {cs : List Char} {d : Date} (h : SpellsDate cs d)
    (hbytes : String.utf8Len cs = 10) (hno : ∀ c ∈ cs, Text.isBlank c = false)
    (hfirst : ∃ c ∈ cs.head?, c.isDigit = true) : WritesDate cs d := by
  cases h with
  | @parts b₁ y b₂ m b₃ e year month day hblank₁ hyear hblank₂ hmonth hlength₂ hblank₃ hday
      hlength₃ =>
      simp only [List.forall_mem_append, List.forall_mem_cons] at hno
      obtain ⟨hno₁, -, -, hno₂, -, -, hno₃, -⟩ := hno
      obtain rfl := hblank₁.eq_nil hno₁
      obtain rfl := hblank₂.eq_nil hno₂
      obtain rfl := hblank₃.eq_nil hno₃
      obtain ⟨c, hc, hdigit⟩ := hfirst
      cases hyear with
      | plus hds =>
          cases hc
          exact absurd hdigit (by decide)
      | minus hds =>
          cases hc
          exact absurd hdigit (by decide)
      | unsigned hds hlength₁ =>
          -- four, two and two digits at most, of which there have to be eight
          simp only [List.nil_append] at hbytes ⊢
          simp only [String.utf8Len_append, utf8Len_cons_hyphen, utf8Len_of_denotes hds,
            utf8Len_of_denotes hmonth, utf8Len_of_denotes hday] at hbytes
          exact .parts hds (by omega) hmonth (by omega) hday (by omega)

/-- **Texts that count as dates.**  A text counts as a date exactly when it has ten bytes and spells
a date of the calendar, where blanks in front of a number, a sign of the year and numbers with fewer
digits are allowed.  The dates written in full, by four digits, two and two, are exactly those of
these texts that start with a digit and have no blank. -/
theorem isIsoDate_iff (s : String) :
    (isIsoDate s = true ↔ s.utf8ByteSize = 10 ∧ ∃ d, SpellsDate s.toList d ∧ d.Exists) ∧
    ((∃ d, WritesDate s.toList d ∧ d.Exists) ↔
      isIsoDate s = true ∧ (∀ c ∈ s.toList, Text.isBlank c = false) ∧
        ∃ c ∈ s.toList.head?, c.isDigit = true) := by
  refine ⟨isIsoDate_eq_true_iff, ?_⟩
  rw [isIsoDate_eq_true_iff]
  constructor
  · rintro ⟨d, hwrites, hexists⟩
    exact ⟨⟨hwrites.utf8ByteSize_eq, d, hwrites.spellsDate, hexists⟩, hwrites.plain⟩
  · rintro ⟨⟨hbytes, d, hspells, hexists⟩, hno, hfirst⟩
    rw [← String.utf8Len_toList] at hbytes
    exact ⟨d, hspells.writesDate hbytes hno hfirst, hexists⟩

/-- A sign makes up for the zero of the month: the text counts as a date and is none in full. -/
theorem signed_year_isIsoDate :
    isIsoDate "+2024-1-05" = true ∧ ¬∃ d, WritesDate "+2024-1-05".toList d ∧ d.Exists := by
  refine ⟨by decide, ?_⟩
  rintro ⟨d, hwrites, -⟩
  obtain ⟨-, c, hc, hdigit⟩ := hwrites.plain
  cases hc
  exact absurd hdigit (by decide)

end Census
