/-
How numbers and texts are spelled in JSON.

* `Numeral`: a sign, a whole part, a fraction and an exponent;
* `scanNumber?_sound`, `scanNumber?_eq_self_iff`: numerals are read to their end, and nothing else
  is read as a number;
* `Numeral.eq_toString`: a numeral of digits alone has no zero in front;
* `utf16`: the UTF-16 units of a character, with `utf16_append_inj`;
* `Units`: what stands between the marks of a string literal, as the units that it spells;
* `scanString?_sound`, `Units.scan`: this is what is read up to the closing mark;
* `isTextOf_textOf?`: the text of a literal is the one that has its units.
-/
import Census.Proofs.Json.RoundTrip
import Census.Proofs.Number.Integer

namespace Census.Json

variable {c : Char} {cs ds tail rest : List Char}

/-! ### Numbers -/

/-- One or more digits. -/
def Digits (ds : List Char) : Prop :=
  ds ≠ [] ∧ ∀ d ∈ ds, d.isDigit = true

/-- Digits that start with a zero only where this is the only one. -/
def Whole (ds : List Char) : Prop :=
  Digits ds ∧ (ds.head? = some '0' → ds = ['0'])

/-- Nothing, or a point and digits. -/
inductive Fraction : List Char → Prop
  | absent : Fraction []
  | point {ds : List Char} (hds : Digits ds) : Fraction ('.' :: ds)

/-- Nothing, or a mark, at most one sign, and digits. -/
inductive Exponent : List Char → Prop
  | absent : Exponent []
  | mark {c : Char} {sign ds : List Char} (hc : c = 'e' ∨ c = 'E')
      (hsign : sign = [] ∨ sign = ['+'] ∨ sign = ['-']) (hds : Digits ds) :
      Exponent (c :: sign ++ ds)

/-- How a number is spelled. -/
inductive Numeral : List Char → Prop
  | unsigned {whole fraction exponent : List Char} (hw : Whole whole) (hf : Fraction fraction)
      (he : Exponent exponent) : Numeral (whole ++ fraction ++ exponent)
  | negative {whole fraction exponent : List Char} (hw : Whole whole) (hf : Fraction fraction)
      (he : Exponent exponent) : Numeral ('-' :: (whole ++ fraction ++ exponent))

/-- What is read as digits are digits. -/
lemma scanDigits?_sound (h : scanDigits? cs = some (ds, tail)) : Digits ds ∧ cs = ds ++ tail := by
  obtain ⟨hne, rfl, hds, -⟩ := scanDigits?_eq_some_iff.mp h
  exact ⟨⟨hne, hds⟩, rfl⟩

lemma Digits.scan (h : Digits ds) (hrest : ∀ c ∈ rest.head?, c.isDigit = false) :
    scanDigits? (ds ++ rest) = some (ds, rest) :=
  scanDigits?_eq_some_iff.mpr ⟨h.1, rfl, h.2, hrest⟩

lemma scanWhole?_sound (h : scanWhole? cs = some (ds, tail)) : Whole ds ∧ cs = ds ++ tail := by
  cases cs with
  | nil => simp [scanWhole?, scanDigits?] at h
  | cons c cs =>
      by_cases hzero : c = '0'
      · subst hzero
        obtain ⟨rfl, rfl⟩ : ['0'] = ds ∧ cs = tail := by simpa [scanWhole?] using h
        exact ⟨⟨⟨by simp, by simp⟩, fun _ => rfl⟩, rfl⟩
      · rw [scanWhole?.eq_2 _ (by simp [hzero])] at h
        obtain ⟨hds, heq⟩ := scanDigits?_sound h
        refine ⟨⟨hds, fun hhead => ?_⟩, heq⟩
        have hfirst := congrArg List.head? heq
        rw [List.head?_append_of_ne_nil _ hds.1, hhead] at hfirst
        exact absurd (Option.some.inj hfirst) hzero

lemma Whole.scan (h : Whole ds) (hrest : ∀ c ∈ rest.head?, c.isDigit = false) :
    scanWhole? (ds ++ rest) = some (ds, rest) := by
  by_cases hzero : ds.head? = some '0'
  · rw [h.2 hzero]
    rfl
  · rw [scanWhole?.eq_2, h.1.scan hrest]
    intro more hmore
    have hfirst := congrArg List.head? hmore
    rw [List.head?_append_of_ne_nil _ h.1.1] at hfirst
    exact hzero hfirst

lemma scanFraction?_sound (h : scanFraction? cs = some (ds, tail)) :
    Fraction ds ∧ cs = ds ++ tail := by
  unfold scanFraction? at h
  split at h
  · next rest =>
    simp only [Option.bind_eq_bind, Option.bind_eq_some_iff, Prod.exists] at h
    obtain ⟨digits, more, hdigits, hsome⟩ := h
    obtain ⟨rfl, rfl⟩ : '.' :: digits = ds ∧ more = tail := by simpa using hsome
    obtain ⟨hds, rfl⟩ := scanDigits?_sound hdigits
    exact ⟨.point hds, rfl⟩
  · obtain ⟨rfl, rfl⟩ : [] = ds ∧ cs = tail := by simpa using h
    exact ⟨.absent, rfl⟩

lemma Fraction.scan (h : Fraction ds) (hrest : ∀ c ∈ rest.head?, c.isDigit = false ∧ c ≠ '.') :
    scanFraction? (ds ++ rest) = some (ds, rest) := by
  cases h with
  | absent =>
      refine scanFraction?.eq_2 _ fun more hmore => ?_
      exact (hrest '.' (by rw [← List.nil_append rest, hmore]; rfl)).2 rfl
  | point hds =>
      rw [List.cons_append, scanFraction?, hds.scan fun c hc => (hrest c hc).1]
      rfl

lemma scanExponent?_sound (h : scanExponent? cs = some (ds, tail)) :
    Exponent ds ∧ cs = ds ++ tail := by
  unfold scanExponent? at h
  split at h
  · next c rest =>
    split at h
    · next hmark =>
      have hsign : ((scanSign rest).1 = [] ∨ (scanSign rest).1 = ['+'] ∨
          (scanSign rest).1 = ['-']) ∧ rest = (scanSign rest).1 ++ (scanSign rest).2 := by
        unfold scanSign
        split <;> simp
      simp only [Option.bind_eq_bind, Option.bind_eq_some_iff, Prod.exists] at h
      obtain ⟨digits, more, hdigits, hsome⟩ := h
      obtain ⟨rfl, rfl⟩ : c :: (scanSign rest).1 ++ digits = ds ∧ more = tail := by
        simpa using hsome
      obtain ⟨hds, hrest⟩ := scanDigits?_sound hdigits
      refine ⟨.mark hmark hsign.1 hds, ?_⟩
      rw [List.cons_append, List.cons_append, List.append_assoc, ← hrest, ← hsign.2]
    · obtain ⟨rfl, rfl⟩ : [] = ds ∧ c :: rest = tail := by simpa using h
      exact ⟨.absent, rfl⟩
  · obtain ⟨rfl, rfl⟩ : [] = ds ∧ [] = tail := by simpa using h
    exact ⟨.absent, rfl⟩

lemma Exponent.scan (h : Exponent ds) : scanExponent? ds = some (ds, []) := by
  cases h with
  | absent => rfl
  | @mark c sign ds hc hsign hds =>
      have hscan : scanSign (sign ++ ds) = (sign, ds) := by
        rcases hsign with rfl | rfl | rfl
        · have hfirst : ∀ d ∈ ds, d.isDigit = true := hds.2
          obtain ⟨d, ds, rfl⟩ := List.exists_cons_of_ne_nil hds.1
          have hdigit := hfirst d List.mem_cons_self
          refine scanSign.eq_3 _ ?_ ?_ <;> rintro more hmore <;> cases hmore <;>
            exact absurd hdigit (by decide)
        · rfl
        · rfl
      have hdigits : scanDigits? (ds ++ []) = some (ds, []) := hds.scan (by simp)
      rw [List.append_nil] at hdigits
      simp only [List.cons_append, scanExponent?, if_pos hc, hscan, Option.bind_eq_bind, hdigits,
        Option.bind_some, Option.pure_def]

/-- No exponent starts with a digit or with a point. -/
lemma Exponent.head? (h : Exponent ds) : ∀ c ∈ ds.head?, c.isDigit = false ∧ c ≠ '.' := by
  intro c hc
  cases h with
  | absent => cases hc
  | mark hmark _ _ =>
      cases hc
      rcases hmark with rfl | rfl <;> decide

lemma scanUnsigned?_sound (h : scanUnsigned? cs = some (ds, tail)) :
    ∃ whole fraction exponent, Whole whole ∧ Fraction fraction ∧ Exponent exponent ∧
      ds = whole ++ fraction ++ exponent ∧ cs = ds ++ tail := by
  simp only [scanUnsigned?, Option.bind_eq_bind, Option.bind_eq_some_iff, Prod.exists] at h
  obtain ⟨whole, rest₁, hwhole, fraction, rest₂, hfraction, exponent, rest₃, hexponent, hsome⟩ := h
  obtain ⟨rfl, rfl⟩ : whole ++ fraction ++ exponent = ds ∧ rest₃ = tail := by simpa using hsome
  obtain ⟨hw, rfl⟩ := scanWhole?_sound hwhole
  obtain ⟨hf, rfl⟩ := scanFraction?_sound hfraction
  obtain ⟨he, rfl⟩ := scanExponent?_sound hexponent
  exact ⟨whole, fraction, exponent, hw, hf, he, rfl, by simp⟩

lemma scanUnsigned?_parts {whole fraction exponent : List Char} (hw : Whole whole)
    (hf : Fraction fraction) (he : Exponent exponent) :
    scanUnsigned? (whole ++ fraction ++ exponent) =
      some (whole ++ fraction ++ exponent, []) := by
  have hbehind : ∀ c ∈ (fraction ++ exponent).head?, c.isDigit = false := by
    intro c hc
    cases hf with
    | absent => exact (he.head? c hc).1
    | point _ =>
        cases hc
        decide
  simp only [scanUnsigned?, List.append_assoc, hw.scan hbehind, hf.scan he.head?, he.scan,
    Option.bind_eq_bind, Option.bind_some, Option.pure_def]

/-- What is read as a number is a numeral. -/
lemma scanNumber?_sound (h : scanNumber? cs = some (ds, tail)) : Numeral ds ∧ cs = ds ++ tail := by
  unfold scanNumber? at h
  split at h
  · simp only [Option.bind_eq_bind, Option.bind_eq_some_iff, Prod.exists] at h
    obtain ⟨digits, more, hdigits, hsome⟩ := h
    obtain ⟨rfl, rfl⟩ : '-' :: digits = ds ∧ more = tail := by simpa using hsome
    obtain ⟨whole, fraction, exponent, hw, hf, he, rfl, rfl⟩ := scanUnsigned?_sound hdigits
    exact ⟨.negative hw hf he, rfl⟩
  · obtain ⟨whole, fraction, exponent, hw, hf, he, rfl, rfl⟩ := scanUnsigned?_sound h
    exact ⟨.unsigned hw hf he, rfl⟩

/-- **Numbers**: numerals are read to their end, and nothing else is. -/
theorem scanNumber?_eq_self_iff : scanNumber? cs = some (cs, []) ↔ Numeral cs := by
  refine ⟨fun h => (scanNumber?_sound h).1, fun h => ?_⟩
  cases h with
  | @unsigned whole fraction exponent hw hf he =>
      have hscan := scanUnsigned?_parts hw hf he
      rwa [scanNumber?.eq_2]
      intro more hmore
      -- a whole part starts with a digit
      obtain ⟨d, ds, rfl⟩ := List.exists_cons_of_ne_nil hw.1.1
      have hdigit := hw.1.2 d List.mem_cons_self
      cases hmore
      exact absurd hdigit (by decide)
  | @negative whole fraction exponent hw hf he =>
      rw [scanNumber?, scanUnsigned?_parts hw hf he]
      rfl

/-! ### Whole numbers -/

/-- A numeral of digits alone is a whole part. -/
lemma Numeral.whole (h : Numeral cs) (hdigits : ∀ c ∈ cs, c.isDigit = true) : Whole cs := by
  cases h with
  | @unsigned whole fraction exponent hw hf he =>
      have hfraction : fraction = [] := by
        cases hf with
        | absent => rfl
        | point _ => exact absurd (hdigits '.' (by simp)) (by decide)
      have hexponent : exponent = [] := by
        cases he with
        | absent => rfl
        | @mark c _ _ hc _ _ =>
            have hdigit := hdigits c (by simp)
            rcases hc with rfl | rfl <;> exact absurd hdigit (by decide)
      rwa [hfraction, hexponent, List.append_nil, List.append_nil]
  | negative _ _ _ => exact absurd (hdigits '-' List.mem_cons_self) (by decide)

/-- Digits are determined by their values. -/
lemma eq_of_map_digitValue {es : List Char} (hds : ∀ d ∈ ds, d.isDigit = true)
    (hes : ∀ e ∈ es, e.isDigit = true)
    (h : ds.map Number.digitValue = es.map Number.digitValue) : ds = es := by
  induction ds generalizing es with
  | nil => exact (List.map_eq_nil_iff.mp h.symm).symm
  | cons d ds ih =>
      cases es with
      | nil => cases h
      | cons e es =>
          obtain ⟨hd, hds⟩ := List.forall_mem_cons.mp hds
          obtain ⟨he, hes⟩ := List.forall_mem_cons.mp hes
          obtain ⟨hfirst, hrest⟩ := List.cons.inj h
          have hd := (Number.digitValue_add hd).1
          have he := (Number.digitValue_add he).1
          rw [ih hds hes hrest, Char.toNat_inj.mp (show d.toNat = e.toNat by omega)]

/-- Without a zero in front, the digits of a number are its decimal places. -/
lemma digits_of_denotes {n : ℕ} (h : Number.Denotes ds n) (hhead : ds.head? ≠ some '0') :
    Nat.digits 10 n = ds.reverse.map Number.digitValue := by
  rw [h.value]
  refine Nat.digits_ofDigits 10 (by decide) _ ?_ fun hne => ?_
  · intro v hv
    obtain ⟨d, hd, rfl⟩ := List.mem_map.mp hv
    exact (Number.digitValue_add (h.digits d (List.mem_reverse.mp hd))).2
  · obtain ⟨d, ds, rfl⟩ := List.exists_cons_of_ne_nil h.ne_nil
    have hdigit := Number.digitValue_add (h.digits d List.mem_cons_self)
    have hzero : d ≠ '0' := fun hd => hhead (congrArg some hd)
    have hlast : (((d :: ds).reverse.map Number.digitValue).getLast hne) = Number.digitValue d := by
      simp
    rw [hlast]
    intro hvalue
    exact hzero (Char.toNat_inj.mp (show d.toNat = 48 by omega))

/-- **Whole numbers** in numerals: digits that denote a number are the ones in which it is
written. -/
theorem Numeral.eq_toString {n : ℕ} (h : Numeral cs) (hn : Number.Denotes cs n) :
    cs = (toString n).toList := by
  have hwhole := h.whole hn.digits
  have htext : (toString n).toList = Nat.toDigits 10 n := Nat.toList_repr
  rw [htext]
  by_cases hhead : cs.head? = some '0'
  · have hcs := hwhole.2 hhead
    subst hcs
    have hzero : n = 0 := hn.value
    rw [hzero]
    rfl
  · have hdigits := digits_of_denotes hn hhead
    have hne : n ≠ 0 := by
      rintro rfl
      rw [Nat.digits_zero] at hdigits
      exact hn.ne_nil (List.reverse_eq_nil_iff.mp (List.map_eq_nil_iff.mp hdigits.symm))
    have hwritten := Number.denotes_toDigits n
    have hplaces := digits_of_denotes hwritten (head?_toDigits_ne n hne)
    rw [hdigits, List.map_reverse, List.map_reverse, List.reverse_inj] at hplaces
    exact eq_of_map_digitValue hn.digits hwritten.digits hplaces

/-! ### Characters -/

/-- The UTF-16 units of a character: one up to U+FFFF, beyond that a surrogate pair. -/
def utf16 (c : Char) : List ℕ :=
  if c.toNat < 0x10000 then [c.toNat]
  else [0xD800 + (c.toNat - 0x10000) / 0x400, 0xDC00 + (c.toNat - 0x10000) % 0x400]

/-- A character is no half of a surrogate pair. -/
lemma toNat_range (c : Char) : c.toNat < 0xD800 ∨ 0xDFFF < c.toNat ∧ c.toNat < 0x110000 :=
  c.valid

lemma toNat_ofNat_of_valid {n : ℕ} (h : n < 0xD800 ∨ 0xDFFF < n ∧ n < 0x110000) :
    (Char.ofNat n).toNat = n := by
  rw [Char.ofNat, dif_pos (show n.isValidChar from h)]
  rfl

/-- A character up to U+FFFF is one unit. -/
lemma utf16_of_lt (h : c.toNat < 0x10000) : utf16 c = [c.toNat] :=
  if_pos h

/-- A character beyond U+FFFF is a high half and a low one. -/
lemma utf16_of_le (h : 0x10000 ≤ c.toNat) :
    ∃ high low, utf16 c = [0xD800 + high, 0xDC00 + low] ∧ high < 0x400 ∧ low < 0x400 ∧
      c.toNat = 0x10000 + high * 0x400 + low := by
  have hrange := toNat_range c
  refine ⟨_, _, if_neg (by omega), ?_, Nat.mod_lt _ (by decide), ?_⟩ <;> omega

/-- The units of two characters tell them apart, whatever follows. -/
lemma utf16_append_inj {d : Char} {us vs : List ℕ} (h : utf16 c ++ us = utf16 d ++ vs) :
    c = d ∧ us = vs := by
  have hc := toNat_range c
  have hd := toNat_range d
  rcases lt_or_ge c.toNat 0x10000 with hcl | hcg <;>
    rcases lt_or_ge d.toNat 0x10000 with hdl | hdg
  · rw [utf16_of_lt hcl, utf16_of_lt hdl] at h
    obtain ⟨hfirst, hrest⟩ := List.cons.inj h
    exact ⟨Char.toNat_inj.mp hfirst, hrest⟩
  · obtain ⟨high, low, hunits, hhigh, -, -⟩ := utf16_of_le hdg
    rw [utf16_of_lt hcl, hunits] at h
    obtain ⟨hfirst, -⟩ := List.cons.inj h
    omega
  · obtain ⟨high, low, hunits, hhigh, -, -⟩ := utf16_of_le hcg
    rw [utf16_of_lt hdl, hunits] at h
    obtain ⟨hfirst, -⟩ := List.cons.inj h
    omega
  · obtain ⟨high, low, hunits, -, -, hvalue⟩ := utf16_of_le hcg
    obtain ⟨high', low', hunits', -, -, hvalue'⟩ := utf16_of_le hdg
    rw [hunits, hunits'] at h
    obtain ⟨hfirst, hsecond⟩ := List.cons.inj h
    obtain ⟨hsecond, hrest⟩ := List.cons.inj hsecond
    exact ⟨Char.toNat_inj.mp (by omega), hrest⟩

/-! ### String literals -/

/-- The escapes of one letter, and the characters that they stand for. -/
def letterEscapes : List (Char × Char) :=
  [('"', '"'), ('\\', '\\'), ('/', '/'), ('b', '\x08'), ('f', '\x0c'), ('n', '\n'), ('r', '\r'),
    ('t', '\t')]

/-- A hexadecimal digit of a value, in either case. -/
def HexDigit (c : Char) (v : ℕ) : Prop :=
  v < 16 ∧ (c = Nat.digitChar v ∨ c = (Nat.digitChar v).toUpper)

/-- What stands between the marks of a string literal, and the UTF-16 units that it spells: a
character that needs no escape spells its own, an escape of one letter those of what it stands for,
and one of four hexadecimal digits the unit that has them. -/
inductive Units : List Char → List ℕ → Prop
  | nil : Units [] []
  | plain {c : Char} {cs : List Char} {us : List ℕ} (hcontrol : 0x20 ≤ c.toNat) (hquote : c ≠ '"')
      (hback : c ≠ '\\') (h : Units cs us) : Units (c :: cs) (utf16 c ++ us)
  | letter {e c : Char} {cs : List Char} {us : List ℕ} (he : (e, c) ∈ letterEscapes)
      (h : Units cs us) : Units ('\\' :: e :: cs) (utf16 c ++ us)
  | unit {c₁ c₂ c₃ c₄ : Char} {v₁ v₂ v₃ v₄ : ℕ} {cs : List Char} {us : List ℕ}
      (h₁ : HexDigit c₁ v₁) (h₂ : HexDigit c₂ v₂) (h₃ : HexDigit c₃ v₃) (h₄ : HexDigit c₄ v₄)
      (h : Units cs us) :
      Units ('\\' :: 'u' :: c₁ :: c₂ :: c₃ :: c₄ :: cs)
        ((4096 * v₁ + 256 * v₂ + 16 * v₃ + v₄) :: us)

/-- The text of a literal is the one that has its units, if there is one. -/
def IsTextOf (us : List ℕ) (s : Option String) : Prop :=
  ∀ t : String, s = some t ↔ t.toList.flatMap utf16 = us

lemma escaped?_eq_some_iff {e : Char} : escaped? e = some c ↔ (e, c) ∈ letterEscapes := by
  constructor
  · intro h
    unfold escaped? at h
    split at h <;> cases h <;> decide
  · intro h
    simp only [letterEscapes, List.mem_cons, Prod.mk.injEq, List.not_mem_nil, or_false] at h
    rcases h with ⟨rfl, rfl⟩ | ⟨rfl, rfl⟩ | ⟨rfl, rfl⟩ | ⟨rfl, rfl⟩ | ⟨rfl, rfl⟩ | ⟨rfl, rfl⟩ |
      ⟨rfl, rfl⟩ | ⟨rfl, rfl⟩ <;> rfl

lemma hexValue?_eq_some_iff {v : ℕ} : hexValue? c = some v ↔ HexDigit c v := by
  have hdigit : ∀ v < 10, (Nat.digitChar v).toNat = v + 48 := by decide
  have hlower : ∀ v < 6, (Nat.digitChar (v + 10)).toNat = v + 97 := by decide
  have hupper : ∀ v < 6, (Nat.digitChar (v + 10)).toUpper.toNat = v + 65 := by decide
  constructor
  · intro h
    unfold hexValue? at h
    split at h
    · next hc =>
      have hrange : 48 ≤ c.toNat ∧ c.toNat ≤ 57 := Char.isDigit_iff_toNat.mp hc
      obtain rfl : c.toNat - 48 = v := Option.some.inj h
      refine ⟨by omega, Or.inl (Char.toNat_inj.mp ?_)⟩
      rw [hdigit _ (by omega)]
      omega
    split at h
    · next hc =>
      have hrange : 97 ≤ c.toNat ∧ c.toNat ≤ 102 := hc
      obtain rfl : c.toNat - 97 + 10 = v := Option.some.inj h
      refine ⟨by omega, Or.inl (Char.toNat_inj.mp ?_)⟩
      rw [hlower _ (by omega)]
      omega
    split at h
    · next hc =>
      have hrange : 65 ≤ c.toNat ∧ c.toNat ≤ 70 := hc
      obtain rfl : c.toNat - 65 + 10 = v := Option.some.inj h
      refine ⟨by omega, Or.inr (Char.toNat_inj.mp ?_)⟩
      rw [hupper _ (by omega)]
      omega
    · cases h
  · rintro ⟨hv, hc⟩
    have hall : ∀ v < 16, hexValue? (Nat.digitChar v) = some v ∧
        hexValue? (Nat.digitChar v).toUpper = some v := by
      decide
    rcases hc with rfl | rfl
    · exact (hall v hv).1
    · exact (hall v hv).2

lemma hexValue4?_eq_some_iff {c₁ c₂ c₃ c₄ : Char} {n : ℕ} :
    hexValue4? c₁ c₂ c₃ c₄ = some n ↔
      ∃ v₁ v₂ v₃ v₄, HexDigit c₁ v₁ ∧ HexDigit c₂ v₂ ∧ HexDigit c₃ v₃ ∧ HexDigit c₄ v₄ ∧
        n = 4096 * v₁ + 256 * v₂ + 16 * v₃ + v₄ := by
  simp only [hexValue4?, Option.bind_eq_bind, Option.bind_eq_some_iff, Option.pure_def,
    hexValue?_eq_some_iff, Option.some.injEq]
  constructor
  · rintro ⟨v₁, h₁, v₂, h₂, v₃, h₃, v₄, h₄, rfl⟩
    exact ⟨v₁, v₂, v₃, v₄, h₁, h₂, h₃, h₄, rfl⟩
  · rintro ⟨v₁, v₂, v₃, v₄, h₁, h₂, h₃, h₄, rfl⟩
    exact ⟨v₁, h₁, v₂, h₂, v₃, h₃, v₄, h₄, rfl⟩

/-- Four hexadecimal digits give a unit of 16 bits. -/
lemma hexDigits_lt {c₁ c₂ c₃ c₄ : Char} {v₁ v₂ v₃ v₄ : ℕ} (h₁ : HexDigit c₁ v₁)
    (h₂ : HexDigit c₂ v₂) (h₃ : HexDigit c₃ v₃) (h₄ : HexDigit c₄ v₄) :
    4096 * v₁ + 256 * v₂ + 16 * v₃ + v₄ < 0x10000 := by
  obtain ⟨hv₁, -⟩ := h₁
  obtain ⟨hv₂, -⟩ := h₂
  obtain ⟨hv₃, -⟩ := h₃
  obtain ⟨hv₄, -⟩ := h₄
  omega

/-! ### Items of string literals -/

namespace StringItem

/-- The UTF-16 units of an item. -/
def units : StringItem → List ℕ
  | char c => utf16 c
  | high unit => [unit]
  | low unit => [unit]

/-- Halves of surrogate pairs are in their ranges. -/
def InRange : StringItem → Prop
  | char _ => True
  | high unit => 0xD800 ≤ unit ∧ unit ≤ 0xDBFF
  | low unit => 0xDC00 ≤ unit ∧ unit ≤ 0xDFFF

end StringItem

/-- The item of a unit has just this unit. -/
lemma units_itemOfUnit {n : ℕ} (hn : n < 0x10000) :
    (itemOfUnit n).units = [n] ∧ (itemOfUnit n).InRange := by
  unfold itemOfUnit
  split
  · next h => exact ⟨rfl, h⟩
  · split
    · next h => exact ⟨rfl, h⟩
    · have hvalue : (Char.ofNat n).toNat = n := toNat_ofNat_of_valid (by omega)
      refine ⟨?_, trivial⟩
      rw [StringItem.units, utf16_of_lt (by omega), hvalue]

/-- What is read up to a closing mark spells the units of the items that are read. -/
lemma scanString?_sound {items : List StringItem} (h : scanString? cs = some (items, rest)) :
    ∃ inner, cs = inner ++ '"' :: rest ∧ Units inner (items.flatMap StringItem.units) ∧
      ∀ item ∈ items, item.InRange := by
  induction cs using scanString?.induct generalizing items with
  | case1 => simp [scanString?] at h
  | case2 more =>
      obtain ⟨rfl, rfl⟩ : [] = items ∧ more = rest := by simpa [scanString?] using h
      exact ⟨[], rfl, .nil, by simp⟩
  | case3 a b c d more ih =>
      simp only [scanString?.eq_3, Option.bind_eq_bind, Option.bind_eq_some_iff, Prod.exists] at h
      obtain ⟨unit, hunit, tail, rest', hscan, hsome⟩ := h
      obtain ⟨rfl, rfl⟩ : itemOfUnit unit :: tail = items ∧ rest' = rest := by simpa using hsome
      obtain ⟨inner, rfl, hunits, hrange⟩ := ih hscan
      obtain ⟨v₁, v₂, v₃, v₄, h₁, h₂, h₃, h₄, rfl⟩ := hexValue4?_eq_some_iff.mp hunit
      obtain ⟨hitem, hitem'⟩ := units_itemOfUnit (hexDigits_lt h₁ h₂ h₃ h₄)
      refine ⟨'\\' :: 'u' :: a :: b :: c :: d :: inner, rfl, ?_,
        List.forall_mem_cons.mpr ⟨hitem', hrange⟩⟩
      rw [List.flatMap_cons, hitem]
      exact .unit h₁ h₂ h₃ h₄ hunits
  | case4 e more hnot ih =>
      rw [scanString?.eq_4 _ _ hnot] at h
      simp only [Option.bind_eq_bind, Option.bind_eq_some_iff, Prod.exists] at h
      obtain ⟨c, hc, tail, rest', hscan, hsome⟩ := h
      obtain ⟨rfl, rfl⟩ : .char c :: tail = items ∧ rest' = rest := by simpa using hsome
      obtain ⟨inner, rfl, hunits, hrange⟩ := ih hscan
      exact ⟨'\\' :: e :: inner, rfl, .letter (escaped?_eq_some_iff.mp hc) hunits,
        List.forall_mem_cons.mpr ⟨trivial, hrange⟩⟩
  | case5 c more hquote hunit hletter hbad =>
      rw [scanString?.eq_5 _ _ hquote hunit hletter, if_pos hbad] at h
      cases h
  | case6 c more hquote hunit hletter hplain ih =>
      rw [scanString?.eq_5 _ _ hquote hunit hletter, if_neg hplain] at h
      simp only [Option.bind_eq_bind, Option.bind_eq_some_iff, Prod.exists] at h
      obtain ⟨tail, rest', hscan, hsome⟩ := h
      obtain ⟨rfl, rfl⟩ : .char c :: tail = items ∧ rest' = rest := by simpa using hsome
      obtain ⟨inner, rfl, hunits, hrange⟩ := ih hscan
      obtain ⟨hcontrol, hback⟩ := not_or.mp hplain
      exact ⟨c :: inner, rfl, .plain (not_lt.mp hcontrol) hquote hback hunits,
        List.forall_mem_cons.mpr ⟨trivial, hrange⟩⟩

/-- Units that are spelled are read up to the closing mark. -/
lemma Units.scan {us : List ℕ} (h : Units cs us) (rest : List Char) :
    ∃ items, scanString? (cs ++ '"' :: rest) = some (items, rest) ∧
      items.flatMap StringItem.units = us := by
  induction h with
  | nil => exact ⟨[], scanString?.eq_2 rest, rfl⟩
  | @plain c cs us hcontrol hquote hback _ ih =>
      obtain ⟨items, hscan, rfl⟩ := ih
      refine ⟨.char c :: items, ?_, rfl⟩
      rw [List.cons_append, scanString?.eq_5 _ _ hquote (fun _ _ _ _ _ h => (hback h).elim)
        (fun _ _ h => (hback h).elim), if_neg (not_or.mpr ⟨not_lt.mpr hcontrol, hback⟩), hscan]
      rfl
  | @letter e c cs us he _ ih =>
      obtain ⟨items, hscan, rfl⟩ := ih
      have hc := escaped?_eq_some_iff.mpr he
      refine ⟨.char c :: items, ?_, rfl⟩
      rw [List.cons_append, List.cons_append, scanString?.eq_4, hc, hscan]
      · rfl
      · rintro _ _ _ _ _ rfl -
        cases hc
  | @unit c₁ c₂ c₃ c₄ v₁ v₂ v₃ v₄ cs us h₁ h₂ h₃ h₄ _ ih =>
      obtain ⟨items, hscan, rfl⟩ := ih
      have hunit := hexValue4?_eq_some_iff.mpr ⟨v₁, v₂, v₃, v₄, h₁, h₂, h₃, h₄, rfl⟩
      have hitem := (units_itemOfUnit (hexDigits_lt h₁ h₂ h₃ h₄)).1
      refine ⟨itemOfUnit _ :: items, ?_, by rw [List.flatMap_cons, hitem]; rfl⟩
      simp only [List.cons_append, scanString?.eq_3, hunit, hscan, Option.bind_eq_bind,
        Option.bind_some, Option.pure_def]

/-! ### Texts of literals -/

/-- The first unit of a character is no low half, and where it is a high half the second one is a
low half. -/
lemma utf16_cases (c : Char) :
    (∃ unit, utf16 c = [unit] ∧ (unit < 0xD800 ∨ 0xDFFF < unit)) ∨
      ∃ high low, utf16 c = [high, low] ∧ 0xD800 ≤ high ∧ high ≤ 0xDBFF ∧
        0xDC00 ≤ low ∧ low ≤ 0xDFFF := by
  rcases lt_or_ge c.toNat 0x10000 with hlt | hge
  · have hrange := toNat_range c
    exact Or.inl ⟨_, utf16_of_lt hlt, by omega⟩
  · obtain ⟨high, low, hunits, hhigh, hlow, -⟩ := utf16_of_le hge
    exact Or.inr ⟨_, _, hunits, by omega⟩

/-- The character of a surrogate pair has its two halves. -/
lemma utf16_pair {high low : ℕ} (hhigh : 0xD800 ≤ high ∧ high ≤ 0xDBFF)
    (hlow : 0xDC00 ≤ low ∧ low ≤ 0xDFFF) :
    utf16 (Char.ofNat (0x10000 + (high - 0xD800) * 0x400 + (low - 0xDC00))) = [high, low] := by
  have hvalue := toNat_ofNat_of_valid
    (n := 0x10000 + (high - 0xD800) * 0x400 + (low - 0xDC00)) (by omega)
  obtain ⟨high', low', hunits, hhigh', hlow', hsame⟩ := utf16_of_le (c := Char.ofNat
    (0x10000 + (high - 0xD800) * 0x400 + (low - 0xDC00))) (by omega)
  rw [hunits]
  obtain ⟨rfl, rfl⟩ : high = 0xD800 + high' ∧ low = 0xDC00 + low' := by omega
  rfl

/-- Characters behind a first one are those that have the units behind its own. -/
lemma flatMap_utf16_eq_append_iff {us : List ℕ} :
    cs.flatMap utf16 = utf16 c ++ us ↔ ∃ ds, cs = c :: ds ∧ ds.flatMap utf16 = us := by
  constructor
  · intro h
    cases cs with
    | nil =>
        rcases utf16_cases c with ⟨unit, hunits, -⟩ | ⟨high, low, hunits, -⟩ <;>
          simp [hunits] at h
    | cons d ds =>
        rw [List.flatMap_cons] at h
        obtain ⟨rfl, hrest⟩ := utf16_append_inj h
        exact ⟨ds, rfl, hrest⟩
  · rintro ⟨ds, rfl, rfl⟩
    exact List.flatMap_cons

/-- No text starts with a low half of a surrogate pair. -/
lemma flatMap_utf16_ne_low {low : ℕ} (hlow : 0xDC00 ≤ low ∧ low ≤ 0xDFFF) (us : List ℕ) :
    cs.flatMap utf16 ≠ low :: us := by
  intro h
  cases cs with
  | nil => cases h
  | cons c cs =>
      rw [List.flatMap_cons] at h
      rcases utf16_cases c with ⟨unit, hunits, hunit⟩ | ⟨high, low', hunits, hhigh⟩ <;>
      · rw [hunits] at h
        obtain ⟨hfirst, -⟩ := List.cons.inj h
        omega

/-- Behind a high half of a surrogate pair a text has a low one. -/
lemma exists_low_of_flatMap_utf16 {high : ℕ} {us : List ℕ}
    (hhigh : 0xD800 ≤ high ∧ high ≤ 0xDBFF) (h : cs.flatMap utf16 = high :: us) :
    ∃ low vs, us = low :: vs ∧ 0xDC00 ≤ low ∧ low ≤ 0xDFFF := by
  cases cs with
  | nil => cases h
  | cons c cs =>
      rw [List.flatMap_cons] at h
      rcases utf16_cases c with ⟨unit, hunits, hunit⟩ | ⟨high', low, hunits, -, -, hlow⟩
      · rw [hunits] at h
        obtain ⟨hfirst, -⟩ := List.cons.inj h
        omega
      · rw [hunits] at h
        obtain ⟨-, hrest⟩ := List.cons.inj h
        exact ⟨low, _, hrest.symm, hlow⟩

/-- The characters of a literal are those that have its units. -/
lemma charsOf?_eq_some_iff {items : List StringItem} (hrange : ∀ item ∈ items, item.InRange) :
    charsOf? items = some cs ↔ cs.flatMap utf16 = items.flatMap StringItem.units := by
  induction items using charsOf?.induct generalizing cs with
  | case1 =>
      rw [charsOf?, Option.some.injEq, List.flatMap_nil]
      constructor
      · rintro rfl
        rfl
      · intro h
        cases cs with
        | nil => rfl
        | cons c cs =>
            rcases utf16_cases c with ⟨unit, hunits, -⟩ | ⟨high, low, hunits, -⟩ <;>
              simp [hunits] at h
  | case2 c items ih =>
      obtain ⟨-, hitems⟩ := List.forall_mem_cons.mp hrange
      rw [charsOf?, List.flatMap_cons, StringItem.units, flatMap_utf16_eq_append_iff]
      simp only [Option.map_eq_some_iff, ih hitems]
      constructor
      · rintro ⟨ds, hds, rfl⟩
        exact ⟨ds, rfl, hds⟩
      · rintro ⟨ds, rfl, hds⟩
        exact ⟨ds, hds, rfl⟩
  | case3 high low items ih =>
      obtain ⟨hhigh, hbehind⟩ := List.forall_mem_cons.mp hrange
      obtain ⟨hlow, hitems⟩ := List.forall_mem_cons.mp hbehind
      have hpair : (StringItem.high high :: .low low :: items).flatMap StringItem.units =
          utf16 (Char.ofNat (0x10000 + (high - 0xD800) * 0x400 + (low - 0xDC00))) ++
            items.flatMap StringItem.units := by
        rw [utf16_pair hhigh hlow]
        rfl
      rw [charsOf?, hpair, flatMap_utf16_eq_append_iff]
      simp only [Option.map_eq_some_iff, ih hitems]
      constructor
      · rintro ⟨ds, hds, rfl⟩
        exact ⟨ds, rfl, hds⟩
      · rintro ⟨ds, rfl, hds⟩
        exact ⟨ds, hds, rfl⟩
  | case4 high items hno =>
      obtain ⟨hhigh, hitems⟩ := List.forall_mem_cons.mp hrange
      rw [charsOf?.eq_4 _ _ hno]
      refine iff_of_false (by simp) fun h => ?_
      have h : cs.flatMap utf16 = high :: items.flatMap StringItem.units := h
      -- what follows a high half is a low one, and this comes of an item of its own
      obtain ⟨low, vs, hvs, hlow⟩ := exists_low_of_flatMap_utf16 hhigh h
      cases items with
      | nil => cases hvs
      | cons item items =>
          cases item with
          | char c =>
              rcases utf16_cases c with ⟨unit, hunits, hunit⟩ | ⟨high', low', hunits, hhigh'⟩ <;>
              · simp only [List.flatMap_cons, StringItem.units, hunits] at hvs
                obtain ⟨hfirst, -⟩ := List.cons.inj hvs
                omega
          | high unit =>
              obtain ⟨hunit, -⟩ := List.forall_mem_cons.mp hitems
              obtain ⟨hfirst, -⟩ := List.cons.inj hvs
              have hunit : 0xD800 ≤ unit ∧ unit ≤ 0xDBFF := hunit
              omega
          | low unit => exact hno unit items rfl
  | case5 low items =>
      obtain ⟨hlow, -⟩ := List.forall_mem_cons.mp hrange
      rw [charsOf?]
      exact iff_of_false (by simp) (flatMap_utf16_ne_low hlow _)

/-- **Texts of literals**: what the items of a literal give is the text that has their units, if
there is one. -/
theorem isTextOf_textOf? {items : List StringItem} (hrange : ∀ item ∈ items, item.InRange) :
    IsTextOf (items.flatMap StringItem.units) (textOf? items) := by
  intro t
  rw [textOf?, Option.map_eq_some_iff, ← charsOf?_eq_some_iff hrange]
  constructor
  · rintro ⟨cs, hcs, rfl⟩
    rwa [String.toList_ofList]
  · intro hcs
    exact ⟨t.toList, hcs, String.ofList_toList⟩

/-- Units have one text at most. -/
lemma IsTextOf.unique {us : List ℕ} {s s' : Option String} (h : IsTextOf us s)
    (h' : IsTextOf us s') : s = s' :=
  Option.ext fun t => (h t).trans (h' t).symm

end Census.Json
