/-
What decimal notation denotes, and what is read as a number.

* `Denotes`: one or more digits denote the number that has them at its decimal places;
* `DenotesInteger`: the same with at most one sign in front;
* `natural?_eq_some_iff`, `integer?_eq_some_iff`: the readers accept this notation and no other;
* `denotes_toDigits`, `Denotes.zeros_append`, `denotesInteger_toString`: numbers as they are
  written, with zeros in front or without;
* `Denotes.lt_pow`: so many digits denote no greater number;
* `Denotes.append_lt_append`: as many digits are in the order of their numbers;
* `signed64?_eq_some_iff_denotes`: which texts are numbers of the signed 64-bit range.
-/
import Mathlib.Tactic
import Mathlib.Data.Nat.Digits.Defs
import Census.Number.Integer

namespace Census

namespace Text

/-- A digit is not blank. -/
lemma isBlank_of_isDigit {c : Char} (h : c.isDigit = true) : isBlank c = false := by
  have hrange : 48 ≤ c.toNat ∧ c.toNat ≤ 57 := Char.isDigit_iff_toNat.mp h
  unfold isBlank
  generalize c.toNat = n at hrange
  simp
  omega

/-- Where nothing is blank nothing is trimmed. -/
lemma trimChars_eq_self {cs : List Char} (h : ∀ c ∈ cs, isBlank c = false) : trimChars cs = cs := by
  have hfront : ∀ ds : List Char, (∀ d ∈ ds, isBlank d = false) → trimLeft ds = ds := by
    intro ds hds
    cases ds with
    | nil => rfl
    | cons d ds => rw [trimLeft, List.dropWhile_cons_of_neg (by simp [hds d List.mem_cons_self])]
  rw [trimChars, hfront cs h, trimRight]
  have hback := hfront cs.reverse fun c hc => h c (List.mem_reverse.mp hc)
  rw [trimLeft] at hback
  rw [hback, List.reverse_reverse]

end Text

namespace Number

/-! ### Digits -/

/-- The number that a digit stands for. -/
def digitValue (c : Char) : ℕ :=
  c.toNat - '0'.toNat

/-- One or more ASCII digits denote the number that has them at its decimal places. -/
structure Denotes (ds : List Char) (n : ℕ) : Prop where
  ne_nil : ds ≠ []
  digits : ∀ c ∈ ds, c.isDigit = true
  value : n = Nat.ofDigits 10 (ds.reverse.map digitValue)

variable {ds es : List Char} {n m : ℕ}

/-- Digits read one after another give their places. -/
lemma digitsValue_eq (ds : List Char) :
    digitsValue ds = Nat.ofDigits 10 (ds.reverse.map digitValue) := by
  induction ds using List.reverseRecOn with
  | nil => rfl
  | append_singleton ds c ih =>
      have hlast : digitsValue (ds ++ [c]) = 10 * digitsValue ds + digitValue c :=
        List.foldl_concat ..
      rw [hlast, ih, List.reverse_concat, List.map_cons, Nat.ofDigits_cons, Nat.add_comm]

lemma digitsValue_eq_ofDigitChars (ds : List Char) : digitsValue ds = Nat.ofDigitChars 10 ds 0 :=
  Nat.ofDigitChars_eq_foldl.symm

lemma denotes_iff : Denotes ds n ↔ ds ≠ [] ∧ (∀ c ∈ ds, c.isDigit = true) ∧ digitsValue ds = n := by
  rw [digitsValue_eq]
  exact ⟨fun h => ⟨h.ne_nil, h.digits, h.value.symm⟩, fun ⟨hne, hds, hn⟩ => ⟨hne, hds, hn.symm⟩⟩

/-- Digits have no blank among them. -/
lemma Denotes.not_isBlank (h : Denotes ds n) : ∀ c ∈ ds, Text.isBlank c = false :=
  fun c hc => Text.isBlank_of_isDigit (h.digits c hc)

/-- There is a digit in front, whatever follows. -/
lemma Denotes.isDigit_head? (h : Denotes ds n) (rest : List Char) :
    ∀ c ∈ (ds ++ rest).head?, c.isDigit = true := by
  intro c hc
  obtain ⟨d, ds, rfl⟩ := List.exists_cons_of_ne_nil h.ne_nil
  cases hc
  exact h.digits _ List.mem_cons_self

/-- **Natural numbers**: digits are read as the number that they denote, and nothing else is. -/
theorem natural?_eq_some_iff : natural? ds = some n ↔ Denotes ds n := by
  rw [natural?, denotes_iff, ← and_assoc, ← List.all_eq_true]
  by_cases h : ds ≠ [] ∧ ds.all Char.isDigit = true
  · rw [if_pos h, Option.some.injEq, and_iff_right h]
  · rw [if_neg h]
    exact iff_of_false (by simp) fun h' => h h'.1

/-- Zeros in front make no difference. -/
lemma Denotes.zeros_append (h : Denotes ds n) (count : ℕ) :
    Denotes (List.replicate count '0' ++ ds) n := by
  obtain ⟨hne, hds, hn⟩ := denotes_iff.mp h
  refine denotes_iff.mpr ⟨fun hnil => hne (List.append_eq_nil_iff.mp hnil).2, ?_, ?_⟩
  · intro c hc
    rcases List.mem_append.mp hc with hzero | hmem
    · rw [List.eq_of_mem_replicate hzero]
      rfl
    · exact hds c hmem
  · rw [digitsValue_eq_ofDigitChars, Nat.ofDigitChars_append, Nat.ofDigitChars_replicate_zero,
      Nat.mul_zero, ← digitsValue_eq_ofDigitChars, hn]

/-- The decimal digits of a number denote it. -/
lemma denotes_toDigits (n : ℕ) : Denotes (Nat.toDigits 10 n) n := by
  refine denotes_iff.mpr ⟨Nat.toDigits_ne_nil, fun c hc => ?_, ?_⟩
  · exact Nat.isDigit_of_mem_toDigits (by decide) (by decide) hc
  · rw [digitsValue_eq_ofDigitChars, Nat.ofDigitChars_ten_toDigits]

/-- A digit is its code above that of zero. -/
lemma digitValue_add {c : Char} (h : c.isDigit = true) :
    digitValue c + 48 = c.toNat ∧ digitValue c < 10 := by
  have hrange : 48 ≤ c.toNat ∧ c.toNat ≤ 57 := Char.isDigit_iff_toNat.mp h
  have hzero : '0'.toNat = 48 := rfl
  rw [digitValue, hzero]
  omega

/-- So many digits stand for a number below that power of ten. -/
lemma digitsValue_lt_pow (h : ∀ c ∈ ds, c.isDigit = true) : digitsValue ds < 10 ^ ds.length := by
  have hdigit : ∀ d ∈ ds.reverse.map digitValue, d < 10 := by
    intro d hd
    obtain ⟨c, hc, rfl⟩ := List.mem_map.mp hd
    exact (digitValue_add (h c (List.mem_reverse.mp hc))).2
  have hlt := Nat.ofDigits_lt_base_pow_length (by decide) hdigit
  rwa [← digitsValue_eq, List.length_map, List.length_reverse] at hlt

lemma Denotes.lt_pow (h : Denotes ds n) : n < 10 ^ ds.length := by
  obtain ⟨-, hdigits, rfl⟩ := denotes_iff.mp h
  exact digitsValue_lt_pow hdigits

/-- The first digit counts most. -/
lemma digitsValue_cons (c : Char) (cs : List Char) :
    digitsValue (c :: cs) = 10 ^ cs.length * digitValue c + digitsValue cs := by
  rw [digitsValue_eq_ofDigitChars, digitsValue_eq_ofDigitChars, Nat.ofDigitChars_cons,
    Nat.ofDigitChars_eq_ofDigitChars_zero, Nat.mul_zero, Nat.zero_add, digitValue]

/-- As many digits are in the order of their numbers, and where these are the same, of what
follows. -/
lemma append_lt_append_of_digits {xs ys : List Char} (hds : ∀ c ∈ ds, c.isDigit = true)
    (hes : ∀ c ∈ es, c.isDigit = true) (hlength : ds.length = es.length)
    (h : digitsValue ds < digitsValue es ∨ digitsValue ds = digitsValue es ∧ xs < ys) :
    ds ++ xs < es ++ ys := by
  induction ds generalizing es with
  | nil =>
      obtain rfl := List.length_eq_zero_iff.mp hlength.symm
      simpa using h
  | cons c ds ih =>
      cases es with
      | nil => cases hlength
      | cons d es =>
          obtain ⟨hc, hds⟩ := List.forall_mem_cons.mp hds
          obtain ⟨hd, hes⟩ := List.forall_mem_cons.mp hes
          have hlength' : ds.length = es.length := Nat.succ.inj hlength
          have hbelow := digitsValue_lt_pow hes
          rw [digitsValue_cons, digitsValue_cons, hlength'] at h
          generalize 10 ^ es.length = power at hbelow h
          have hc' := digitValue_add hc
          have hd' := digitValue_add hd
          refine List.cons_lt_cons_iff.mpr ?_
          rcases lt_trichotomy (digitValue c) (digitValue d) with hlt | heq | hgt
          · exact Or.inl (show c.toNat < d.toNat by omega)
          · refine Or.inr ⟨Char.toNat_inj.mp (by omega), ih hds hes hlength' ?_⟩
            rw [heq] at h
            exact h.imp Nat.lt_of_add_lt_add_left fun ⟨hsame, hrest⟩ =>
              ⟨Nat.add_left_cancel hsame, hrest⟩
          · -- a lower first digit is not made up for by the ones behind it
            have hle := Nat.mul_le_mul_left power hgt
            rw [Nat.mul_succ] at hle
            omega

lemma Denotes.append_lt_append {xs ys : List Char} (hds : Denotes ds n) (hes : Denotes es m)
    (hlength : ds.length = es.length) (h : n < m ∨ n = m ∧ xs < ys) : ds ++ xs < es ++ ys := by
  obtain ⟨-, hdigits, rfl⟩ := denotes_iff.mp hds
  obtain ⟨-, hdigits', rfl⟩ := denotes_iff.mp hes
  exact append_lt_append_of_digits hdigits hdigits' hlength h

/-! ### Signs -/

/-- Digits with at most one sign in front denote an integer. -/
inductive DenotesInteger : List Char → ℤ → Prop
  | unsigned {ds : List Char} {n : ℕ} (h : Denotes ds n) : DenotesInteger ds n
  | plus {ds : List Char} {n : ℕ} (h : Denotes ds n) : DenotesInteger ('+' :: ds) n
  | minus {ds : List Char} {n : ℕ} (h : Denotes ds n) : DenotesInteger ('-' :: ds) (-n)

/-- Digits do not start with a sign. -/
lemma Denotes.head_ne_sign (h : Denotes ds n) {c : Char} (hc : c.isDigit = false) (cs : List Char) :
    ds ≠ c :: cs := by
  rintro rfl
  rw [h.digits c List.mem_cons_self] at hc
  cases hc

lemma integer?_minus (ds : List Char) :
    integer? ('-' :: ds) = (natural? ds).map fun n : ℕ => -(n : ℤ) := by
  rw [integer?.eq_1]
  cases natural? ds <;> rfl

lemma integer?_plus (ds : List Char) :
    integer? ('+' :: ds) = (natural? ds).map fun n : ℕ => (n : ℤ) := by
  rw [integer?.eq_2]
  cases natural? ds <;> rfl

lemma integer?_unsigned (hminus : ∀ cs, ds ≠ '-' :: cs) (hplus : ∀ cs, ds ≠ '+' :: cs) :
    integer? ds = (natural? ds).map fun n : ℕ => (n : ℤ) := by
  rw [integer?.eq_3 _ hminus hplus]
  cases natural? ds <;> rfl

/-- **Integers**: digits with at most one sign are read as the integer that they denote, and nothing
else is read. -/
theorem integer?_eq_some_iff {k : ℤ} : integer? ds = some k ↔ DenotesInteger ds k := by
  constructor
  · intro h
    by_cases hminus : ∃ cs, ds = '-' :: cs
    · obtain ⟨cs, rfl⟩ := hminus
      rw [integer?_minus] at h
      obtain ⟨n, hn, rfl⟩ := Option.map_eq_some_iff.mp h
      exact .minus (natural?_eq_some_iff.mp hn)
    by_cases hplus : ∃ cs, ds = '+' :: cs
    · obtain ⟨cs, rfl⟩ := hplus
      rw [integer?_plus] at h
      obtain ⟨n, hn, rfl⟩ := Option.map_eq_some_iff.mp h
      exact .plus (natural?_eq_some_iff.mp hn)
    · rw [integer?_unsigned (not_exists.mp hminus) (not_exists.mp hplus)] at h
      obtain ⟨n, hn, rfl⟩ := Option.map_eq_some_iff.mp h
      exact .unsigned (natural?_eq_some_iff.mp hn)
  · intro h
    cases h with
    | unsigned hds =>
        rw [integer?_unsigned (hds.head_ne_sign rfl) (hds.head_ne_sign rfl),
          natural?_eq_some_iff.mpr hds]
        rfl
    | plus hds =>
        rw [integer?_plus, natural?_eq_some_iff.mpr hds]
        rfl
    | minus hds =>
        rw [integer?_minus, natural?_eq_some_iff.mpr hds]
        rfl

/-- A written integer denotes itself. -/
lemma denotesInteger_toString (k : ℤ) : DenotesInteger (toString k).toList k := by
  have hnat : ∀ n : ℕ, (toString n).toList = Nat.toDigits 10 n := fun n => Nat.toList_repr
  cases k with
  | ofNat n =>
      have htext : toString (Int.ofNat n) = toString n := rfl
      rw [htext, hnat]
      exact .unsigned (denotes_toDigits n)
  | negSucc n =>
      have htext : toString (Int.negSucc n) = "-" ++ toString (n + 1) := rfl
      rw [htext, String.toList_append, hnat]
      exact .minus (denotes_toDigits (n + 1))

/-- An integer has no blank in its notation. -/
lemma DenotesInteger.not_isBlank {cs : List Char} {k : ℤ} (h : DenotesInteger cs k) :
    ∀ c ∈ cs, Text.isBlank c = false := by
  cases h with
  | unsigned hds => exact hds.not_isBlank
  | plus hds => exact List.forall_mem_cons.mpr ⟨rfl, hds.not_isBlank⟩
  | minus hds => exact List.forall_mem_cons.mpr ⟨rfl, hds.not_isBlank⟩

lemma DenotesInteger.ne_nil {cs : List Char} {k : ℤ} (h : DenotesInteger cs k) : cs ≠ [] := by
  cases h with
  | unsigned hds => exact hds.ne_nil
  | plus _ => exact List.cons_ne_nil _ _
  | minus _ => exact List.cons_ne_nil _ _

/-- A text is a number of the signed 64-bit range when, trimmed, it denotes one. -/
lemma signed64?_eq_some_iff_denotes {s : String} {k : ℤ} :
    signed64? s = some k ↔ DenotesInteger (Text.trim s).toList k ∧ InSigned64 k := by
  rw [signed64?_eq_some_iff, integer?_eq_some_iff, Text.toList_trim]

end Number

end Census
