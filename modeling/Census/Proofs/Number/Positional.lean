/-
Positional notation of decimal numbers, and the zeros that end a fraction.

* `dropEnd_append_cons`, `exists_eq_dropEnd_append`, `getLast?_dropEnd`: what is dropped from the end
  of a list;
* `Positional`: a sign, digits, and the digits of a fraction, if there is one;
* `Positional.chars`, `Positional.value`: the notation, and the number that it denotes;
* `chars_injective`: a text is the notation of one number only;
* `Positional.trimmed`: the same with no zero at the end of its fraction, with `value_trimmed` and
  `trimFraction_chars`;
* `Binary64.exists_positional`: a finite number is written in positional notation;
* `Positional.trimFraction_faithful`: trimming leaves the number, and nothing that can be trimmed.
-/
import Mathlib
import Census.Number.Binary64
import Census.Proofs.Number.Integer

namespace Census.Number

/-! ### The end of a list -/

variable {c d : Char} {cs : List Char}

lemma dropEnd_eq (c : Char) (cs : List Char) : dropEnd c cs = cs.rdropWhile (· == c) :=
  rfl

/-- Nothing is dropped beyond another character. -/
lemma dropEnd_append_cons (h : d ≠ c) (front cs : List Char) :
    dropEnd c (front ++ d :: cs) = front ++ d :: dropEnd c cs := by
  induction cs using List.reverseRecOn with
  | nil =>
      rw [dropEnd_eq, List.rdropWhile_concat_neg _ _ _ (by simpa using h)]
      rfl
  | append_singleton cs x ih =>
      have hsplit : front ++ d :: (cs ++ [x]) = (front ++ d :: cs) ++ [x] := by simp
      rw [dropEnd_eq, hsplit, List.rdropWhile_concat, ← dropEnd_eq, ih, dropEnd_eq c (cs ++ [x]),
        List.rdropWhile_concat, ← dropEnd_eq]
      split
      · rfl
      · exact hsplit.symm

/-- What is dropped are copies of the character. -/
lemma exists_eq_dropEnd_append (c : Char) (cs : List Char) :
    ∃ count, cs = dropEnd c cs ++ List.replicate count c := by
  refine ⟨(cs.rtakeWhile (· == c)).length, ?_⟩
  have hcopies : ∀ x ∈ cs.rtakeWhile (· == c), x = c := fun x hx =>
    eq_of_beq (List.mem_rtakeWhile_imp (p := (· == c)) hx)
  rw [← List.eq_replicate_of_mem hcopies, dropEnd_eq, List.rdropWhile_append_rtakeWhile]

lemma mem_of_mem_dropEnd {x : Char} (h : x ∈ dropEnd c cs) : x ∈ cs :=
  (List.rdropWhile_prefix _ _).subset h

/-- The character does not stand at the end any more. -/
lemma getLast?_dropEnd (c : Char) (cs : List Char) : (dropEnd c cs).getLast? ≠ some c := by
  intro hlast
  obtain ⟨front, hfront⟩ := List.getLast?_eq_some_iff.mp hlast
  have hne : cs.rdropWhile (· == c) ≠ [] := by
    rw [← dropEnd_eq, hfront]
    simp
  have hnot := List.rdropWhile_last_not _ _ hne
  simp only [← dropEnd_eq, hfront, List.getLast_concat, beq_self_eq_true, not_true] at hnot

/-- Where another character stands at the end nothing is dropped. -/
lemma dropEnd_eq_self (h : cs.getLast? ≠ some c) : dropEnd c cs = cs := by
  refine List.rdropWhile_eq_self_iff.mpr fun hne hlast => h ?_
  rw [List.getLast?_eq_some_getLast hne, eq_of_beq hlast]

/-! ### Positional notation -/

/-- Positional notation of a decimal number: a minus sign if it is negative, one or more digits, and
behind a point the digits of a fraction.  Without such digits there is no point. -/
@[ext]
structure Positional where
  negative : Bool
  whole : List Char
  fraction : List Char
  whole_ne_nil : whole ≠ []
  digits : ∀ c ∈ whole ++ fraction, c.isDigit = true

/-- The sign in front of a negative number. -/
def signChars (negative : Bool) : List Char :=
  if negative then ['-'] else []

/-- The digits of a fraction behind a point. -/
def pointed (fraction : List Char) : List Char :=
  if fraction = [] then [] else '.' :: fraction

namespace Positional

variable {p : Positional}

/-- The notation as text. -/
def chars (p : Positional) : List Char :=
  signChars p.negative ++ (p.whole ++ pointed p.fraction)

/-- The number that the notation denotes: all its digits, divided by ten for each of the
fraction. -/
def value (p : Positional) : ℚ :=
  (if p.negative then -1 else 1) * (digitsValue (p.whole ++ p.fraction) / 10 ^ p.fraction.length)

/-- The notation without the zeros that end the fraction. -/
def trimmed (p : Positional) : Positional where
  negative := p.negative
  whole := p.whole
  fraction := dropEnd '0' p.fraction
  whole_ne_nil := p.whole_ne_nil
  digits := fun c hc => p.digits c <| (List.mem_append.mp hc).elim
    (List.mem_append_left _) fun hdropped => List.mem_append_right _ (mem_of_mem_dropEnd hdropped)

lemma isDigit_whole (p : Positional) : ∀ c ∈ p.whole, c.isDigit = true :=
  fun c hc => p.digits c (List.mem_append_left _ hc)

/-- The last character is the last digit. -/
lemma getLast?_chars (p : Positional) : p.chars.getLast? = (p.whole ++ p.fraction).getLast? := by
  rw [chars, pointed]
  split
  · next hnil =>
    rw [List.append_nil, List.getLast?_append_of_ne_nil _ p.whole_ne_nil, hnil, List.append_nil]
  · next hne =>
    rw [List.getLast?_append_of_ne_nil _ (by simp),
      List.getLast?_append_of_ne_nil _ (List.cons_ne_nil _ _), List.getLast?_append_of_ne_nil _ hne,
      List.getLast?_cons_of_ne_nil hne]

lemma isDigit_of_getLast? {c : Char} (h : p.chars.getLast? = some c) : c.isDigit = true := by
  rw [getLast?_chars] at h
  exact p.digits c (List.mem_of_getLast? h)

lemma chars_ne_nil (p : Positional) : p.chars ≠ [] :=
  List.append_ne_nil_of_right_ne_nil _ (List.append_ne_nil_of_left_ne_nil p.whole_ne_nil _)

/-- There is a point where there is a fraction. -/
lemma point_mem_chars_iff : '.' ∈ p.chars ↔ p.fraction ≠ [] := by
  have hsign : '.' ∉ signChars p.negative := by
    rw [signChars]
    split <;> simp
  have hwhole : '.' ∉ p.whole := fun h => absurd (p.isDigit_whole _ h) (by decide)
  rw [chars, pointed]
  split <;> simp [*]

/-! ### One number for a text -/

lemma takeWhile_unsigned (p : Positional) :
    (p.whole ++ pointed p.fraction).takeWhile Char.isDigit = p.whole := by
  rw [List.takeWhile_append_of_pos p.isDigit_whole, pointed]
  split <;> simp

/-- A number starts with a minus sign when it is negative. -/
lemma head?_chars (p : Positional) : p.chars.head? = some '-' ↔ p.negative = true := by
  rw [chars, signChars]
  cases p.negative with
  | true => simp
  | false =>
      obtain ⟨c, ds, hwhole⟩ := List.exists_cons_of_ne_nil p.whole_ne_nil
      have hc : c ≠ '-' := by
        rintro rfl
        exact absurd (p.isDigit_whole '-' (hwhole ▸ List.mem_cons_self)) (by decide)
      simp [hwhole, hc]

/-- A text is the notation of one number only. -/
lemma chars_injective : Function.Injective chars := by
  intro p q h
  have hnegative : p.negative = q.negative := by
    rw [Bool.eq_iff_iff, ← head?_chars, h, head?_chars]
  have hunsigned : p.whole ++ pointed p.fraction = q.whole ++ pointed q.fraction := by
    rw [chars, chars, hnegative] at h
    exact List.append_cancel_left h
  have hwhole : p.whole = q.whole := by
    rw [← p.takeWhile_unsigned, hunsigned, q.takeWhile_unsigned]
  have hfraction : p.fraction = q.fraction := by
    rw [hwhole] at hunsigned
    have hpointed := List.append_cancel_left hunsigned
    have htail : ∀ ds : List Char, (pointed ds).tail = ds := by
      intro ds
      rw [pointed]
      split
      · next hnil => rw [hnil, List.tail_nil]
      · rfl
    rw [← htail p.fraction, hpointed, htail]
  exact Positional.ext hnegative hwhole hfraction

/-! ### Trimming -/

/-- Zeros behind the digits multiply by ten. -/
lemma digitsValue_append_zeros (ds : List Char) (count : ℕ) :
    digitsValue (ds ++ List.replicate count '0') = digitsValue ds * 10 ^ count := by
  rw [digitsValue_eq_ofDigitChars, Nat.ofDigitChars_append, Nat.ofDigitChars_replicate_zero,
    ← digitsValue_eq_ofDigitChars, Nat.mul_comm]

/-- The zeros at the end of a fraction do not count. -/
lemma value_trimmed (p : Positional) : p.trimmed.value = p.value := by
  obtain ⟨count, hzeros⟩ := exists_eq_dropEnd_append '0' p.fraction
  have hdigits : digitsValue (p.whole ++ p.fraction) =
      digitsValue (p.whole ++ dropEnd '0' p.fraction) * 10 ^ count := by
    rw [← digitsValue_append_zeros, List.append_assoc, ← hzeros]
  have hplaces : p.fraction.length = (dropEnd '0' p.fraction).length + count := by
    conv_lhs => rw [hzeros]
    rw [List.length_append, List.length_replicate]
  have hpow : (10 : ℚ) ^ count ≠ 0 := pow_ne_zero _ (by norm_num)
  refine congrArg ((if p.negative then (-1 : ℚ) else 1) * ·) ?_
  symm
  calc (digitsValue (p.whole ++ p.fraction) : ℚ) / 10 ^ p.fraction.length
      = digitsValue (p.whole ++ dropEnd '0' p.fraction) * 10 ^ count /
          (10 ^ (dropEnd '0' p.fraction).length * 10 ^ count) := by
        rw [hdigits, hplaces, pow_add, Nat.cast_mul, Nat.cast_pow, Nat.cast_ofNat]
    _ = digitsValue (p.whole ++ dropEnd '0' p.fraction) / 10 ^ (dropEnd '0' p.fraction).length :=
        mul_div_mul_right _ _ hpow

lemma chars_trimmed (p : Positional) :
    p.trimmed.chars = signChars p.negative ++ (p.whole ++ pointed (dropEnd '0' p.fraction)) :=
  rfl

/-- When the zeros at the end of a fraction are dropped, and then a point that ends the text, the
trimmed notation is left. -/
lemma dropEnd_dropEnd_chars (p : Positional) (h : p.fraction ≠ []) :
    dropEnd '.' (dropEnd '0' p.chars) = p.trimmed.chars := by
  have hpoint : p.chars = (signChars p.negative ++ p.whole) ++ '.' :: p.fraction := by
    rw [chars, pointed, if_neg h, List.append_assoc]
  have hlast : p.trimmed.chars.getLast? ≠ some '.' := fun hc =>
    absurd (isDigit_of_getLast? hc) (by decide)
  -- the zeros in front of the point stay
  rw [hpoint, dropEnd_append_cons (by decide)]
  by_cases hnil : dropEnd '0' p.fraction = []
  · have htrimmed : p.trimmed.chars = signChars p.negative ++ p.whole := by
      rw [chars_trimmed, hnil, pointed, if_pos rfl, List.append_nil]
    rw [htrimmed] at hlast ⊢
    rw [hnil, dropEnd_eq, List.rdropWhile_concat_pos _ _ _ (by decide), ← dropEnd_eq,
      dropEnd_eq_self hlast]
  · have htrimmed : p.trimmed.chars =
        (signChars p.negative ++ p.whole) ++ '.' :: dropEnd '0' p.fraction := by
      rw [chars_trimmed, pointed, if_neg hnil, List.append_assoc]
    rw [htrimmed] at hlast ⊢
    exact dropEnd_eq_self hlast

/-- What is left is not empty, and no sign alone. -/
lemma not_bare (p : Positional) : ¬(p.chars = [] ∨ p.chars = ['-']) := by
  rintro (hnil | hsign)
  · exact p.chars_ne_nil hnil
  · have hdigit : ('-').isDigit = true := isDigit_of_getLast? (p := p) (by rw [hsign]; rfl)
    cases hdigit

/-- **Trimming**: of a number in positional notation the zeros go that end its fraction. -/
lemma trimFraction_chars (p : Positional) : trimFraction p.chars = p.trimmed.chars := by
  simp only [trimFraction, List.contains_eq_mem, decide_eq_true_eq, point_mem_chars_iff]
  split
  · next hfraction => rw [dropEnd_dropEnd_chars p hfraction, if_neg p.trimmed.not_bare]
  · next hwhole =>
    rw [not_not] at hwhole
    rw [chars_trimmed, chars, hwhole]
    rfl

lemma trimmed_trimmed (p : Positional) : p.trimmed.trimmed = p.trimmed := by
  simp only [trimmed, dropEnd_eq_self (getLast?_dropEnd '0' p.fraction)]

/-- A fraction that is left does not end in zero. -/
lemma getLast?_trimmed (h : '.' ∈ p.trimmed.chars) : p.trimmed.chars.getLast? ≠ some '0' := by
  have hne : dropEnd '0' p.fraction ≠ [] := point_mem_chars_iff.mp h
  have hlast : p.trimmed.chars.getLast? = (dropEnd '0' p.fraction).getLast? := by
    rw [getLast?_chars]
    exact List.getLast?_append_of_ne_nil _ hne
  rw [hlast]
  exact getLast?_dropEnd '0' p.fraction

end Positional

/-! ### Binary numbers -/

/-- A decimal is written as one or more digits, with a fraction or without. -/
lemma Decimal.exists_positional (d : Decimal) (negative : Bool) :
    ∃ p : Positional, p.negative = negative ∧ p.chars = signChars negative ++ d.chars := by
  have hds := denotes_toDigits d.digits
  rw [Decimal.chars]
  generalize Nat.toDigits 10 d.digits = ds at hds
  split
  · have hdigits : ∀ c ∈ ds ++ List.replicate d.exponent.toNat '0', c.isDigit = true := by
      intro c hc
      rcases List.mem_append.mp hc with hc | hc
      · exact hds.digits c hc
      · rw [List.eq_of_mem_replicate hc]
        rfl
    refine ⟨⟨negative, ds ++ List.replicate d.exponent.toNat '0', [],
      List.append_ne_nil_of_left_ne_nil hds.ne_nil _, by simpa using hdigits⟩, rfl, ?_⟩
    exact congrArg (signChars negative ++ ·) (List.append_nil _)
  · next hexponent =>
    dsimp only
    generalize hplaces : (-d.exponent).toNat = places
    have hpadded := hds.zeros_append (places + 1 - ds.length)
    have hlength : places < (List.replicate (places + 1 - ds.length) '0' ++ ds).length := by
      rw [List.length_append, List.length_replicate]
      omega
    generalize List.replicate (places + 1 - ds.length) '0' ++ ds = padded at hpadded hlength
    have hwhole : padded.take (padded.length - places) ≠ [] := by
      rw [← List.length_pos_iff, List.length_take]
      omega
    have hfraction : padded.drop (padded.length - places) ≠ [] := by
      rw [← List.length_pos_iff, List.length_drop]
      omega
    refine ⟨⟨negative, padded.take (padded.length - places), padded.drop (padded.length - places),
      hwhole, ?_⟩, rfl, ?_⟩
    · rw [List.take_append_drop]
      exact hpadded.digits
    · rw [Positional.chars, pointed, if_neg hfraction]

/-- The text of a finite number is positional notation, with its sign, that is trimmed. -/
lemma Binary64.exists_positional (negative : Bool) (mantissa : ℕ) (exponent : ℤ)
    (halvedBelow : Bool) :
    let x := finite negative mantissa exponent halvedBelow
    ∃ p : Positional, p.negative = negative ∧ p.chars = x.chars ∧
      x.text.toList = trimFraction p.chars := by
  obtain ⟨p, hnegative, hchars⟩ :=
    (shortest mantissa exponent halvedBelow).exists_positional negative
  refine ⟨p, hnegative, hchars, ?_⟩
  rw [text, String.toList_ofList, hchars]
  rfl

/-- **Trimmed notation.**  A text in positional notation is the notation of one number only.  Trimming
leaves notation of the same number with the same sign, which ends neither in a point nor, if it has a
point, in zero.  Where there is no point nothing is trimmed, and nothing is left to be trimmed again.
The text of a finite number is such notation, trimmed. -/
theorem trimFraction_faithful :
    (∀ p : Positional, (∀ p' : Positional, p'.chars = p.chars → p' = p) ∧
      ∃ q : Positional, trimFraction p.chars = q.chars ∧
        q.value = p.value ∧ q.negative = p.negative ∧
        q.chars.getLast? ≠ some '.' ∧ ('.' ∈ q.chars → q.chars.getLast? ≠ some '0') ∧
        ('.' ∉ p.chars → q.chars = p.chars) ∧
        trimFraction q.chars = q.chars) ∧
    ∀ (negative : Bool) (mantissa : ℕ) (exponent : ℤ) (halvedBelow : Bool),
      let x := Binary64.finite negative mantissa exponent halvedBelow
      ∃ p : Positional, p.negative = negative ∧ p.chars = x.chars ∧
        x.text.toList = trimFraction p.chars := by
  refine ⟨fun p => ⟨fun p' h => Positional.chars_injective h, p.trimmed, p.trimFraction_chars,
    p.value_trimmed, rfl, fun hpoint => ?_, Positional.getLast?_trimmed, fun hwhole => ?_, ?_⟩,
    Binary64.exists_positional⟩
  · exact absurd (Positional.isDigit_of_getLast? hpoint) (by decide)
  · rw [← p.trimFraction_chars, trimFraction, if_neg (by simpa using hwhole)]
  · rw [p.trimmed.trimFraction_chars, p.trimmed_trimmed]

-- zeros in front of the point stay, and so does the sign of a zero
example : trimFraction "-10.00".toList = "-10".toList ∧ trimFraction "-0.0".toList = "-0".toList := by
  decide

end Census.Number
