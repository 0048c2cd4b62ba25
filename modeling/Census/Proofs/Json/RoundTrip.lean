/-
What is written as JSON is read back.

* `Json.scanNumber?_append`: a number that is read to its end is read the same wherever it ends;
* `Json.scanString?_escape`: an escaped text is read up to the closing mark;
* `Json.Formed`: a value whose numbers are spelled as numbers are;
* `Json.tokensOf`: the tokens that a value is made of;
* `Json.Reads`: characters are read as tokens, whatever stands behind them;
* `Json.Formed.reads_pretty`: the characters of a value are read as its tokens;
* `Json.Rebuilds.of_fuel`: the tokens of a value make up the value;
* `Json.parse?_pretty`: a written value is read back.
-/
import Mathlib.Tactic
import Census.Json.Parser
import Census.Json.Printer

namespace Census.Json

variable {c : Char} {cs ds rest tail : List Char} {t : Token} {ts : List Token}

/-! ### Numbers -/

/-- The character can stand in a number behind a digit. -/
def continuesNumber (c : Char) : Bool :=
  c.isDigit || c == '.' || c == 'e' || c == 'E'

/-- No number goes on with the characters. -/
def EndsNumber (cs : List Char) : Prop :=
  ∀ c ∈ cs.head?, continuesNumber c = false

lemma endsNumber_nil : EndsNumber [] := by
  simp [EndsNumber]

lemma endsNumber_cons (hc : continuesNumber c = false) (cs : List Char) : EndsNumber (c :: cs) := by
  simpa [EndsNumber] using hc

lemma continuesNumber_eq_false_iff :
    continuesNumber c = false ↔ c.isDigit = false ∧ c ≠ '.' ∧ c ≠ 'e' ∧ c ≠ 'E' := by
  simp [continuesNumber, and_assoc]

/-- A run of digits is read to its end, and there has to be a digit. -/
lemma scanDigits?_eq_some_iff :
    scanDigits? cs = some (ds, tail) ↔
      ds ≠ [] ∧ cs = ds ++ tail ∧ (∀ d ∈ ds, d.isDigit = true) ∧
        ∀ c ∈ tail.head?, c.isDigit = false := by
  have hscan : scanDigits? cs = some (ds, tail) ↔
      ds ≠ [] ∧ cs.takeWhile Char.isDigit = ds ∧ cs.dropWhile Char.isDigit = tail := by
    rw [scanDigits?, List.span_eq_takeWhile_dropWhile]
    cases htake : cs.takeWhile Char.isDigit with
    | nil => simp +contextual [eq_comm]
    | cons d more =>
        simp only [Option.some.injEq, Prod.mk.injEq, iff_and_self, and_imp]
        rintro rfl -
        exact List.cons_ne_nil _ _
  rw [hscan]
  refine and_congr_right fun _ => ⟨?_, ?_⟩
  · rintro ⟨rfl, rfl⟩
    refine ⟨List.takeWhile_append_dropWhile.symm,
      fun d hd => List.all_eq_true.mp List.all_takeWhile d hd, ?_⟩
    intro c hc
    have hnot := List.head?_dropWhile_not Char.isDigit cs
    rw [Option.mem_def.mp hc] at hnot
    simpa using hnot
  · rintro ⟨rfl, hds, htail⟩
    rw [List.takeWhile_append_of_pos hds, List.dropWhile_append_of_pos hds]
    cases tail with
    | nil => simp
    | cons c tail => simp [htail c rfl]

/-- A run of digits that ends where the characters do, or before, ends there in front of anything
that ends a number. -/
lemma scanDigits?_append (h : scanDigits? cs = some (ds, tail)) (hrest : EndsNumber rest) :
    scanDigits? (cs ++ rest) = some (ds, tail ++ rest) := by
  obtain ⟨hne, rfl, hds, htail⟩ := scanDigits?_eq_some_iff.mp h
  refine scanDigits?_eq_some_iff.mpr ⟨hne, List.append_assoc .., hds, ?_⟩
  cases tail with
  | nil => exact fun c hc => (continuesNumber_eq_false_iff.mp (hrest c hc)).1
  | cons c tail => exact htail

lemma scanWhole?_append (h : scanWhole? cs = some (ds, tail)) (hrest : EndsNumber rest) :
    scanWhole? (cs ++ rest) = some (ds, tail ++ rest) := by
  cases cs with
  | nil => simp [scanWhole?, scanDigits?] at h
  | cons c cs =>
      by_cases hzero : c = '0'
      · subst hzero
        simp_all [scanWhole?]
      · rw [scanWhole?.eq_2 _ (by simp [hzero])] at h
        rw [scanWhole?.eq_2 _ (by simp [hzero])]
        exact scanDigits?_append h hrest

lemma scanFraction?_append (h : scanFraction? cs = some (ds, tail)) (hrest : EndsNumber rest) :
    scanFraction? (cs ++ rest) = some (ds, tail ++ rest) := by
  cases cs with
  | nil =>
      obtain ⟨rfl, rfl⟩ : [] = ds ∧ [] = tail := by simpa [scanFraction?] using h
      refine scanFraction?.eq_2 _ fun more hmore => ?_
      have hpoint := hrest '.' (by rw [← List.nil_append rest, hmore]; rfl)
      exact absurd hpoint (by decide)
  | cons c cs =>
      by_cases hpoint : c = '.'
      · subst hpoint
        simp only [scanFraction?, Option.bind_eq_bind, Option.bind_eq_some_iff, Prod.exists] at h
        obtain ⟨digits, more, hdigits, hsome⟩ := h
        obtain ⟨rfl, rfl⟩ : '.' :: digits = ds ∧ more = tail := by simpa using hsome
        rw [List.cons_append, scanFraction?, scanDigits?_append hdigits hrest]
        rfl
      · rw [scanFraction?.eq_2 _ (by simp [hpoint])] at h
        obtain ⟨rfl, rfl⟩ : [] = ds ∧ c :: cs = tail := by simpa using h
        exact scanFraction?.eq_2 _ (by simp [hpoint])

lemma scanSign_append (hne : cs ≠ []) (rest : List Char) :
    scanSign (cs ++ rest) = ((scanSign cs).1, (scanSign cs).2 ++ rest) := by
  cases cs with
  | nil => exact absurd rfl hne
  | cons c cs =>
      by_cases hplus : c = '+'
      · simp [scanSign, hplus]
      · by_cases hminus : c = '-'
        · simp [scanSign, hminus]
        · simp [scanSign, hplus, hminus]

lemma scanExponent?_append (h : scanExponent? cs = some (ds, tail)) (hrest : EndsNumber rest) :
    scanExponent? (cs ++ rest) = some (ds, tail ++ rest) := by
  cases cs with
  | nil =>
      obtain ⟨rfl, rfl⟩ : [] = ds ∧ [] = tail := by simpa [scanExponent?] using h
      cases rest with
      | nil => rfl
      | cons c rest =>
          obtain ⟨-, -, he, hE⟩ := continuesNumber_eq_false_iff.mp (hrest c rfl)
          simp [scanExponent?, he, hE]
  | cons c cs =>
      by_cases hmark : c = 'e' ∨ c = 'E'
      · simp only [scanExponent?, if_pos hmark, Option.bind_eq_bind, Option.bind_eq_some_iff,
          Prod.exists] at h
        obtain ⟨digits, more, hdigits, hsome⟩ := h
        obtain ⟨rfl, rfl⟩ : c :: (scanSign cs).1 ++ digits = ds ∧ more = tail := by
          simpa using hsome
        have hne : cs ≠ [] := by
          rintro rfl
          simp [scanSign, scanDigits?] at hdigits
        simp only [List.cons_append, scanExponent?, if_pos hmark, scanSign_append hne,
          scanDigits?_append hdigits hrest]
        rfl
      · rw [scanExponent?, if_neg hmark] at h
        obtain ⟨rfl, rfl⟩ : [] = ds ∧ c :: cs = tail := by simpa using h
        rw [List.cons_append, scanExponent?, if_neg hmark]

lemma scanUnsigned?_append (h : scanUnsigned? cs = some (ds, tail)) (hrest : EndsNumber rest) :
    scanUnsigned? (cs ++ rest) = some (ds, tail ++ rest) := by
  simp only [scanUnsigned?, Option.bind_eq_bind, Option.bind_eq_some_iff, Prod.exists] at h
  obtain ⟨whole, rest₁, hwhole, fraction, rest₂, hfraction, exponent, rest₃, hexponent, hsome⟩ := h
  obtain ⟨rfl, rfl⟩ : whole ++ fraction ++ exponent = ds ∧ rest₃ = tail := by simpa using hsome
  simp only [scanUnsigned?, scanWhole?_append hwhole hrest, scanFraction?_append hfraction hrest,
    scanExponent?_append hexponent hrest, Option.bind_eq_bind, Option.bind_some]
  rfl

/-- A number that is read to its end is read the same in front of anything that ends a number. -/
lemma scanNumber?_append (h : scanNumber? cs = some (ds, tail)) (hrest : EndsNumber rest) :
    scanNumber? (cs ++ rest) = some (ds, tail ++ rest) := by
  cases cs with
  | nil => simp [scanNumber?, scanUnsigned?, scanWhole?, scanDigits?] at h
  | cons c cs =>
      by_cases hminus : c = '-'
      · subst hminus
        simp only [scanNumber?, Option.bind_eq_bind, Option.bind_eq_some_iff, Prod.exists] at h
        obtain ⟨digits, more, hdigits, hsome⟩ := h
        obtain ⟨rfl, rfl⟩ : '-' :: digits = ds ∧ more = tail := by simpa using hsome
        rw [List.cons_append, scanNumber?, scanUnsigned?_append hdigits hrest]
        rfl
      · rw [scanNumber?.eq_2 _ (by simp [hminus])] at h
        rw [scanNumber?.eq_2 _ (by simp [hminus])]
        exact scanUnsigned?_append h hrest

/-- A number starts with a sign or with a digit. -/
lemma front_of_scanNumber? (h : scanNumber? (c :: cs) = some (ds, tail)) :
    c = '-' ∨ c.isDigit = true := by
  by_contra hnot
  obtain ⟨hminus, hdigit⟩ := not_or.mp hnot
  have hzero : c ≠ '0' := by
    rintro rfl
    exact hdigit (by decide)
  have hnone : scanDigits? (c :: cs) = none := by
    simp [scanDigits?, List.span_eq_takeWhile_dropWhile, hdigit]
  rw [scanNumber?.eq_2 _ (by simp [hminus]), scanUnsigned?, scanWhole?.eq_2 _ (by simp [hzero]),
    hnone] at h
  exact absurd h (by simp)

/-- The digits of a number that is not zero start with another digit than zero. -/
lemma head?_toDigits_ne (n : ℕ) (hn : n ≠ 0) : (Nat.toDigits 10 n).head? ≠ some '0' := by
  induction n using Nat.strong_induction_on with
  | _ n ih =>
    rcases Nat.lt_or_ge n 10 with hlt | hge
    · rw [Nat.toDigits_of_lt_base hlt]
      interval_cases n <;> simp_all [Nat.digitChar]
    · have hhead := ih (n / 10) (by omega) (by omega)
      rw [Nat.toDigits_of_base_le (by decide) hge]
      rwa [List.head?_append_of_ne_nil _ Nat.toDigits_ne_nil]

/-- A whole number in decimal digits is spelled as numbers are. -/
lemma scanNumber?_toString (n : ℕ) :
    scanNumber? (toString n).toList = some ((toString n).toList, []) := by
  have hdigits : ∀ d ∈ Nat.toDigits 10 n, d.isDigit = true := fun d hd =>
    Nat.isDigit_of_mem_toDigits (by decide) (by decide) hd
  have hscan : scanDigits? (Nat.toDigits 10 n) = some (Nat.toDigits 10 n, []) :=
    scanDigits?_eq_some_iff.mpr ⟨Nat.toDigits_ne_nil, (List.append_nil _).symm, hdigits, by simp⟩
  have hminus : ∀ more, Nat.toDigits 10 n ≠ '-' :: more := by
    intro more hmore
    exact absurd (hdigits '-' (hmore ▸ List.mem_cons_self)) (by decide)
  have hwhole : scanWhole? (Nat.toDigits 10 n) = some (Nat.toDigits 10 n, []) := by
    rcases eq_or_ne n 0 with rfl | hn
    · rfl
    · rw [scanWhole?.eq_2 _ fun more hmore => head?_toDigits_ne n hn (by rw [hmore]; rfl), hscan]
  rw [show (toString n).toList = Nat.toDigits 10 n from Nat.toList_repr,
    scanNumber?.eq_2 _ hminus, scanUnsigned?, hwhole]
  simp [scanFraction?, scanExponent?]

/-! ### String literals -/

/-- A control is escaped by its number in four hexadecimal digits. -/
lemma hexValue4?_digitChar : ∀ n < 0x20,
    hexValue4? '0' '0' (Nat.digitChar (n / 16)) (Nat.digitChar (n % 16)) = some n := by
  decide

/-- An escaped character is read as this character. -/
lemma scanString?_escape_append (c : Char) (rest : List Char) :
    scanString? (escape c ++ rest) =
      (scanString? rest).map fun (items, rest) => (.char c :: items, rest) := by
  rw [escape.eq_def]
  split
  -- a character without an escape of one letter is a control or stands for itself
  case h_8 hquote hback _ _ _ _ _ =>
    split
    · next hcontrol =>
      have hitem : itemOfUnit c.toNat = .char c := by
        rw [itemOfUnit, if_neg (by omega), if_neg (by omega), Char.ofNat_toNat]
      simp only [List.cons_append, List.nil_append, scanString?.eq_3,
        hexValue4?_digitChar _ hcontrol, Option.bind_eq_bind, Option.bind_some, hitem]
      cases scanString? rest <;> rfl
    · next hcontrol =>
      have hplain : ¬(c.toNat < 0x20 ∨ c = '\\') := not_or.mpr ⟨hcontrol, hback⟩
      rw [List.singleton_append, scanString?.eq_5 _ _ hquote (fun _ _ _ _ _ h => (hback h).elim)
        (fun _ _ h => (hback h).elim), if_neg hplain]
      cases scanString? rest <;> rfl
  all_goals
    rw [List.cons_append, List.singleton_append, scanString?.eq_4 _ _ (by simp)]
    cases scanString? rest <;> rfl

/-- An escaped text is read up to the closing mark. -/
lemma scanString?_escape (cs rest : List Char) :
    scanString? (cs.flatMap escape ++ '"' :: rest) = some (cs.map .char, rest) := by
  induction cs with
  | nil => exact scanString?.eq_2 rest
  | cons c cs ih =>
      rw [List.flatMap_cons, List.append_assoc, scanString?_escape_append, ih]
      rfl

/-- A literal without halves of surrogate pairs denotes its characters. -/
lemma textOf?_chars (s : String) : textOf? (s.toList.map .char) = some s := by
  have hchars : ∀ cs : List Char, charsOf? (cs.map .char) = some cs := by
    intro cs
    induction cs with
    | nil => rfl
    | cons c cs ih => simp [charsOf?, ih]
  simp [textOf?, hchars]

/-- A written literal is read as what it denotes. -/
lemma scanToken?_literal (s : Option String) (rest : List Char) :
    scanToken? (literal s ++ rest) = some (.string s, rest) := by
  cases s with
  | none =>
      have hunit : hexValue4? 'd' '8' '0' '0' = some 0xD800 := rfl
      have hitem : itemOfUnit 0xD800 = .high 0xD800 := rfl
      simp [literal, scanToken?, scanString?, hunit, hitem, textOf?, charsOf?]
  | some s =>
      have hscan := scanString?_escape s.toList rest
      simp [literal, quoted, scanToken?, hscan, textOf?_chars]

/-- A control that is escaped by its number, and an escaped quotation mark. -/
example : scanToken? "\"\\u001f\\\"\"".toList = some (.string (some "\x1f\""), []) := by
  decide

/-! ### Tokens -/

/-- The numbers of the value are spelled as numbers are. -/
inductive Formed : Json → Prop
  | null : Formed null
  | bool (b : Bool) : Formed (bool b)
  | number {spelling : String}
      (h : scanNumber? spelling.toList = some (spelling.toList, [])) : Formed (number spelling)
  | string (s : Option String) : Formed (string s)
  | array {items : List Json} (h : ∀ item ∈ items, Formed item) : Formed (array items)
  | object {members : List (Option String × Json)} (h : ∀ m ∈ members, Formed m.2) :
      Formed (object members)

lemma formed_text (s : String) : (text s).Formed :=
  .string _

lemma formed_nat (n : ℕ) : (nat n).Formed :=
  .number (scanNumber?_toString n)

lemma formed_textOrNull (s : Option String) : (textOrNull s).Formed := by
  cases s with
  | none => exact .null
  | some s => exact formed_text s

lemma formed_ofMembers {members : List (String × Json)} (h : ∀ m ∈ members, m.2.Formed) :
    (ofMembers members).Formed := by
  refine .object fun m hm => ?_
  obtain ⟨m, hmem, rfl⟩ := List.mem_map.mp hm
  exact h m hmem

mutual

/-- The tokens that a value is made of. -/
def tokensOf : Json → List Token
  | null => [.null]
  | bool b => [.bool b]
  | number spelling => [.number spelling]
  | string s => [.string s]
  | array items => .openBracket :: ([.comma].intercalate (itemTokens items) ++ [.closeBracket])
  | object members => .openBrace :: ([.comma].intercalate (memberTokens members) ++ [.closeBrace])

/-- The tokens of the items of an array. -/
def itemTokens : List Json → List (List Token)
  | [] => []
  | item :: items => tokensOf item :: itemTokens items

/-- The tokens of the members of an object. -/
def memberTokens : List (Option String × Json) → List (List Token)
  | [] => []
  | (name, value) :: members =>
    (.string name :: .colon :: tokensOf value) :: memberTokens members

end

/-- More fuel than is needed does no harm. -/
lemma tokensFrom?_mono {n m : ℕ} (hnm : n ≤ m) (h : tokensFrom? n cs = some ts) :
    tokensFrom? m cs = some ts := by
  induction n generalizing m cs ts with
  | zero =>
      cases cs with
      | nil => cases m <;> simpa [tokensFrom?] using h
      | cons c cs => simp [tokensFrom?] at h
  | succ n ih =>
      obtain ⟨m, rfl⟩ : ∃ k, m = k + 1 := ⟨m - 1, by omega⟩
      have hle : n ≤ m := by omega
      cases cs with
      | nil => simpa [tokensFrom?] using h
      | cons c cs =>
          rw [tokensFrom?] at h ⊢
          split at h
          · next hspace => rw [if_pos hspace, ih hle h]
          · next hspace =>
            rw [if_neg hspace]
            simp only [Option.bind_eq_bind, Option.bind_eq_some_iff, Prod.exists] at h ⊢
            obtain ⟨t, rest, hscan, more, hmore, hts⟩ := h
            exact ⟨t, rest, hscan, more, ih hle hmore, hts⟩

/-- Blanks in front are passed over. -/
lemma tokens?_cons_of_isSpace (hc : isSpace c = true) : tokens? (c :: cs) = tokens? cs := by
  rw [tokens?, List.length_cons, tokensFrom?, if_pos hc, ← tokens?]

/-- The token in front is the first of the tokens. -/
lemma tokens?_of_scanToken? (cs : List Char) (hc : isSpace c = false)
    (hscan : scanToken? (c :: (cs ++ rest)) = some (t, rest)) (h : tokens? rest = some ts) :
    tokens? (c :: (cs ++ rest)) = some (t :: ts) := by
  have hmore : tokensFrom? (cs ++ rest).length rest = some ts :=
    tokensFrom?_mono (by simp) h
  rw [tokens?, List.length_cons, tokensFrom?, if_neg (by simp [hc]), hscan]
  simp only [Option.bind_eq_bind, Option.bind_some, hmore, Option.pure_def]

/-- The characters are read as the tokens, and reading goes on behind them with whatever no number
goes on with. -/
def Reads (cs : List Char) (ts : List Token) : Prop :=
  ∀ ⦃rest : List Char⦄ ⦃more : List Token⦄, EndsNumber rest → tokens? rest = some more →
    tokens? (cs ++ rest) = some (ts ++ more)

namespace Reads

lemma nil : Reads [] [] :=
  fun _ _ _ h => h

lemma token (hc : isSpace c = false)
    (h : ∀ rest, EndsNumber rest → scanToken? (c :: (cs ++ rest)) = some (t, rest)) :
    Reads (c :: cs) [t] :=
  fun rest _ hends hrest => tokens?_of_scanToken? cs hc (h rest hends) hrest

/-- A mark of one character is a token of its own. -/
lemma mark (hc : isSpace c = false) (ht : ∀ rest, scanToken? (c :: rest) = some (t, rest))
    (h : Reads cs ts) : Reads (c :: cs) (t :: ts) :=
  fun _ _ hends hrest => tokens?_of_scanToken? [] hc (ht _) (h hends hrest)

lemma blank (hc : isSpace c = true) (h : Reads cs ts) : Reads (c :: cs) ts := by
  intro rest more hends hrest
  rw [List.cons_append, tokens?_cons_of_isSpace hc]
  exact h hends hrest

lemma blanks (hds : ∀ d ∈ ds, isSpace d = true) (h : Reads cs ts) : Reads (ds ++ cs) ts := by
  induction ds with
  | nil => exact h
  | cons d ds ih =>
      obtain ⟨hd, hds⟩ := List.forall_mem_cons.mp hds
      exact (ih hds).blank hd

/-- What is read goes on where no number does. -/
lemma append_cons {ts' : List Token} (h : Reads ds ts) (hc : continuesNumber c = false)
    (h' : Reads (c :: cs) ts') : Reads (ds ++ c :: cs) (ts ++ ts') := by
  intro rest more hends hrest
  rw [List.append_assoc, List.append_assoc]
  exact h (endsNumber_cons hc _) (h' hends hrest)

lemma literal (s : Option String) : Reads (literal s) [.string s] := by
  have hscan := scanToken?_literal s
  cases s with
  | none => exact token rfl fun rest _ => hscan rest
  | some s => exact token rfl fun rest _ => hscan rest

lemma number {spelling : String}
    (h : scanNumber? spelling.toList = some (spelling.toList, [])) :
    Reads spelling.toList [.number spelling] := by
  cases hcs : spelling.toList with
  | nil => simp [hcs, scanNumber?, scanUnsigned?, scanWhole?, scanDigits?] at h
  | cons c cs =>
      rw [hcs] at h
      have hfront : ∀ d, d ≠ '-' → d.isDigit = false → c ≠ d := by
        rintro d hminus hdigit rfl
        rcases front_of_scanNumber? h with hc | hc
        · exact hminus hc
        · simp [hdigit] at hc
      have hspace : isSpace c = false := by
        simp [isSpace, hfront]
      refine token hspace fun rest hends => ?_
      have hscan := scanNumber?_append h hends
      rw [List.cons_append, List.nil_append] at hscan
      -- no other token starts with a sign or a digit
      rw [scanToken?.eq_11 (c :: (cs ++ rest)), hscan, ← String.ofList_toList (s := spelling), hcs]
      · rfl
      all_goals simp [hfront]

/-- Parts with commas between them, and blanks behind the commas. -/
lemma joined {parts : List (List Char)} {tokens : List (List Token)}
    (hds : ∀ d ∈ ds, isSpace d = true) (h : List.Forall₂ Reads parts tokens) :
    Reads (joined (',' :: ds) parts) ([.comma].intercalate tokens) := by
  induction h with
  | nil => exact nil
  | @cons part first parts tokens hpart hparts ih =>
      cases hparts with
      | nil => simpa [Json.joined] using hpart
      | cons hnext hmore =>
          have hbehind : Reads (',' :: (ds ++ _)) (.comma :: _) :=
            (blanks hds ih).mark rfl fun _ => rfl
          have hall := hpart.append_cons rfl hbehind
          simpa [Json.joined, List.intercalate_cons_cons] using hall

end Reads

lemma isSpace_of_mem_newLine (depth : ℕ) : ∀ d ∈ newLine depth, isSpace d = true := by
  intro d hd
  rcases List.mem_cons.mp hd with rfl | hd
  · rfl
  · rw [List.eq_of_mem_replicate hd]
    rfl

/-- Parts between brackets. -/
lemma Reads.block {opening closing : Char} {first last : Token} {parts : List (List Char)}
    {tokens : List (List Token)} (depth : ℕ) (hopening : isSpace opening = false)
    (hfirst : ∀ rest, scanToken? (opening :: rest) = some (first, rest))
    (hclosing : isSpace closing = false)
    (hlast : ∀ rest, scanToken? (closing :: rest) = some (last, rest))
    (h : List.Forall₂ Reads parts tokens) :
    Reads (block depth opening closing parts)
      (first :: ([.comma].intercalate tokens ++ [last])) := by
  have hend : Reads [closing] [last] := Reads.nil.mark hclosing hlast
  cases h with
  | nil => simpa [Json.block] using hend.mark hopening hfirst
  | cons hpart hparts =>
      have hjoined := Reads.joined (isSpace_of_mem_newLine (depth + 1)) (.cons hpart hparts)
      have hbehind := hjoined.append_cons rfl (hend.blanks (isSpace_of_mem_newLine depth))
      have hall := (hbehind.blanks (isSpace_of_mem_newLine (depth + 1))).mark hopening hfirst
      simpa only [Json.block, if_neg (List.cons_ne_nil _ _), newLine, List.cons_append,
        List.append_eq, List.append_assoc] using hall

lemma forall₂_prettyItems {depth : ℕ} {items : List Json}
    (h : ∀ item ∈ items, Reads (item.prettyChars depth) item.tokensOf) :
    List.Forall₂ Reads (prettyItems depth items) (itemTokens items) := by
  induction items with
  | nil => exact .nil
  | cons item items ih =>
      obtain ⟨hitem, hitems⟩ := List.forall_mem_cons.mp h
      exact .cons hitem (ih hitems)

lemma forall₂_prettyMembers {depth : ℕ} {members : List (Option String × Json)}
    (h : ∀ m ∈ members, Reads (m.2.prettyChars depth) m.2.tokensOf) :
    List.Forall₂ Reads (prettyMembers depth members) (memberTokens members) := by
  induction members with
  | nil => exact .nil
  | cons m members ih =>
      obtain ⟨hvalue, hmembers⟩ := List.forall_mem_cons.mp h
      have hbehind : Reads (':' :: ' ' :: m.2.prettyChars depth) (.colon :: m.2.tokensOf) :=
        (hvalue.blank rfl).mark rfl fun _ => rfl
      exact .cons ((Reads.literal m.1).append_cons rfl hbehind) (ih hmembers)

/-- The characters of a value are read as its tokens. -/
lemma Formed.reads_pretty {j : Json} (h : j.Formed) (depth : ℕ) :
    Reads (j.prettyChars depth) j.tokensOf := by
  induction h generalizing depth with
  | null => exact .token rfl fun _ _ => rfl
  | bool b => cases b <;> exact .token rfl fun _ _ => rfl
  | number h => exact .number h
  | string s => exact .literal s
  | array h ih =>
      exact .block depth rfl (fun _ => rfl) rfl (fun _ => rfl)
        (forall₂_prettyItems fun item hitem => ih item hitem (depth + 1))
  | object h ih =>
      exact .block depth rfl (fun _ => rfl) rfl (fun _ => rfl)
        (forall₂_prettyMembers fun m hm => ih m hm (depth + 1))

/-! ### Values -/

/-- Parts with commas between them start with the first part. -/
lemma exists_intercalate_eq_append (first : List Token) (tokens : List (List Token)) :
    ∃ more, [Token.comma].intercalate (first :: tokens) = first ++ more := by
  cases tokens with
  | nil => exact ⟨[], by simp⟩
  | cons next tokens => exact ⟨_, by rw [List.intercalate_cons_cons, List.append_assoc]⟩

/-- No value starts with a closing bracket. -/
lemma tokensOf_append_ne_closeBracket (j : Json) (more rest : List Token) :
    tokensOf j ++ more ≠ .closeBracket :: rest := by
  cases j <;> simp [tokensOf]

/-- With fuel for as many tokens, the tokens of a value are read as the value, those of the items
of an array as the items, and those of the members of an object as the members.  What stands behind
them is left. -/
structure Rebuilds (fuel : ℕ) : Prop where
  value : ∀ (j : Json) (rest : List Token), (tokensOf j).length ≤ fuel →
    value? fuel (tokensOf j ++ rest) = some (j, rest)
  items : ∀ (item : Json) (items : List Json) (rest : List Token),
    ([Token.comma].intercalate (itemTokens (item :: items))).length < fuel →
      items? fuel ([Token.comma].intercalate (itemTokens (item :: items)) ++
        .closeBracket :: rest) = some (item :: items, rest)
  members : ∀ (m : Option String × Json) (members : List (Option String × Json))
    (rest : List Token), ([Token.comma].intercalate (memberTokens (m :: members))).length < fuel →
      members? fuel ([Token.comma].intercalate (memberTokens (m :: members)) ++
        .closeBrace :: rest) = some (m :: members, rest)

namespace Rebuilds

variable {fuel : ℕ}

lemma zero : Rebuilds 0 where
  value := by
    intro j rest hlen
    cases j <;> simp [tokensOf] at hlen
  items := fun _ _ _ hlen => absurd hlen (Nat.not_lt_zero _)
  members := fun _ _ _ hlen => absurd hlen (Nat.not_lt_zero _)

lemma value_succ (h : Rebuilds fuel) (j : Json) (rest : List Token)
    (hlen : (tokensOf j).length ≤ fuel + 1) :
    value? (fuel + 1) (tokensOf j ++ rest) = some (j, rest) := by
  match j with
  | null => rfl
  | bool b => rfl
  | number spelling => rfl
  | string s => rfl
  | array [] => rfl
  | object [] => rfl
  | array (item :: items) =>
      have hitems := h.items item items rest (by simp [tokensOf] at hlen; omega)
      have hopen : tokensOf (array (item :: items)) ++ rest =
          .openBracket :: ([Token.comma].intercalate (itemTokens (item :: items)) ++
            .closeBracket :: rest) := by
        simp [tokensOf]
      obtain ⟨more, hmore⟩ := exists_intercalate_eq_append (tokensOf item) (itemTokens items)
      have hfront : ∀ tail, [Token.comma].intercalate (itemTokens (item :: items)) ++
          .closeBracket :: rest ≠ .closeBracket :: tail := by
        intro tail
        rw [itemTokens, hmore, List.append_assoc]
        exact tokensOf_append_ne_closeBracket item _ _
      rw [hopen, value?.eq_7 _ _ hfront, hitems]
      rfl
  | object (m :: members) =>
      have hmembers := h.members m members rest (by simp [tokensOf] at hlen; omega)
      have hopen : tokensOf (object (m :: members)) ++ rest =
          .openBrace :: ([Token.comma].intercalate (memberTokens (m :: members)) ++
            .closeBrace :: rest) := by
        simp [tokensOf]
      obtain ⟨more, hmore⟩ := exists_intercalate_eq_append
        (.string m.1 :: .colon :: tokensOf m.2) (memberTokens members)
      have hfront : ∀ tail, [Token.comma].intercalate (memberTokens (m :: members)) ++
          .closeBrace :: rest ≠ .closeBrace :: tail := by
        intro tail
        rw [memberTokens, hmore]
        simp
      rw [hopen, value?.eq_9 _ _ hfront, hmembers]
      rfl

lemma items_succ (h : Rebuilds fuel) (item : Json) (items : List Json) (rest : List Token)
    (hlen : ([Token.comma].intercalate (itemTokens (item :: items))).length < fuel + 1) :
    items? (fuel + 1) ([Token.comma].intercalate (itemTokens (item :: items)) ++
      .closeBracket :: rest) = some (item :: items, rest) := by
  cases items with
  | nil =>
      simp only [itemTokens, List.intercalate_singleton] at hlen ⊢
      rw [items?, h.value item _ (by omega)]
  | cons next items =>
      have hsplit : [Token.comma].intercalate (itemTokens (item :: next :: items)) =
          tokensOf item ++ .comma :: [Token.comma].intercalate (itemTokens (next :: items)) := by
        simp [itemTokens, List.intercalate_cons_cons]
      rw [hsplit, List.length_append, List.length_cons] at hlen
      have hvalue := h.value item (.comma :: ([Token.comma].intercalate (itemTokens (next :: items))
        ++ .closeBracket :: rest)) (by omega)
      have hitems := h.items next items rest (by omega)
      rw [hsplit, List.append_assoc, List.cons_append, items?, hvalue]
      simp only [hitems, Option.map_some]

lemma members_succ (h : Rebuilds fuel) (m : Option String × Json)
    (members : List (Option String × Json)) (rest : List Token)
    (hlen : ([Token.comma].intercalate (memberTokens (m :: members))).length < fuel + 1) :
    members? (fuel + 1) ([Token.comma].intercalate (memberTokens (m :: members)) ++
      .closeBrace :: rest) = some (m :: members, rest) := by
  obtain ⟨name, value⟩ := m
  cases members with
  | nil =>
      simp only [memberTokens, List.intercalate_singleton, List.length_cons] at hlen ⊢
      rw [List.cons_append, List.cons_append, members?, h.value value _ (by omega)]
  | cons next members =>
      have hsplit : [Token.comma].intercalate (memberTokens ((name, value) :: next :: members)) =
          .string name :: .colon :: (tokensOf value ++
            .comma :: [Token.comma].intercalate (memberTokens (next :: members))) := by
        simp [memberTokens, List.intercalate_cons_cons]
      rw [hsplit, List.length_cons, List.length_cons, List.length_append, List.length_cons] at hlen
      have hvalue := h.value value (.comma :: ([Token.comma].intercalate
        (memberTokens (next :: members)) ++ .closeBrace :: rest)) (by omega)
      have hmembers := h.members next members rest (by omega)
      rw [hsplit, List.cons_append, List.cons_append, List.append_assoc, List.cons_append,
        members?, hvalue]
      simp only [hmembers, Option.map_some]

/-- Every reader passes a token before it calls another, so fuel for the tokens is enough. -/
lemma of_fuel (fuel : ℕ) : Rebuilds fuel := by
  induction fuel with
  | zero => exact zero
  | succ fuel ih => exact ⟨ih.value_succ, ih.items_succ, ih.members_succ⟩

end Rebuilds

/-! ### Documents -/

/-- Characters that are read as the tokens of a value are a document of this value, also with
blanks behind them. -/
lemma parseChars?_of_reads {j : Json} (h : Reads cs j.tokensOf)
    (hds : ∀ d ∈ ds, isSpace d = true) : parseChars? (cs ++ ds) = some j := by
  have hends : EndsNumber ds := by
    intro d hd
    have hspace := hds d (List.mem_of_mem_head? hd)
    simp only [isSpace, Bool.or_eq_true, beq_iff_eq] at hspace
    rcases hspace with ((rfl | rfl) | rfl) | rfl <;> rfl
  have hblanks : tokens? ds = some [] := by
    have hnone := Reads.nil.blanks hds endsNumber_nil (rfl : tokens? [] = some [])
    simpa using hnone
  have hvalue := (Rebuilds.of_fuel (2 * j.tokensOf.length + 1)).value j [] (by omega)
  rw [List.append_nil] at hvalue
  rw [parseChars?, h hends hblanks, List.append_nil]
  simp only [Option.bind_eq_bind, Option.bind_some, hvalue]

/-- **A written value is read back**, also with blanks behind it. -/
theorem parse?_pretty {j : Json} (h : j.Formed) {blanks : String}
    (hblanks : ∀ d ∈ blanks.toList, isSpace d = true) : parse? (j.pretty ++ blanks) = some j := by
  rw [parse?, pretty, String.toList_append, String.toList_ofList]
  exact parseChars?_of_reads (h.reads_pretty 0) hblanks

end Census.Json
