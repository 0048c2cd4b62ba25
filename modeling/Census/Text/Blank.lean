/-
Blank characters and trimming.

* `isBlank`: the characters with the Unicode property White_Space;
* `trimLeft`, `trimRight`, `trimChars`: a list of characters without the blanks
  at one end or at both;
* `trim`: the same on text;
* `trimChars_trimChars`, `trim_trim`: trimming twice is trimming once;
* `trimChars_eq_nil_iff`: only blanks are trimmed to nothing.
-/

namespace Census.Text

/-- The blank characters: those with the Unicode property White_Space. -/
def isBlank (c : Char) : Bool :=
  let n := c.toNat
  (0x09 ≤ n && n ≤ 0x0D) || n == 0x20 || n == 0x85 || n == 0xA0 || n == 0x1680 ||
    (0x2000 ≤ n && n ≤ 0x200A) || n == 0x2028 || n == 0x2029 || n == 0x202F ||
    n == 0x205F || n == 0x3000

/-! ### Trimming a list of characters -/

/-- Drops the blanks at the front. -/
def trimLeft (cs : List Char) : List Char :=
  cs.dropWhile isBlank

/-- Drops the blanks at the end. -/
def trimRight (cs : List Char) : List Char :=
  (cs.reverse.dropWhile isBlank).reverse

/-- Drops the blanks at both ends. -/
def trimChars (cs : List Char) : List Char :=
  trimRight (trimLeft cs)

/-- Trimming the front leaves nothing exactly when all is blank. -/
theorem trimLeft_eq_nil_iff {cs : List Char} : trimLeft cs = [] ↔ ∀ c ∈ cs, isBlank c = true := by
  induction cs with
  | nil => simp [trimLeft]
  | cons c r ih =>
    rw [trimLeft, List.dropWhile_cons]
    by_cases hc : isBlank c = true
    · rw [if_pos hc, ← trimLeft, ih]
      simp [hc]
    · simp [hc]

theorem trimLeft_trimLeft (cs : List Char) : trimLeft (trimLeft cs) = trimLeft cs := by
  induction cs with
  | nil => rfl
  | cons c r ih =>
    rw [trimLeft, trimLeft, List.dropWhile_cons]
    by_cases hc : isBlank c = true
    · simpa [hc, trimLeft] using ih
    · simp [hc]

/-- A list whose end is trimmed is the rest of it and a run of blanks. -/
theorem exists_trimRight_append (cs : List Char) :
    ∃ bs : List Char, (∀ b ∈ bs, isBlank b = true) ∧ cs = trimRight cs ++ bs := by
  refine ⟨(cs.reverse.takeWhile isBlank).reverse, ?_, ?_⟩
  · intro b hb
    exact List.all_eq_true.mp (List.all_takeWhile (l := cs.reverse)) b (List.mem_reverse.mp hb)
  · rw [trimRight, ← List.reverse_append, List.takeWhile_append_dropWhile, List.reverse_reverse]

theorem trimRight_trimRight (cs : List Char) : trimRight (trimRight cs) = trimRight cs := by
  rw [trimRight, trimRight, List.reverse_reverse]
  exact congrArg List.reverse (trimLeft_trimLeft cs.reverse)

/-- The first character of trimmed text is not blank, so trimming the front again keeps it. -/
theorem trimLeft_trimRight_trimLeft (cs : List Char) :
    trimLeft (trimRight (trimLeft cs)) = trimRight (trimLeft cs) := by
  obtain ⟨bs, -, h⟩ := exists_trimRight_append (trimLeft cs)
  cases hr : trimRight (trimLeft cs) with
  | nil => rfl
  | cons c r =>
    rw [hr] at h
    have hd := trimLeft_trimLeft cs
    rw [h, trimLeft, List.cons_append, List.dropWhile_cons] at hd
    split at hd
    · have hl := congrArg List.length hd
      have := (List.dropWhile_sublist isBlank (l := r ++ bs)).length_le
      simp only [List.length_cons] at hl
      omega
    · next hc => rw [trimLeft, List.dropWhile_cons, if_neg hc]

theorem trimChars_trimChars (cs : List Char) : trimChars (trimChars cs) = trimChars cs := by
  rw [trimChars, trimChars, trimLeft_trimRight_trimLeft, trimRight_trimRight]

/-- Only blanks are trimmed to nothing. -/
theorem trimChars_eq_nil_iff {cs : List Char} :
    trimChars cs = [] ↔ ∀ c ∈ cs, isBlank c = true := by
  constructor
  · intro h c hc
    obtain ⟨bs, hbs, e⟩ := exists_trimRight_append (trimLeft cs)
    rw [show trimRight (trimLeft cs) = [] from h, List.nil_append] at e
    rw [← List.takeWhile_append_dropWhile (p := isBlank) (l := cs)] at hc
    rcases List.mem_append.mp hc with h1 | h1
    · exact List.all_eq_true.mp List.all_takeWhile c h1
    · exact hbs c (e ▸ h1)
  · intro h
    simp [trimChars, trimLeft_eq_nil_iff.mpr h, trimRight]

/-! ### Trimming text -/

/-- The text without the blanks at both ends. -/
def trim (s : String) : String :=
  String.ofList (trimChars s.toList)

@[simp] theorem toList_trim (s : String) : (trim s).toList = trimChars s.toList :=
  String.toList_ofList

theorem trim_trim (s : String) : trim (trim s) = trim s := by
  rw [trim, toList_trim, trimChars_trimChars, ← trim]

end Census.Text
