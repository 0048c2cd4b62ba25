/-
Cells whose text is blank.

* `exists_not_isBlank_text`: the text of a number has more than blanks;
* `Cell.IsBlank`: a cell without a value, or of a text that is all blank;
* `Cell.key_eq_empty_iff`: these are the cells of which trimming leaves nothing.
-/
import Census.Cell
import Census.Proofs.Calendar.Text
import Census.Proofs.Number.Positional

namespace Census

/-- A character that is not blank is left by trimming. -/
lemma Text.trim_ne_empty {s : String} (h : ∃ c ∈ s.toList, isBlank c = false) : trim s ≠ "" := by
  obtain ⟨c, hc, hfilled⟩ := h
  rw [← String.toList_inj.ne, toList_trim]
  intro hnil
  have hblank := trimChars_eq_nil_iff.mp hnil c hc
  rw [hfilled] at hblank
  cases hblank

/-- The text of a number has more than blanks: a word, or the last digit of a notation. -/
lemma Number.exists_not_isBlank_text (x : Number.Binary64) :
    ∃ c ∈ x.text.toList, Text.isBlank c = false := by
  cases x with
  | nan => exact ⟨'N', by decide, by decide⟩
  | infinite negative =>
      refine ⟨'f', ?_, by decide⟩
      cases negative <;> decide
  | finite negative m e halvedBelow =>
      obtain ⟨p, -, -, htext⟩ := Binary64.exists_positional negative m e halvedBelow
      rw [htext, p.trimFraction_chars]
      obtain ⟨c, hc⟩ := Option.ne_none_iff_exists'.mp
        (List.getLast?_eq_none_iff.not.mpr p.trimmed.chars_ne_nil)
      exact ⟨c, List.mem_of_getLast? hc,
        Text.isBlank_of_isDigit (Positional.isDigit_of_getLast? hc)⟩

/-! ### Blank cells -/

namespace Cell

/-- The cell has no value, or a text that is all blank. -/
def IsBlank : Cell → Prop
  | none => True
  | text s => ∀ c ∈ s.toList, Text.isBlank c = true
  | _ => False

/-- Only of blank cells does trimming leave nothing. -/
lemma key_eq_empty_iff (cell : Cell) : cell.key = "" ↔ cell.IsBlank := by
  have hfilled : ∀ {s : String}, (∃ c ∈ s.toList, Text.isBlank c = false) →
      (Text.trim s = "" ↔ False) := fun h => iff_false_intro (Text.trim_ne_empty h)
  -- a date has hyphens
  have hdate : ∀ (d : Date) (later : String),
      ∃ c ∈ (d.text ++ later).toList, Text.isBlank c = false := by
    intro d later
    refine ⟨'-', ?_, by decide⟩
    rw [String.toList_append, Date.toList_text]
    simp
  cases cell with
  | none => exact iff_true_intro rfl
  | text s =>
      show Text.trim s = "" ↔ _
      rw [← String.toList_inj, Text.toList_trim]
      exact Text.trimChars_eq_nil_iff
  | integer n =>
      have hn := Number.denotesInteger_toString n
      obtain ⟨c, hc⟩ := List.exists_mem_of_ne_nil _ hn.ne_nil
      exact hfilled ⟨c, hc, hn.not_isBlank c hc⟩
  | real x => exact hfilled (Number.exists_not_isBlank_text x)
  | flag b =>
      cases b with
      | false => exact hfilled ⟨'N', by decide, by decide⟩
      | true => exact hfilled ⟨'Y', by decide, by decide⟩
  | day n =>
      have hday := hdate (Date.ofDayNumber n) ""
      rw [String.append_empty] at hday
      exact hfilled hday
  | instant ms =>
      show Text.trim (instantText ms) = "" ↔ _
      rw [instantText, dateAndTime, String.append_assoc]
      exact hfilled (hdate _ _)

end Cell

end Census
