/-
Texts as bytes.

* `Text.toList_toUTF8`: the bytes of a text are those of its characters, one after the other;
* `Text.encode_lt`, `lt_iff_toUTF8_lt`: texts are in the order of their bytes.
-/
import Mathlib.Data.List.Basic

namespace Census.Text

/-- The bytes of a text are those of its characters, one after the other. -/
lemma toList_toUTF8 (cs : List Char) :
    (String.ofList cs).toUTF8.data.toList = cs.flatMap String.utf8EncodeChar := by
  rw [String.toUTF8, String.toByteArray_ofList]
  exact List.toList_data_toByteArray

/-! ### Order -/

/-- Bytes are in the order of their first ones, and where these are the same, of the others. -/
lemma ofNat_cons_lt {a b : ℕ} (hb : b < 256) {xs ys : List UInt8}
    (h : a < b ∨ a = b ∧ xs < ys) : UInt8.ofNat a :: xs < UInt8.ofNat b :: ys := by
  rcases h with hlt | ⟨rfl, hrest⟩
  · refine List.cons_lt_cons_iff.mpr (Or.inl ?_)
    rwa [UInt8.lt_iff_toNat_lt, UInt8.toNat_ofNat', UInt8.toNat_ofNat', Nat.mod_eq_of_lt hb,
      Nat.mod_eq_of_lt (Nat.lt_trans hlt hb)]
  · exact List.cons_lt_cons_iff.mpr (Or.inr ⟨rfl, hrest⟩)

/-- The bytes of a character, from one to four. -/
lemma utf8EncodeChar_cases (c : Char) : ∃ v, v = c.toNat ∧
    ((v ≤ 127 ∧ String.utf8EncodeChar c = [UInt8.ofNat v]) ∨
    (127 < v ∧ v ≤ 2047 ∧
      String.utf8EncodeChar c = [UInt8.ofNat (v / 64 % 32 + 192), UInt8.ofNat (v % 64 + 128)]) ∨
    (2047 < v ∧ v ≤ 65535 ∧ String.utf8EncodeChar c =
      [UInt8.ofNat (v / 4096 % 16 + 224), UInt8.ofNat (v / 64 % 64 + 128),
        UInt8.ofNat (v % 64 + 128)]) ∨
    (65535 < v ∧ v < 1114112 ∧ String.utf8EncodeChar c =
      [UInt8.ofNat (v / 262144 % 8 + 240), UInt8.ofNat (v / 4096 % 64 + 128),
        UInt8.ofNat (v / 64 % 64 + 128), UInt8.ofNat (v % 64 + 128)])) := by
  have hvalid : c.toNat < 1114112 := by
    rcases c.valid with hlow | hhigh
    · exact Nat.lt_trans hlow (by decide)
    · exact hhigh.2
  refine ⟨c.toNat, rfl, ?_⟩
  have hval : c.val.toNat = c.toNat := rfl
  rw [String.utf8EncodeChar, hval]
  by_cases h₁ : c.toNat ≤ 127
  · exact Or.inl ⟨h₁, if_pos h₁⟩
  by_cases h₂ : c.toNat ≤ 2047
  · exact Or.inr (Or.inl ⟨by omega, h₂, by simp only [h₁, h₂, if_true, if_false]⟩)
  by_cases h₃ : c.toNat ≤ 65535
  · exact Or.inr (Or.inr (Or.inl
      ⟨by omega, h₃, by simp only [h₁, h₂, h₃, if_true, if_false]⟩))
  · exact Or.inr (Or.inr (Or.inr
      ⟨by omega, hvalid, by simp only [h₁, h₂, h₃, if_false]⟩))

/-- Of two characters the lower one has the lower bytes, whatever follows: more bytes start with a
higher one, and as many show the code points with their high parts first. -/
lemma encode_lt {c d : Char} (h : c.toNat < d.toNat) (xs ys : List UInt8) :
    String.utf8EncodeChar c ++ xs < String.utf8EncodeChar d ++ ys := by
  obtain ⟨v, hv, hc⟩ := utf8EncodeChar_cases c
  obtain ⟨w, hw, hd⟩ := utf8EncodeChar_cases d
  rw [← hv, ← hw] at h
  rcases hc with ⟨hv₁, hc⟩ | ⟨hv₁, hv₂, hc⟩ | ⟨hv₁, hv₂, hc⟩ | ⟨hv₁, hv₂, hc⟩
  · rw [hc]
    rcases hd with ⟨hw₁, hd⟩ | ⟨-, -, hd⟩ | ⟨-, -, hd⟩ | ⟨-, -, hd⟩ <;> rw [hd] <;>
      exact ofNat_cons_lt (by omega) (Or.inl (by omega))
  · rw [hc]
    rcases hd with ⟨hw₁, hd⟩ | ⟨-, hw₂, hd⟩ | ⟨-, -, hd⟩ | ⟨-, -, hd⟩
    · omega
    · rw [hd]
      by_cases hfirst : v / 64 < w / 64
      · exact ofNat_cons_lt (by omega) (Or.inl (by omega))
      · refine ofNat_cons_lt (by omega) (Or.inr ⟨by omega, ?_⟩)
        exact ofNat_cons_lt (by omega) (Or.inl (by omega))
    all_goals rw [hd]; exact ofNat_cons_lt (by omega) (Or.inl (by omega))
  · rw [hc]
    rcases hd with ⟨hw₁, hd⟩ | ⟨-, hw₂, hd⟩ | ⟨-, hw₂, hd⟩ | ⟨-, -, hd⟩
    · omega
    · omega
    · rw [hd]
      by_cases hfirst : v / 4096 < w / 4096
      · exact ofNat_cons_lt (by omega) (Or.inl (by omega))
      refine ofNat_cons_lt (by omega) (Or.inr ⟨by omega, ?_⟩)
      by_cases hsecond : v / 64 < w / 64
      · exact ofNat_cons_lt (by omega) (Or.inl (by omega))
      · refine ofNat_cons_lt (by omega) (Or.inr ⟨by omega, ?_⟩)
        exact ofNat_cons_lt (by omega) (Or.inl (by omega))
    · rw [hd]
      exact ofNat_cons_lt (by omega) (Or.inl (by omega))
  · rw [hc]
    rcases hd with ⟨hw₁, hd⟩ | ⟨-, hw₂, hd⟩ | ⟨-, hw₂, hd⟩ | ⟨-, hw₂, hd⟩
    · omega
    · omega
    · omega
    · rw [hd]
      by_cases hfirst : v / 262144 < w / 262144
      · exact ofNat_cons_lt (by omega) (Or.inl (by omega))
      refine ofNat_cons_lt (by omega) (Or.inr ⟨by omega, ?_⟩)
      by_cases hsecond : v / 4096 < w / 4096
      · exact ofNat_cons_lt (by omega) (Or.inl (by omega))
      refine ofNat_cons_lt (by omega) (Or.inr ⟨by omega, ?_⟩)
      by_cases hthird : v / 64 < w / 64
      · exact ofNat_cons_lt (by omega) (Or.inl (by omega))
      · refine ofNat_cons_lt (by omega) (Or.inr ⟨by omega, ?_⟩)
        exact ofNat_cons_lt (by omega) (Or.inl (by omega))

lemma append_lt_append (front : List UInt8) {xs ys : List UInt8} (h : xs < ys) :
    front ++ xs < front ++ ys := by
  induction front with
  | nil => exact h
  | cons b front ih => exact List.cons_lt_cons_iff.mpr (Or.inr ⟨rfl, ih⟩)

lemma flatMap_encode_lt {cs ds : List Char} (h : cs < ds) :
    cs.flatMap String.utf8EncodeChar < ds.flatMap String.utf8EncodeChar := by
  induction cs generalizing ds with
  | nil =>
      cases ds with
      | nil => cases h
      | cons d ds =>
          obtain ⟨b, bs, hb⟩ := List.exists_cons_of_ne_nil (String.utf8EncodeChar_ne_nil (c := d))
          rw [List.flatMap_cons, hb]
          exact List.nil_lt_cons _ _
  | cons c cs ih =>
      cases ds with
      | nil => cases h
      | cons d ds =>
          rw [List.flatMap_cons, List.flatMap_cons]
          rcases List.cons_lt_cons_iff.mp h with hlt | ⟨rfl, hrest⟩
          · exact encode_lt hlt _ _
          · exact append_lt_append _ (ih hrest)

/-- **Order of texts**: a text comes before another one exactly when its bytes do. -/
theorem lt_iff_toUTF8_lt {a b : String} :
    a < b ↔ a.toUTF8.data.toList < b.toUTF8.data.toList := by
  have hbytes : ∀ s : String, s.toUTF8.data.toList = s.toList.flatMap String.utf8EncodeChar := by
    intro s
    rw [← toList_toUTF8, String.ofList_toList]
  rw [hbytes, hbytes]
  refine ⟨fun h => flatMap_encode_lt h, fun h => ?_⟩
  by_contra hno
  have hle := String.not_lt.mp hno
  by_cases heq : a = b
  · rw [heq] at h
    exact List.lt_irrefl _ h
  · have hlt : b < a := String.not_le.mp fun hge => heq (String.le_antisymm hge hle)
    exact List.lt_asymm h (flatMap_encode_lt hlt)

end Census.Text
