import PageHarvest.Text.Percent
import PageHarvest.Text.Utf8

/-!
# Percent encoding is undone

What is escaped stands for the bytes of the text (`unescape_escape`), whichever characters are plain,
as long as the percent sign is not.
-/

namespace PageHarvest.Text

namespace Percent

variable {isPlain : Char → Bool} {c : Char}

theorem unescape_escapeByte (b : UInt8) (s : List Char) :
    unescape (escapeByte b ++ s) = b :: unescape s := by
  -- A byte has two digits, so that reading them back gives the byte.
  have hbyte : UInt8.ofNat (16 * (Hex.lastValue (b.toNat / 16)).val + (Hex.lastValue b.toNat).val)
      = b := by
    apply UInt8.toNat_inj.1
    have hlt := b.toNat_lt
    show (16 * (b.toNat / 16 % 16) + b.toNat % 16) % 256 = b.toNat
    omega
  show unescape ('%' :: Hex.upperDigit _ :: Hex.upperDigit _ :: s) = _
  rw [unescape, Hex.value?_upperDigit, Hex.value?_upperDigit]
  show UInt8.ofNat _ :: unescape s = _
  rw [hbyte]

theorem unescape_escapeBytes (bs : List UInt8) (s : List Char) :
    unescape (bs.flatMap escapeByte ++ s) = bs ++ unescape s := by
  induction bs with
  | nil => rfl
  | cons b bs ih =>
    rw [List.flatMap_cons, List.append_assoc, unescape_escapeByte, ih, List.cons_append]

/-- A character stands for itself unless it is the percent sign. -/
theorem unescape_cons (h : c ≠ '%') (s : List Char) :
    unescape (c :: s) = String.utf8EncodeChar c ++ unescape s := by
  rw [unescape]
  intro a b t hc
  exact absurd hc h

theorem unescape_escapeChar (h : isPlain '%' = false) (c : Char) (s : List Char) :
    unescape (escapeChar isPlain c ++ s) = String.utf8EncodeChar c ++ unescape s := by
  unfold escapeChar
  by_cases hc : isPlain c = true
  · rw [if_pos hc]
    apply unescape_cons
    rintro rfl
    rw [h] at hc
    exact absurd hc (by simp)
  · rw [if_neg hc, unescape_escapeBytes]

/-- **What is escaped stands for the bytes of the text.** -/
theorem unescape_escape (h : isPlain '%' = false) (s : List Char) :
    unescape (escape isPlain s) = Utf8.encode s := by
  unfold escape Utf8.encode
  induction s with
  | nil => simp [unescape]
  | cons c s ih => rw [List.flatMap_cons, unescape_escapeChar h, ih, List.flatMap_cons]

/-- A text of plain characters stays as it is. -/
theorem escape_eq_self {s : List Char} (h : ∀ c ∈ s, isPlain c = true) : escape isPlain s = s := by
  induction s with
  | nil => rfl
  | cons c s ih =>
    rw [List.forall_mem_cons] at h
    have hrest : s.flatMap (escapeChar isPlain) = s := ih h.2
    rw [escape, List.flatMap_cons, hrest, escapeChar, if_pos h.1]
    rfl

end Percent

end PageHarvest.Text
