import PageHarvest.Proofs.Text.Words
import Mathlib.Algebra.GroupWithZero.Nat
import Mathlib.Algebra.Order.BigOperators.Group.List
import Mathlib.Algebra.Order.Group.Nat

/-!
# The weight of a text

Bytes are no measure for what reading a text as markup can do to it: two bytes of markup can spell
a character of three.  `weight` counts bytes in a way that reading never adds to.  Blanks count
nothing, so that it does not matter how words are joined, and a character at which markup may begin
counts three more than it has bytes: a reference is then heavier than what it stands for.
-/

namespace PageHarvest.Text

variable {c : Char} {s t : List Char} {ws : List (List Char)}

/-- The character is one that text read as markup need not keep. -/
def isDelicate (c : Char) : Bool := c == '&' || c == '<' || c == '\x00'

/-- What a character counts. -/
def weightOf (c : Char) : Nat :=
  if isBlank c then 0 else c.utf8Size + if isDelicate c then 3 else 0

/-- What a text counts. -/
def weight (s : List Char) : Nat := (s.map weightOf).sum

@[simp] theorem weight_nil : weight [] = 0 := rfl

@[simp] theorem weight_cons (c : Char) (s : List Char) :
    weight (c :: s) = weightOf c + weight s := by
  rw [weight, List.map_cons, List.sum_cons, ← weight]

@[simp] theorem weight_append (s t : List Char) : weight (s ++ t) = weight s + weight t := by
  rw [weight, List.map_append, List.sum_append, ← weight, ← weight]

/-- What is left out of a list does not make a sum greater. -/
theorem sum_map_le_of_sublist {α : Type} (f : α → Nat) {as bs : List α} (h : as.Sublist bs) :
    (as.map f).sum ≤ (bs.map f).sum :=
  (h.map f).sum_le_sum fun _ _ => Nat.zero_le _

/-- Leaving out characters makes no text heavier. -/
theorem weight_le_of_sublist (h : s.Sublist t) : weight s ≤ weight t :=
  sum_map_le_of_sublist weightOf h

theorem weight_le_of_suffix (h : s <:+ t) : weight s ≤ weight t :=
  weight_le_of_sublist h.sublist

/-- Texts put together weigh what they weigh one by one. -/
theorem weight_flatten (ws : List (List Char)) : weight ws.flatten = (ws.map weight).sum := by
  induction ws with
  | nil => rfl
  | cons w ws ih => rw [List.flatten_cons, weight_append, ih, List.map_cons, List.sum_cons]

theorem weightOf_of_isBlank (h : isBlank c = true) : weightOf c = 0 := if_pos h

/-- Blanks weigh nothing. -/
theorem weight_of_blank (h : ∀ c ∈ s, isBlank c = true) : weight s = 0 := by
  induction s with
  | nil => rfl
  | cons c s ih =>
    rw [List.forall_mem_cons] at h
    rw [weight_cons, weightOf_of_isBlank h.1, ih h.2]

/-- Every other character weighs something. -/
theorem weightOf_pos (h : isBlank c = false) : 0 < weightOf c := by
  have := Char.utf8Size_pos c
  rw [weightOf, if_neg (by simp [h])]
  omega

/-- Delicate characters have one byte, so that no character counts more than four. -/
theorem weightOf_le_four (c : Char) : weightOf c ≤ 4 := by
  have := Char.utf8Size_le_four c
  rw [weightOf]
  split
  · omega
  · split
    · next h =>
      simp only [isDelicate, Bool.or_eq_true, beq_iff_eq] at h
      rcases h with (rfl | rfl) | rfl <;> decide
    -- A character that is not delicate counts its bytes, four at most.
    · omega

/-! ### Words -/

theorem sum_weight_attach (c : Char) (ws : List (List Char)) :
    ((attach c ws).map weight).sum = weightOf c + (ws.map weight).sum := by
  cases ws with
  | nil => simp [attach]
  | cons w ws => simp [attach, Nat.add_assoc]

/-- The words of a text weigh as much as the text. -/
theorem sum_weight_words (s : List Char) : ((words s).map weight).sum = weight s := by
  -- On the text: its first character is a blank, ends a word, or belongs to the word after it.
  induction s with
  | nil => rfl
  | cons c s ih =>
    cases hc : isBlank c with
    | true => rw [words_cons_of_isBlank hc, weight_cons, weightOf_of_isBlank hc, ih, Nat.zero_add]
    | false =>
      cases hs : s.head?.all isBlank with
      | true =>
        rw [words_cons_of_head hc hs, List.map_cons, List.sum_cons, ih]
        simp
      | false => rw [words_cons_of_not_head hc hs, sum_weight_attach, ih, weight_cons]

/-- The blanks between words weigh nothing. -/
theorem weight_unwords (ws : List (List Char)) : weight (unwords ws) = (ws.map weight).sum := by
  induction ws with
  | nil => rfl
  | cons w ws ih =>
    cases ws with
    | nil => simp
    | cons v ws =>
      rw [unwords_cons w (by simp), weight_append, weight_cons, ih,
        weightOf_of_isBlank isBlank_space, Nat.zero_add]
      rfl

/-- However the words stand, the text weighs the same. -/
theorem weight_squeeze (s : List Char) : weight (squeeze s) = weight s := by
  rw [squeeze, weight_unwords, sum_weight_words]

/-- Texts with the same words have the same weight. -/
theorem weight_eq_of_words (h : words s = words t) : weight s = weight t := by
  rw [← sum_weight_words, h, sum_weight_words]

theorem weight_trim (s : List Char) : weight (trim s) = weight s :=
  weight_eq_of_words (words_trim s)

end PageHarvest.Text
