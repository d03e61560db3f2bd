/-!
# Phrases that stand twice in a row

An echo is a phrase followed at once by itself.  `EchoAt` says where one stands, `IsEcholess` that there
is none of at most so many tokens, and `Drops` is the step that takes one of the two copies away.
-/

namespace PageHarvest.Phrase

variable {α : Type}

/-- At the place `i` a phrase of `n` tokens stands twice in a row. -/
def EchoAt (ts : List α) (i n : Nat) : Prop :=
  i + 2 * n ≤ ts.length ∧ (ts.drop i).take n = (ts.drop (i + n)).take n

instance [DecidableEq α] (ts : List α) (i n : Nat) : Decidable (EchoAt ts i n) :=
  inferInstanceAs (Decidable (_ ∧ _))

/-- No phrase of at most `bound` tokens stands twice in a row, wherever one looks. -/
def IsEcholess (bound : Nat) (ts : List α) : Prop :=
  ∀ i n, 1 ≤ n → n ≤ bound → ¬EchoAt ts i n

theorem forall_le_iff_isEcholess {bound : Nat} {ts : List α} :
    (∀ i ≤ ts.length, ∀ n ≤ bound, 1 ≤ n → ¬EchoAt ts i n) ↔ IsEcholess bound ts := by
  constructor
  · intro h i n hpos hbound hecho
    have hplace := hecho.1
    exact h i (by omega) n hbound hpos hecho
  · intro h i _ n hbound hpos
    exact h i n hpos hbound

instance [DecidableEq α] (bound : Nat) (ts : List α) : Decidable (IsEcholess bound ts) :=
  decidable_of_iff _ forall_le_iff_isEcholess

/-- The phrase so many times in a row. -/
def copies (k : Nat) (phrase : List α) : List α :=
  (List.replicate k phrase).flatten

/-- One of two copies of a phrase of at most `bound` tokens, which stand next to each other, goes. -/
inductive Drops (bound : Nat) : List α → List α → Prop
  | copy (before phrase after : List α) (nonempty : 1 ≤ phrase.length)
    (short : phrase.length ≤ bound) :
    Drops bound (before ++ phrase ++ phrase ++ after) (before ++ phrase ++ after)

/-- The pairs of tokens that stand next to each other, in order. -/
def neighbours (ts : List α) : List (α × α) :=
  ts.zip ts.tail

end PageHarvest.Phrase
