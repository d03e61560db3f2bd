/-!
# Collapsing adjacent repeated phrases

A phrase is a run of tokens.  `collapse bound` removes immediate repetitions of phrases of at most
`bound` tokens: from left to right, at each place the longest phrase that stands twice in a row is
kept once and all its further copies are dropped, and the whole is done again until a pass removes
nothing.  `length_collapsePass_le` is why that ends.
-/

namespace PageHarvest.Phrase

variable {α : Type} [DecidableEq α]

/-- Both lists have at least `n` tokens and agree on the first `n`. -/
def agreeFor : Nat → List α → List α → Bool
  | 0, _, _ => true
  | n + 1, a :: as, b :: bs => a = b && agreeFor n as bs
  | _ + 1, _, _ => false

/-- The length of the longest phrase of at most `n` tokens that stands twice in a row at the
front, and 0 if there is none. -/
def longestEcho : Nat → List α → Nat
  | 0, _ => 0
  | n + 1, ts => if agreeFor (n + 1) ts (ts.drop (n + 1)) then n + 1 else longestEcho n ts

/-- What remains of `ts` after all the copies of `phrase` at its front. -/
def dropCopies (phrase ts : List α) : List α :=
  if phrase ≠ [] ∧ agreeFor phrase.length phrase ts ∧ phrase.length ≤ ts.length then
    dropCopies phrase (ts.drop phrase.length)
  else ts
termination_by ts.length
decreasing_by
  rename_i h
  have : 0 < phrase.length := List.length_pos_iff.2 h.1
  have := h.2.2
  rw [List.length_drop]; omega

theorem length_dropCopies_le (phrase ts : List α) :
    (dropCopies phrase ts).length ≤ ts.length := by
  fun_induction dropCopies phrase ts with
  | case1 ts h ih => rw [List.length_drop] at ih; omega
  | case2 => exact Nat.le_refl _

/-- One pass from left to right: where a phrase is repeated at once, one copy of the longest such
phrase stays and the scan goes on after the last copy. -/
def collapsePass (bound : Nat) (tokens : List α) : List α :=
  match tokens with
  | [] => []
  | t :: ts =>
    -- A phrase longer than half of the list cannot stand in it twice.
    match longestEcho (min bound ((ts.length + 1) / 2)) (t :: ts) with
    | 0 => t :: collapsePass bound ts
    | n + 1 =>
      let phrase := (t :: ts).take (n + 1)
      phrase ++ collapsePass bound (dropCopies phrase (ts.drop n))
termination_by tokens.length
decreasing_by
  · simp
  · have := length_dropCopies_le (α := α) ((t :: ts).take (n + 1)) (ts.drop n)
    rw [List.length_drop] at this
    simp only [List.length_cons]; omega

theorem longestEcho_le (n : Nat) (ts : List α) : longestEcho n ts ≤ n := by
  induction n with
  | zero => simp [longestEcho]
  | succ n ih =>
    rw [longestEcho]; split
    · exact Nat.le_refl _
    · exact Nat.le_succ_of_le ih

/-- A pass never makes the list longer. -/
theorem length_collapsePass_le (bound : Nat) (tokens : List α) :
    (collapsePass bound tokens).length ≤ tokens.length := by
  fun_induction collapsePass bound tokens with
  | case1 => exact Nat.le_refl _
  | case2 t ts _ ih => simpa using ih
  | case3 t ts n h phrase ih =>
    have hn := longestEcho_le (min bound ((ts.length + 1) / 2)) (t :: ts)
    rw [h] at hn
    have hd := length_dropCopies_le phrase (ts.drop n)
    have hp : phrase.length ≤ n + 1 := by
      simp only [phrase, List.length_take]; omega
    rw [List.length_drop] at hd
    rw [List.length_append, List.length_cons]; omega

/-- Passes until one removes nothing. -/
def collapse (bound : Nat) (tokens : List α) : List α :=
  let once := collapsePass bound tokens
  if once.length = tokens.length then tokens else collapse bound once
termination_by tokens.length
decreasing_by
  have := length_collapsePass_le bound tokens
  rename_i h
  exact Nat.lt_of_le_of_ne this h

end PageHarvest.Phrase
