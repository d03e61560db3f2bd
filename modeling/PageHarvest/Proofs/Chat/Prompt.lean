import PageHarvest.Chat.Prompt
import Mathlib.Data.List.Infix

/-!
# How a template is cut

`IsCutAt` says how a text is cut where a mark stands: each mark that is cut out is the first one in
what is left, and what comes after it is cut again.  There is one way to do so (`IsCutAt.unique`),
and the parts of a template are those between its placeholders (`isCutAt_iff`).
-/

namespace PageHarvest.Chat

open Text

variable {mark s : List Char} {ps : List (List Char)}

/-- The text is cut into these parts where the mark stands.  In front of a mark that is cut out no
other one begins, so the first one comes first, and no two of them overlap. -/
inductive IsCutAt (mark : List Char) : List Char → List (List Char) → Prop
  | whole {s : List Char} (absent : ¬mark <:+: s) : IsCutAt mark s [s]
  | next {before s : List Char} {ps : List (List Char)} (first : ¬mark <:+: before ++ mark.dropLast)
    (rest : IsCutAt mark s ps) : IsCutAt mark (before ++ (mark ++ s)) (before :: ps)

/-- The text up to the end of its first mark, but for the last character. -/
theorem prefix_of_first (mark before t : List Char) :
    before ++ mark.dropLast <+: before ++ (mark ++ t) := by
  apply (List.prefix_append_right_inj before).2
  exact (List.dropLast_prefix mark).trans (List.prefix_append mark t)

/-- A character at which no mark begins belongs to the first part. -/
theorem IsCutAt.cons {c : Char} (h : ¬mark <+: c :: s) (cut : IsCutAt mark s ps) :
    IsCutAt mark (c :: s) (attach c ps) := by
  cases cut with
  | whole absent =>
    refine .whole fun hinfix => ?_
    rcases List.infix_cons_iff.1 hinfix with hbegins | hlater
    · exact h hbegins
    · exact absent hlater
  | @next before t ps first rest =>
    have hfirst : ¬mark <:+: (c :: before) ++ mark.dropLast := by
      intro hinfix
      rcases List.infix_cons_iff.1 hinfix with hbegins | hlater
      · -- A mark that begins here would end before the first one does.
        exact h (hbegins.trans (prefix_of_first mark (c :: before) t))
      · exact first hlater
    exact .next hfirst rest

/-- The parts are found from the left, with the rest of a mark passed over. -/
theorem isCutAt_partsAfter (hmark : mark ≠ []) (n : Nat) (s : List Char) :
    IsCutAt mark (s.drop n) (partsAfter mark n s) := by
  fun_induction partsAfter mark n s with
  | case1 n =>
    rw [List.drop_nil]
    exact .whole fun h => hmark (List.eq_nil_of_infix_nil h)
  | case2 n c s ih => exact ih
  | case3 c s h ih =>
    obtain ⟨t, ht⟩ := List.isPrefixOf_iff_prefix.1 h
    have hpos : 0 < mark.length := List.length_pos_iff.2 hmark
    have hrest : s.drop (mark.length - 1) = t := by
      have hdrop : (c :: s).drop mark.length = t := by rw [← ht, List.drop_left]
      rwa [← Nat.sub_add_cancel hpos, List.drop_succ_cons] at hdrop
    have hfirst : ¬mark <:+: [] ++ mark.dropLast := by
      intro hinfix
      -- No mark stands within a shorter text.
      have hlength := hinfix.length_le
      rw [List.nil_append, List.length_dropLast] at hlength
      omega
    rw [hrest] at ih
    rw [List.drop_zero, ← ht]
    exact .next hfirst ih
  | case4 c s h ih =>
    rw [List.drop_zero] at ih ⊢
    exact ih.cons fun hprefix => h (List.isPrefixOf_iff_prefix.2 hprefix)

/-- Of two places of a mark in a text, one with no mark in front of it does not come later. -/
theorem length_le_of_first {before before' t t' : List Char}
    (first : ¬mark <:+: before ++ mark.dropLast)
    (heq : before ++ (mark ++ t) = before' ++ (mark ++ t')) : before.length ≤ before'.length := by
  apply Nat.le_of_not_lt
  intro hlt
  have hbefore := prefix_of_first mark before t
  have hbefore' : before' ++ mark <+: before ++ (mark ++ t) := by
    rw [heq, ← List.append_assoc]
    exact List.prefix_append _ _
  have hlength : (before' ++ mark).length ≤ (before ++ mark.dropLast).length := by
    rw [List.length_append, List.length_append, List.length_dropLast]
    omega
  have hprefix := List.prefix_of_prefix_length_le hbefore' hbefore hlength
  exact first ((List.suffix_append before' mark).isInfix.trans hprefix.isInfix)

/-- A text is cut in one way only. -/
theorem IsCutAt.unique {qs : List (List Char)} (h : IsCutAt mark s ps) (k : IsCutAt mark s qs) :
    ps = qs := by
  induction h generalizing qs with
  | whole absent =>
    cases k with
    | whole => rfl
    | next => exact absurd (List.infix_append' _ _ _) absent
  | @next before t ps first rest ih =>
    generalize htext : before ++ (mark ++ t) = text at k
    cases k with
    | whole absent => exact absurd (List.infix_append' before mark t) (htext ▸ absent)
    | @next before' t' qs first' rest' =>
      have hlength : before.length = before'.length :=
        Nat.le_antisymm (length_le_of_first first htext) (length_le_of_first first' htext.symm)
      obtain ⟨rfl, hlater⟩ := List.append_inj htext hlength
      obtain rfl := List.append_cancel_left hlater
      rw [ih rest']

/-- **The parts are those that the text is cut into.** -/
theorem isCutAt_iff (hmark : mark ≠ []) : IsCutAt mark s ps ↔ ps = partsAfter mark 0 s := by
  have hparts : IsCutAt mark s (partsAfter mark 0 s) := isCutAt_partsAfter hmark 0 s
  constructor
  · intro h
    exact h.unique hparts
  · rintro rfl
    exact hparts

end PageHarvest.Chat
