import PageHarvest.Html.Arena
import PageHarvest.Proofs.Html.Mass
import Mathlib.Algebra.BigOperators.Group.Finset.Basic
import Mathlib.Algebra.Order.BigOperators.Group.Finset

/-!
# What a document shows

A document shows no more text than its arena has (`sum_weight_visibleTexts_le`).  This does not need
the nodes to be a tree: a walk goes on from a point in one way only, so one that ends is at no point
twice (`nodup_of_walk`).
-/

namespace PageHarvest.Html.Arena

open Text

variable {a : Arena} {e : Edge} {n m i : Nat} {ids rest : List Nat}

/-! ### Walks -/

/-- A walk that ends enters what the walk from the next point enters, if there is one, and before
that the node that it begins at. -/
theorem walk_succ_eq_some (h : a.walk (n + 1) e = some ids) :
    ∃ rest, (rest = [] ∨ ∃ e', a.walk n e' = some rest) ∧
      (ids = rest ∨ ∃ i, e = .enter i ∧ ids = i :: rest) := by
  cases e with
  | enter i =>
    rw [walk] at h
    obtain ⟨rest, hsome, rfl⟩ := Option.map_eq_some_iff.1 h
    refine ⟨rest, ?_, .inr ⟨i, rfl, rfl⟩⟩
    split at hsome
    · exact .inr ⟨_, hsome⟩
    · exact .inl (Option.some.inj hsome).symm
  | leave i =>
    rw [walk] at h
    refine ⟨ids, ?_, .inl rfl⟩
    split at h
    · exact .inr ⟨_, h⟩
    · exact .inl (Option.some.inj h).symm

/-- A walk that ends does not depend on how long it may last. -/
theorem walk_of_le (h : a.walk n e = some ids) (hnm : n ≤ m) : a.walk m e = some ids := by
  -- On the shorter one of the two.
  induction n generalizing e m ids with
  | zero => exact absurd h (by simp [walk])
  | succ n ih =>
    obtain ⟨m, rfl⟩ : ∃ k, m = k + 1 := ⟨m - 1, by omega⟩
    have hlonger : ∀ e' rest, a.walk n e' = some rest → a.walk m e' = some rest :=
      fun e' rest h => ih h (by omega)
    cases e with
    | enter i =>
      rw [walk] at h ⊢
      obtain ⟨rest, hsome, rfl⟩ := Option.map_eq_some_iff.1 h
      refine Option.map_eq_some_iff.2 ⟨rest, ?_, rfl⟩
      split at hsome
      · next e' hafter => simpa only [hafter] using hlonger e' rest hsome
      · next hafter => simpa only [hafter] using hsome
    | leave i =>
      rw [walk] at h ⊢
      split at h
      · next e' hafter => simpa only [hafter] using hlonger e' ids h
      · next hafter => simpa only [hafter] using h

/-- From a node that it enters, a walk goes on as it would have begun there. -/
theorem walk_enter_of_mem (h : a.walk n e = some ids) (hi : i ∈ ids) :
    ∃ later, a.walk n (.enter i) = some later ∧ later <:+ ids := by
  induction n generalizing e ids with
  | zero => exact absurd h (by simp [walk])
  | succ n ih =>
    obtain ⟨rest, hrest, hids⟩ := walk_succ_eq_some h
    -- A node that comes later is found in the walk from the next point, with one step less.
    have hlater : i ∈ rest → ∃ later, a.walk (n + 1) (.enter i) = some later ∧ later <:+ rest := by
      intro hmem
      rcases hrest with rfl | ⟨e', he'⟩
      · exact absurd hmem List.not_mem_nil
      · obtain ⟨later, hwalk, hsuffix⟩ := ih he' hmem
        exact ⟨later, walk_of_le hwalk (Nat.le_succ n), hsuffix⟩
    rcases hids with rfl | ⟨j, rfl, rfl⟩
    · exact hlater hi
    · rcases List.mem_cons.1 hi with rfl | hmem
      · exact ⟨_, h, List.suffix_refl _⟩
      · obtain ⟨later, hwalk, hsuffix⟩ := hlater hmem
        exact ⟨later, hwalk, hsuffix.trans (List.suffix_cons j rest)⟩

/-- **A walk that ends enters no node twice**: from both times on it would be the same walk. -/
theorem nodup_of_walk (h : a.walk n e = some ids) : ids.Nodup := by
  induction n generalizing e ids with
  | zero => exact absurd h (by simp [walk])
  | succ n ih =>
    obtain ⟨rest, hrest, hids⟩ := walk_succ_eq_some h
    have hnodup : rest.Nodup := by
      rcases hrest with rfl | ⟨e', he'⟩
      · exact List.nodup_nil
      · exact ih he'
    rcases hids with rfl | ⟨i, rfl, rfl⟩
    · exact hnodup
    · refine List.nodup_cons.2 ⟨fun hmem => ?_, hnodup⟩
      rcases hrest with rfl | ⟨e', he'⟩
      · exact absurd hmem List.not_mem_nil
      · -- From `i` on the walk would be both all of this one and a part of its rest.
        obtain ⟨later, hwalk, hsuffix⟩ := walk_enter_of_mem he' hmem
        rw [walk_of_le hwalk (Nat.le_succ n), Option.some.injEq] at h
        subst h
        have := hsuffix.length_le
        rw [List.length_cons] at this
        omega

theorem nodup_descendants (a : Arena) : a.descendants.Nodup := by
  unfold descendants
  cases h : a.walk (2 * a.cells.size) (.enter root) with
  | none => exact List.nodup_nil
  | some ids => exact nodup_of_walk h

/-! ### Texts -/

/-- What a node counts; a number that is no node counts nothing. -/
def massAt (a : Arena) (i : Nat) : Nat := (a.cells[i]?.map fun c => c.kind.mass).getD 0

theorem weight_of_text? {text : List Char} (h : a.text? i = some text) :
    weight text = a.massAt i := by
  unfold text? at h
  split at h
  · next pieces hkind =>
    obtain ⟨c, hc, hkind⟩ := Option.map_eq_some_iff.1 hkind
    rw [Option.some.injEq] at h
    rw [← h, weight_flatten, List.map_reverse, List.sum_reverse, massAt, hc, Option.map_some,
      Option.getD_some, hkind, Kind.mass]
  · exact absurd h (by simp)

theorem sum_weight_filterMap_le {g : Nat → Option (List Char)}
    (hg : ∀ i text, g i = some text → weight text = a.massAt i) (ids : List Nat) :
    ((ids.filterMap g).map weight).sum ≤ (ids.map a.massAt).sum := by
  induction ids with
  | nil => exact Nat.le_refl _
  | cons i ids ih =>
    rw [List.filterMap_cons, List.map_cons, List.sum_cons]
    split
    · omega
    · next text h =>
      rw [List.map_cons, List.sum_cons, hg i text h]
      omega

theorem map_massAt_range (a : Arena) :
    (List.range a.cells.size).map a.massAt = a.cells.toList.map fun c => c.kind.mass := by
  refine List.ext_getElem (by simp) fun i hi _ => ?_
  have hi : i < a.cells.size := by simpa using hi
  simp [massAt, hi]

/-- Each node counts once in numbers without repetition. -/
theorem sum_massAt_le (h : ids.Nodup) : (ids.map a.massAt).sum ≤ a.mass := by
  rw [mass, ← map_massAt_range, ← List.sum_toFinset _ h, ← List.sum_toFinset _ List.nodup_range]
  refine Finset.sum_le_sum_of_ne_zero fun i _ hi => ?_
  rw [List.mem_toFinset, List.mem_range]
  -- A number that is no node counts nothing, and so is not among those that do.
  by_contra hsize
  refine hi ?_
  rw [massAt, Array.getElem?_eq_none (by omega)]
  rfl

/-- **A document shows no more text than it has.** -/
theorem sum_weight_visibleTexts_le (a : Arena) :
    (a.visibleTexts.map weight).sum ≤ a.mass := by
  refine (sum_weight_filterMap_le (fun i text h => ?_) _).trans
    (sum_massAt_le (nodup_descendants a))
  split at h
  · exact absurd h (by simp)
  · exact weight_of_text? h

end PageHarvest.Html.Arena
