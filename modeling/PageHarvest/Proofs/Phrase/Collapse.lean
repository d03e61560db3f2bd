import PageHarvest.Proofs.Phrase.Scan
import Mathlib.Logic.Relation

/-!
# What collapsing leaves

Collapsing drops one of two copies of a phrase that stand next to each other, any number of times
(`drops_collapse`), until no phrase stands twice (`isEcholess_collapse`).  What such a step leaves alone
is left alone by collapsing: the order of the tokens (`collapse_sublist`), the first token of each kind
(`eraseDups_collapse`), the tokens at both ends (`head?_collapse`, `getLast?_collapse`); and it brings no
tokens together that were apart (`neighbours_collapse_subset`).
-/

namespace PageHarvest.Phrase

open Relation

variable {α β : Type} {bound : Nat} {ts out : List α}

/-! ### Dropping a copy -/

/-- A copy is dropped in the same way behind other tokens. -/
theorem Drops.append_left (before : List α) (h : Drops bound ts out) :
    Drops bound (before ++ ts) (before ++ out) := by
  obtain ⟨u, x, v, nonempty, short⟩ := h
  have hcopy := Drops.copy (before ++ u) x v nonempty short
  simpa only [List.append_assoc] using hcopy

/-- Copies are dropped in the same way behind other tokens. -/
theorem reflTransGen_append_left (before : List α) (h : ReflTransGen (Drops bound) ts out) :
    ReflTransGen (Drops bound) (before ++ ts) (before ++ out) :=
  h.lift (before ++ ·) fun _ _ hstep => hstep.append_left before

/-- All copies of a phrase but one are dropped, one at a time. -/
theorem reflTransGen_copies (k : Nat) {x : List α} (nonempty : 1 ≤ x.length)
    (short : x.length ≤ bound) (rest : List α) :
    ReflTransGen (Drops bound) (copies (k + 1) x ++ rest) (x ++ rest) := by
  induction k with
  | zero =>
    rw [copies_succ]
    show ReflTransGen (Drops bound) (x ++ [] ++ rest) (x ++ rest)
    rw [List.append_nil]
  | succ k ih =>
    have hcopy := Drops.copy [] x (copies k x ++ rest) nonempty short
    simp only [List.nil_append, List.append_assoc] at hcopy
    rw [copies_succ, List.append_assoc] at ih
    rw [copies_succ, copies_succ, List.append_assoc, List.append_assoc]
    exact ih.head hcopy

/-- What a scan does is to drop copies, one after the other. -/
theorem Scan.drops (h : Scan bound ts out) : ReflTransGen (Drops bound) ts out := by
  induction h with
  | done => exact .refl
  | token t lone further ih => exact reflTransGen_append_left [t] ih
  -- First the copies, and then what comes behind them.
  | phrase k x nonempty short further ih =>
    exact (reflTransGen_copies (k + 1) nonempty short _).trans (reflTransGen_append_left x ih)

/-- What no step changes, no number of steps changes. -/
theorem eq_of_reflTransGen (f : List α → β) (hf : ∀ as bs, Drops bound as bs → f bs = f as)
    (h : ReflTransGen (Drops bound) ts out) : f out = f ts := by
  induction h with
  | refl => rfl
  | tail _ hstep ih => exact (hf _ _ hstep).trans ih

theorem Drops.sublist (h : Drops bound ts out) : out.Sublist ts := by
  obtain ⟨u, x, v, -, -⟩ := h
  exact (List.sublist_append_left (u ++ x) x).append_right v

/-- The first token stays: if it is in a copy that goes, it is in the other one as well. -/
theorem Drops.head? (h : Drops bound ts out) : out.head? = ts.head? := by
  obtain ⟨u, x, v, nonempty, -⟩ := h
  -- With nothing in front of it, the phrase itself begins the tokens.
  obtain ⟨a, x, rfl⟩ := List.exists_cons_of_length_pos nonempty
  cases u with
  | nil => rfl
  | cons b u => rfl

theorem Drops.getLast? (h : Drops bound ts out) : out.getLast? = ts.getLast? := by
  obtain ⟨u, x, v, nonempty, -⟩ := h
  have hlast : x.getLast? = some (x.getLast (List.ne_nil_of_length_pos nonempty)) :=
    List.getLast?_eq_some_getLast _
  simp only [List.getLast?_append, hlast, Option.some_or]

/-- The neighbours on both sides of a token. -/
theorem neighbours_append_cons (u : List α) (a : α) (v : List α) :
    neighbours (u ++ a :: v) = neighbours (u ++ [a]) ++ neighbours (a :: v) := by
  unfold neighbours
  induction u with
  | nil => rfl
  | cons b u ih =>
    cases u with
    | nil => rfl
    | cons d u => simpa using ih

/-- A copy that goes brings no tokens together that were apart. -/
theorem Drops.neighbours_subset (h : Drops bound ts out) : neighbours out ⊆ neighbours ts := by
  obtain ⟨u, x, v, nonempty, -⟩ := h
  -- The neighbours are told apart by the last token of the phrase: up to it the tokens are those in
  -- front of the second copy, from it on they are those behind the first.
  obtain ⟨w, a, rfl⟩ : ∃ w a, x = w ++ [a] :=
    ⟨x.dropLast, _, (List.dropLast_append_getLast (List.ne_nil_of_length_pos nonempty)).symm⟩
  have hone : u ++ (w ++ [a]) ++ v = (u ++ w) ++ a :: v := by simp
  have htwo : u ++ (w ++ [a]) ++ (w ++ [a]) ++ v = (u ++ w) ++ a :: (w ++ a :: v) := by simp
  have hsecond : neighbours (a :: (w ++ a :: v))
      = neighbours (a :: (w ++ [a])) ++ neighbours (a :: v) := neighbours_append_cons (a :: w) a v
  rw [hone, htwo, neighbours_append_cons (u ++ w) a v,
    neighbours_append_cons (u ++ w) a (w ++ a :: v), hsecond]
  apply List.append_subset.2
  refine ⟨List.subset_append_left _ _, ?_⟩
  intro p hp
  exact List.mem_append_right _ (List.mem_append_right _ hp)

theorem sublist_of_reflTransGen (h : ReflTransGen (Drops bound) ts out) : out.Sublist ts := by
  induction h with
  | refl => exact List.Sublist.refl _
  | tail _ hstep ih => exact hstep.sublist.trans ih

theorem neighbours_subset_of_reflTransGen (h : ReflTransGen (Drops bound) ts out) :
    neighbours out ⊆ neighbours ts := by
  induction h with
  | refl => exact List.Subset.refl _
  | tail _ hstep ih => exact List.Subset.trans hstep.neighbours_subset ih

/-! ### Collapsing -/

variable [DecidableEq α]

/-- A pass over what is left drops nothing. -/
theorem length_collapsePass_collapse (bound : Nat) (tokens : List α) :
    (collapsePass bound (collapse bound tokens)).length = (collapse bound tokens).length := by
  fun_induction collapse bound tokens with
  | case1 tokens once h => exact h
  | case2 tokens once h ih => exact ih

/-- **No phrase is left standing twice in a row.** -/
theorem isEcholess_collapse (bound : Nat) (tokens : List α) :
    IsEcholess bound (collapse bound tokens) :=
  (scan_collapsePass bound _).isEcholess_of_length_eq (length_collapsePass_collapse bound tokens)

theorem collapse_of_isEcholess (h : IsEcholess bound ts) : collapse bound ts = ts := by
  have hpass : collapsePass bound ts = ts := (scan_collapsePass bound ts).eq_of_isEcholess h
  rw [collapse, hpass]
  exact if_pos rfl

/-- What is left has nothing more to collapse. -/
theorem collapse_collapse (bound : Nat) (tokens : List α) :
    collapse bound (collapse bound tokens) = collapse bound tokens :=
  collapse_of_isEcholess (isEcholess_collapse bound tokens)

/-- **Collapsing drops copies of phrases**, of which another one stands next to it. -/
theorem drops_collapse (bound : Nat) (tokens : List α) :
    ReflTransGen (Drops bound) tokens (collapse bound tokens) := by
  fun_induction collapse bound tokens with
  | case1 tokens once h => exact .refl
  | case2 tokens once h ih => exact (scan_collapsePass bound tokens).drops.trans ih

/-- Collapsing only drops tokens. -/
theorem collapse_sublist (bound : Nat) (tokens : List α) :
    (collapse bound tokens).Sublist tokens :=
  sublist_of_reflTransGen (drops_collapse bound tokens)

theorem head?_collapse (bound : Nat) (tokens : List α) :
    (collapse bound tokens).head? = tokens.head? :=
  eq_of_reflTransGen List.head? (fun _ _ h => h.head?) (drops_collapse bound tokens)

theorem getLast?_collapse (bound : Nat) (tokens : List α) :
    (collapse bound tokens).getLast? = tokens.getLast? :=
  eq_of_reflTransGen List.getLast? (fun _ _ h => h.getLast?) (drops_collapse bound tokens)

/-- Tokens that stand next to each other did so before. -/
theorem neighbours_collapse_subset (bound : Nat) (tokens : List α) :
    neighbours (collapse bound tokens) ⊆ neighbours tokens :=
  neighbours_subset_of_reflTransGen (drops_collapse bound tokens)

/-! ### The first token of each kind -/

section Firsts

variable [BEq α] [LawfulBEq α]

omit [DecidableEq α] in
/-- Tokens that stand further to the front do not count among the first of their kind. -/
theorem eraseDups_append_append {u v : List α} (h : ∀ t ∈ v, t ∈ u) (rest : List α) :
    (u ++ (v ++ rest)).eraseDups = (u ++ rest).eraseDups := by
  have hv : v.removeAll u = [] := by simpa [List.removeAll] using h
  have hrest : (v ++ rest).removeAll u = rest.removeAll u := by
    rw [List.removeAll, List.filter_append, ← List.removeAll, hv, List.nil_append, List.removeAll]
  rw [List.eraseDups_append, List.eraseDups_append, hrest]

omit [DecidableEq α] in
/-- A copy has no token that is not in the other one. -/
theorem Drops.eraseDups (h : Drops bound ts out) : out.eraseDups = ts.eraseDups := by
  obtain ⟨u, x, v, -, -⟩ := h
  have hcopy : ∀ t ∈ x, t ∈ u ++ x := fun t ht => List.mem_append_right u ht
  rw [List.append_assoc (u ++ x) x v, eraseDups_append_append hcopy]

/-- Collapsing keeps the first token of each kind. -/
theorem eraseDups_collapse (bound : Nat) (tokens : List α) :
    (collapse bound tokens).eraseDups = tokens.eraseDups :=
  eq_of_reflTransGen List.eraseDups (fun _ _ h => h.eraseDups) (drops_collapse bound tokens)

end Firsts

end PageHarvest.Phrase
