import PageHarvest.Phrase.Collapse
import PageHarvest.Phrase.Echo
import Mathlib.Data.List.Basic

/-!
# Passes as scans

`Scan` lists what a pass does from left to right: it keeps a token where no phrase stands twice, and
drops all but one of the copies where one does.  Which of several such phrases it takes is left open,
since nothing that follows rests on its being the longest.  That a pass is a scan is
`scan_collapsePass`; a scan that drops nothing has looked at each place in vain
(`Scan.isEcholess_of_length_eq`).
-/

namespace PageHarvest.Phrase

variable {α : Type} {bound k n : Nat} {x as bs ts out : List α}

/-! ### Copies and echoes -/

theorem copies_succ (k : Nat) (x : List α) : copies (k + 1) x = x ++ copies k x := by
  rw [copies, List.replicate_succ, List.flatten_cons, ← copies]

theorem length_copies (k : Nat) (x : List α) : (copies k x).length = k * x.length := by
  induction k with
  | zero => simp [copies]
  | succ k ih => rw [copies_succ, List.length_append, ih, Nat.succ_mul, Nat.add_comm]

/-- What it is for a phrase to stand twice at the front. -/
theorem echoAt_zero_iff :
    EchoAt ts 0 n ↔ 2 * n ≤ ts.length ∧ ts.take n = (ts.drop n).take n := by
  unfold EchoAt
  rw [Nat.zero_add, Nat.zero_add, List.drop_zero]

/-- Whether a phrase stands twice further on is not up to the first token. -/
theorem echoAt_cons_succ (t : α) (ts : List α) (i n : Nat) :
    EchoAt (t :: ts) (i + 1) n ↔ EchoAt ts i n := by
  have hplace : i + 1 + 2 * n ≤ ts.length + 1 ↔ i + 2 * n ≤ ts.length := by omega
  have hnext : i + 1 + n = i + n + 1 := by omega
  unfold EchoAt
  rw [List.length_cons, hplace, hnext, List.drop_succ_cons, List.drop_succ_cons]

/-- A phrase that stands at the front at least twice. -/
theorem echoAt_copies (k : Nat) (x rest : List α) :
    EchoAt (copies (k + 2) x ++ rest) 0 x.length := by
  have htwice : copies (k + 2) x ++ rest = x ++ (x ++ (copies k x ++ rest)) := by
    rw [copies_succ, copies_succ, List.append_assoc, List.append_assoc]
  rw [htwice, echoAt_zero_iff]
  constructor
  · rw [List.length_append, List.length_append]
    omega
  · rw [List.take_left, List.drop_left, List.take_left]

/-- No phrase stands twice in a row if none does so at the front and none does so further on. -/
theorem IsEcholess.cons {t : α} (hfront : ∀ n, 1 ≤ n → n ≤ bound → ¬EchoAt (t :: ts) 0 n)
    (h : IsEcholess bound ts) : IsEcholess bound (t :: ts) := by
  intro i n hpos hbound
  cases i with
  | zero => exact hfront n hpos hbound
  | succ i =>
    rw [echoAt_cons_succ]
    exact h i n hpos hbound

theorem IsEcholess.tail {t : α} (h : IsEcholess bound (t :: ts)) : IsEcholess bound ts := by
  intro i n hpos hbound
  rw [← echoAt_cons_succ t]
  exact h (i + 1) n hpos hbound

/-! ### Scans -/

/-- What is left of some tokens when they are gone through from left to right. -/
inductive Scan (bound : Nat) : List α → List α → Prop
  | done : Scan bound [] []
  | token (t : α) {ts out : List α} (lone : ∀ n, 1 ≤ n → n ≤ bound → ¬EchoAt (t :: ts) 0 n)
    (further : Scan bound ts out) : Scan bound (t :: ts) (t :: out)
  | phrase (k : Nat) (x : List α) {rest out : List α} (nonempty : 1 ≤ x.length)
    (short : x.length ≤ bound) (further : Scan bound rest out) :
    Scan bound (copies (k + 2) x ++ rest) (x ++ out)

theorem Scan.length_le (h : Scan bound ts out) : out.length ≤ ts.length := by
  induction h with
  | done => exact Nat.le_refl _
  | token t lone further ih => exact Nat.succ_le_succ ih
  | phrase k x nonempty short further ih =>
    rw [List.length_append, List.length_append, copies_succ, List.length_append]
    omega

/-- **A scan that drops nothing has found nothing**, and it has looked everywhere. -/
theorem Scan.isEcholess_of_length_eq (h : Scan bound ts out) (hlength : out.length = ts.length) :
    IsEcholess bound ts := by
  induction h with
  | done =>
    intro i n hpos _ hecho
    have hplace := hecho.1
    rw [List.length_nil] at hplace
    omega
  | token t lone further ih =>
    exact IsEcholess.cons lone (ih (Nat.succ.inj hlength))
  | phrase k x nonempty short further ih =>
    -- A scan that drops a copy has lost its tokens for good.
    have hle := further.length_le
    rw [List.length_append, List.length_append, length_copies, Nat.add_mul, Nat.mul_comm 2] at hlength
    omega

/-- Where no phrase stands twice there is nothing to drop. -/
theorem Scan.eq_of_isEcholess (h : Scan bound ts out) (hts : IsEcholess bound ts) : out = ts := by
  induction h with
  | done => rfl
  | token t lone further ih => rw [ih hts.tail]
  | phrase k x nonempty short further ih =>
    exact absurd (echoAt_copies k x _) (hts 0 x.length nonempty short)

/-! ### A pass -/

variable [DecidableEq α]

/-- The comparison token by token is one of the first parts, both of which have to be there in full.
-/
theorem agreeFor_eq_true_iff :
    agreeFor n as bs = true ↔ n ≤ as.length ∧ n ≤ bs.length ∧ as.take n = bs.take n := by
  fun_induction agreeFor n as bs with
  | case1 => simp
  | case2 n a as b bs ih =>
    rw [Bool.and_eq_true, decide_eq_true_eq, ih]
    simp only [List.length_cons, Nat.succ_le_succ_iff, List.take_succ_cons, List.cons.injEq]
    tauto
  | case3 n as bs hcons =>
    have hshort : ¬(n + 1 ≤ as.length ∧ n + 1 ≤ bs.length) := by
      rintro ⟨has, hbs⟩
      obtain ⟨a, as, rfl⟩ := List.exists_cons_of_length_pos (Nat.lt_of_lt_of_le n.succ_pos has)
      obtain ⟨b, bs, rfl⟩ := List.exists_cons_of_length_pos (Nat.lt_of_lt_of_le n.succ_pos hbs)
      exact hcons a as b bs rfl rfl
    constructor
    · intro h
      exact absurd h (by simp)
    · rintro ⟨has, hbs, -⟩
      exact absurd ⟨has, hbs⟩ hshort

/-- The comparison with what comes behind it finds echoes at the front. -/
theorem agreeFor_drop_iff : agreeFor n ts (ts.drop n) = true ↔ EchoAt ts 0 n := by
  have hplace : n ≤ ts.length ∧ n ≤ ts.length - n ↔ 2 * n ≤ ts.length := by omega
  rw [agreeFor_eq_true_iff, echoAt_zero_iff, List.length_drop, ← and_assoc, hplace]

/-- What the search finds is an echo. -/
theorem echoAt_longestEcho (h : longestEcho n ts = k + 1) : EchoAt ts 0 (k + 1) := by
  -- From the longest phrase down, as the search goes.
  induction n with
  | zero => exact absurd h (by simp [longestEcho])
  | succ n ih =>
    unfold longestEcho at h
    split at h
    · next hagree =>
      rw [← h]
      exact agreeFor_drop_iff.1 hagree
    · exact ih h

/-- Where the search finds none, there is none as short as that. -/
theorem not_echoAt_of_longestEcho (h : longestEcho n ts = 0) (hpos : 1 ≤ k) (hk : k ≤ n) :
    ¬EchoAt ts 0 k := by
  induction n with
  | zero => omega
  | succ n ih =>
    unfold longestEcho at h
    split at h
    · exact absurd h (by simp)
    · next hagree =>
      rcases Nat.lt_or_eq_of_le hk with hlt | rfl
      · exact ih h (Nat.le_of_lt_succ hlt)
      · rwa [agreeFor_drop_iff] at hagree

/-- One copy more is dropped with the others. -/
theorem dropCopies_append (hx : 1 ≤ x.length) (ts : List α) :
    dropCopies x (x ++ ts) = dropCopies x ts := by
  have hagree : agreeFor x.length x (x ++ ts) = true := by
    rw [agreeFor_eq_true_iff, List.length_append, List.take_length, List.take_left]
    exact ⟨Nat.le_refl _, Nat.le_add_right _ _, rfl⟩
  have hne : x ≠ [] := List.ne_nil_of_length_pos hx
  rw [dropCopies, if_pos ⟨hne, hagree, by simp⟩, List.drop_left]

/-- What is dropped are copies of the phrase. -/
theorem exists_copies (x ts : List α) : ∃ k, ts = copies k x ++ dropCopies x ts := by
  fun_induction dropCopies x ts with
  | case1 ts h ih =>
    obtain ⟨-, hagree, -⟩ := h
    obtain ⟨k, hk⟩ := ih
    have hcopy : ts.take x.length = x := by
      rw [← (agreeFor_eq_true_iff.1 hagree).2.2, List.take_length]
    refine ⟨k + 1, ?_⟩
    rw [copies_succ, List.append_assoc, ← hk]
    conv_lhs => rw [← List.take_append_drop x.length ts, hcopy]
  | case2 ts h => exact ⟨0, rfl⟩

/-- An echo at the front is part of a row of copies, of which all are dropped but the first. -/
theorem exists_copies_of_echoAt (hn : 1 ≤ n) (h : EchoAt ts 0 n) :
    ∃ k, ts = copies (k + 2) (ts.take n) ++ dropCopies (ts.take n) (ts.drop n) := by
  obtain ⟨hroom, hecho⟩ := echoAt_zero_iff.1 h
  have hlength : (ts.take n).length = n := by
    rw [List.length_take]
    omega
  have hagain : ts.drop n = ts.take n ++ (ts.drop n).drop n := by
    rw [hecho, List.take_append_drop]
  -- The second copy is dropped like those after it.
  have hdropped : dropCopies (ts.take n) (ts.drop n)
      = dropCopies (ts.take n) ((ts.drop n).drop n) := by
    conv_lhs => rw [hagain]
    exact dropCopies_append (by omega) _
  obtain ⟨k, hk⟩ := exists_copies (ts.take n) ((ts.drop n).drop n)
  refine ⟨k, ?_⟩
  calc ts = ts.take n ++ ts.drop n := (List.take_append_drop n ts).symm
    _ = ts.take n ++ (ts.take n ++
          (copies k (ts.take n) ++ dropCopies (ts.take n) (ts.drop n))) := by
      rw [hdropped, ← hk, ← hagain]
    _ = copies (k + 2) (ts.take n) ++ dropCopies (ts.take n) (ts.drop n) := by
      rw [copies_succ, copies_succ, List.append_assoc, List.append_assoc]

/-- **A pass is a scan.** -/
theorem scan_collapsePass (bound : Nat) (tokens : List α) :
    Scan bound tokens (collapsePass bound tokens) := by
  fun_induction collapsePass bound tokens with
  | case1 => exact .done
  | case2 t ts h ih =>
    refine .token t ?_ ih
    intro n hpos hbound hecho
    -- An echo leaves room for itself, so that the pass has looked for it.
    have hroom := (echoAt_zero_iff.1 hecho).1
    rw [List.length_cons] at hroom
    exact not_echoAt_of_longestEcho h hpos (by omega) hecho
  | case3 t ts n h phrase ih =>
    have hecho := echoAt_longestEcho h
    have hroom := (echoAt_zero_iff.1 hecho).1
    have hshort := longestEcho_le (min bound ((ts.length + 1) / 2)) (t :: ts)
    have hlength : phrase.length = n + 1 := by
      rw [List.length_take]
      omega
    -- The row has the first copy, its echo, and perhaps more of them.
    obtain ⟨k, hk⟩ := exists_copies_of_echoAt n.succ_pos hecho
    rw [List.drop_succ_cons] at hk
    rw [hk]
    exact .phrase k phrase (by omega) (by omega) ih

end PageHarvest.Phrase
