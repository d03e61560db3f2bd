import PageHarvest.Proofs.Phrase.Collapse
import Mathlib.Data.List.PeriodicityLemma

/-!
# Copies of one phrase

A phrase in which nothing stands twice, repeated any number of times, collapses to the phrase
(`collapse_copies`).  What a scan finds at the front need not be the phrase itself, but it is always
some copies of it: an echo of another length, read modulo the length of the phrase, is an echo in the
phrase (`exists_echoAt_of_shift`, `dvd_of_echoAt_copies`).  So a scan turns copies into fewer copies,
and leaves at least one (`Scan.exists_copies`).
-/

namespace PageHarvest.Phrase

variable {α : Type} {bound k n : Nat} {x ts out : List α}

/-! ### Copies -/

theorem copies_one (x : List α) : copies 1 x = x := by
  rw [copies_succ]
  exact List.append_nil x

theorem copies_add (m k : Nat) (x : List α) : copies (m + k) x = copies m x ++ copies k x := by
  unfold copies
  rw [← List.flatten_append, List.replicate_append_replicate]

theorem copies_copies (m k : Nat) (x : List α) : copies m (copies k x) = copies (m * k) x := by
  induction m with
  | zero => rw [Nat.zero_mul]; rfl
  | succ m ih => rw [copies_succ, ih, Nat.succ_mul, Nat.add_comm, copies_add]

/-- Copies that are cut between two of them. -/
theorem eq_copies_of_append {u v : List α} {a : Nat} (h : u ++ v = copies k x) (ha : a ≤ k)
    (hlength : u.length = a * x.length) : u = copies a x ∧ v = copies (k - a) x := by
  have hcut : u ++ v = copies a x ++ copies (k - a) x := by
    rw [h, ← copies_add]
    congr 1
    omega
  exact List.append_inj hcut (by rw [length_copies, hlength])

theorem hasPeriod_copies (k : Nat) (x : List α) : (copies k x).HasPeriod x.length := by
  cases k with
  | zero => exact List.hasPeriod_empty _
  | succ k =>
    have hfront : (copies (k + 1) x).take x.length = x := by
      rw [copies_succ, List.take_left]
    have hmore : x ++ copies (k + 1) x = copies (k + 1) x ++ x := by
      rw [← copies_succ, copies_add (k + 1) 1, copies_one]
    unfold List.HasPeriod
    rw [hfront, hmore]
    exact List.prefix_append _ _

/-- The tokens of copies are those of the phrase, round and round. -/
theorem getElem?_copies {i : Nat} (h : i < k * x.length) :
    (copies k x)[i]? = x[i % x.length]? := by
  cases k with
  | zero => omega
  | succ k =>
    have hpos : 0 < x.length := Nat.pos_of_mul_pos_left (Nat.zero_lt_of_lt h)
    rw [← length_copies] at h
    rw [← (hasPeriod_copies (k + 1) x).getElem?_mod x.length i _ h, copies_succ,
      List.getElem?_append_left (Nat.mod_lt i hpos)]

/-! ### Echoes of other lengths -/

theorem echoAt_iff_getElem? {i : Nat} :
    EchoAt ts i n ↔ i + 2 * n ≤ ts.length ∧ ∀ j < n, ts[i + j]? = ts[i + n + j]? := by
  unfold EchoAt
  apply and_congr_right
  intro _
  constructor
  · intro h j hj
    have hj' := congrArg (·[j]?) h
    simpa only [List.getElem?_take_of_lt hj, List.getElem?_drop] using hj'
  · intro h
    apply List.ext_getElem?
    intro j
    by_cases hj : j < n
    · rw [List.getElem?_take_of_lt hj, List.getElem?_take_of_lt hj, List.getElem?_drop,
        List.getElem?_drop, h j hj]
    · rw [List.getElem?_take_eq_none (by omega), List.getElem?_take_eq_none (by omega)]

/-- A phrase that agrees at the front with itself shifted round holds an echo. -/
theorem exists_echoAt_of_shift {r : Nat} (hpos : 0 < r) (hr : r < x.length)
    (h : ∀ i < r, x[i]? = x[(i + r) % x.length]?) :
    ∃ i n, 1 ≤ n ∧ n ≤ x.length ∧ EchoAt x i n := by
  -- Up to the end of the phrase the shift goes `r` places on, behind it `d` places back.
  obtain ⟨d, hd⟩ : ∃ d, x.length = r + d := ⟨x.length - r, by omega⟩
  have hon : ∀ j < r, j < d → x[j]? = x[j + r]? := by
    intro j hjr hjd
    rw [h j hjr, Nat.mod_eq_of_lt (by omega)]
  have hback : ∀ j, j + d < r → x[j + d]? = x[j]? := by
    intro j hj
    have hround : (j + d + r) % x.length = j := by
      rw [hd, Nat.add_assoc, Nat.add_comm d r, Nat.add_mod_right, Nat.mod_eq_of_lt (by omega)]
    rw [h (j + d) hj, hround]
  by_cases hhalf : r ≤ d
  · -- The shift stays within the phrase: `r` tokens and the next `r` ones agree.
    refine ⟨0, r, hpos, by omega, echoAt_iff_getElem?.2 ⟨by omega, ?_⟩⟩
    intro j hj
    rw [Nat.zero_add, Nat.zero_add, Nat.add_comm r j]
    exact hon j hj (by omega)
  · by_cases htwice : 2 * d ≤ r
    · -- The tokens in front repeat after `d` places, and do so twice.
      refine ⟨0, d, by omega, by omega, echoAt_iff_getElem?.2 ⟨by omega, ?_⟩⟩
      intro j hj
      rw [Nat.zero_add, Nat.zero_add, Nat.add_comm d j]
      exact (hback j (by omega)).symm
    · -- The `r - d` tokens in front stand behind the first `d` ones, and again behind the first `r`.
      refine ⟨d, r - d, by omega, by omega, echoAt_iff_getElem?.2 ⟨by omega, ?_⟩⟩
      intro j hj
      have hsum : d + (r - d) + j = j + r := by omega
      rw [hsum, Nat.add_comm d j, hback j (by omega), hon j (by omega) (by omega)]

/-- **An echo in front of copies is made of copies.** -/
theorem dvd_of_echoAt_copies (nonempty : 1 ≤ x.length) (short : x.length ≤ bound)
    (hx : IsEcholess bound x) (h : EchoAt (copies k x) 0 n) : x.length ∣ n := by
  obtain ⟨hroom, htokens⟩ := echoAt_iff_getElem?.1 h
  rw [length_copies] at hroom
  by_contra hdvd
  have hpos : 0 < n % x.length := Nat.pos_of_ne_zero fun hzero =>
    hdvd (Nat.dvd_of_mod_eq_zero hzero)
  have hr : n % x.length < x.length := Nat.mod_lt n nonempty
  have hshift : ∀ i < n % x.length, x[i]? = x[(i + n % x.length) % x.length]? := by
    intro i hi
    have hin : i < n := Nat.lt_of_lt_of_le hi (Nat.mod_le n x.length)
    have hecho := htokens i hin
    rw [Nat.zero_add, Nat.zero_add, Nat.add_comm n i] at hecho
    calc x[i]? = x[i % x.length]? := by rw [Nat.mod_eq_of_lt (by omega)]
      _ = (copies k x)[i]? := (getElem?_copies (by omega)).symm
      _ = (copies k x)[i + n]? := hecho
      _ = x[(i + n) % x.length]? := getElem?_copies (by omega)
      _ = x[(i + n % x.length) % x.length]? := by rw [Nat.add_mod_mod]
  obtain ⟨i, m, hm, hle, hecho⟩ := exists_echoAt_of_shift hpos hr hshift
  exact hx i m hm (hle.trans short) hecho

/-! ### Collapsing copies -/

/-- **A scan of copies leaves copies**: at least one, and fewer if there were several. -/
theorem Scan.exists_copies (nonempty : 1 ≤ x.length) (short : x.length ≤ bound)
    (hx : IsEcholess bound x) (h : Scan bound ts out) (hts : ts = copies k x) :
    ∃ j, out = copies j x ∧ j ≤ k ∧ (1 ≤ k → 1 ≤ j) ∧ (2 ≤ k → j < k) := by
  induction h generalizing k with
  | done =>
    have hlength := congrArg List.length hts
    rw [length_copies, List.length_nil] at hlength
    obtain rfl : k = 0 := by
      rcases Nat.mul_eq_zero.1 hlength.symm with hk | hzero
      · exact hk
      · omega
    exact ⟨0, rfl, by omega, by omega, by omega⟩
  | @token t ts out lone further ih =>
    cases k with
    | zero => exact absurd hts (by simp [copies])
    | succ k =>
      cases k with
      | zero =>
        rw [Nat.zero_add, copies_one] at hts
        have hsame := (Scan.token t lone further).eq_of_isEcholess (hts ▸ hx)
        exact ⟨1, by rw [copies_one, hsame, hts], by omega, by omega, by omega⟩
      | succ k =>
        -- The phrase itself stands twice, so that this token cannot have been passed over.
        have hecho := echoAt_copies k x []
        rw [List.append_nil, ← hts] at hecho
        exact absurd hecho (lone x.length nonempty short)
  | @phrase m y rest out hy _ further ih =>
    have hecho := echoAt_copies m y rest
    rw [hts] at hecho
    obtain ⟨a, ha⟩ := dvd_of_echoAt_copies nonempty short hx hecho
    have hroom := congrArg List.length hts
    rw [List.length_append, length_copies, length_copies, ha] at hroom
    have hfew : (m + 2) * a ≤ k := by
      apply Nat.le_of_mul_le_mul_right _ nonempty
      rw [Nat.mul_assoc, Nat.mul_comm a]
      omega
    have hone : 1 ≤ a := by
      rcases Nat.eq_zero_or_pos a with rfl | hpos
      · omega
      · exact hpos
    have htwo : 2 * a ≤ (m + 2) * a := Nat.mul_le_mul_right a (by omega)
    -- Both the phrase and what stands behind its copies can only be copies of `x`.
    have hphrase : y = copies a x := by
      have hfront : y ++ (copies (m + 1) y ++ rest) = copies k x := by
        rw [← List.append_assoc, ← copies_succ, hts]
      exact (eq_copies_of_append hfront (by omega) (by rw [ha, Nat.mul_comm])).1
    have hrest : rest = copies (k - (m + 2) * a) x := by
      have hcopied : (copies (m + 2) y).length = (m + 2) * a * x.length := by
        rw [hphrase, copies_copies, length_copies]
      exact (eq_copies_of_append hts hfew hcopied).2
    obtain ⟨j, hj, hle, -, -⟩ := ih hrest
    exact ⟨a + j, by rw [hj, copies_add, ← hphrase], by omega, by omega, by omega⟩

variable [DecidableEq α]

/-- **Any number of copies becomes one.** -/
theorem collapse_copies (nonempty : 1 ≤ x.length) (short : x.length ≤ bound)
    (hx : IsEcholess bound x) (hk : 1 ≤ k) : collapse bound (copies k x) = x := by
  induction k using Nat.strong_induction_on with
  | _ k ih =>
    rcases Nat.lt_or_eq_of_le hk with htwo | rfl
    · obtain ⟨j, hj, -, hone, hfewer⟩ :=
        (scan_collapsePass bound (copies k x)).exists_copies nonempty short hx rfl
      have hlt : j < k := hfewer htwo
      have hlength : ¬(copies j x).length = (copies k x).length := by
        rw [length_copies, length_copies]
        exact Nat.ne_of_lt (Nat.mul_lt_mul_of_pos_right hlt nonempty)
      rw [collapse, hj]
      simp only [if_neg hlength]
      exact ih j hlt (hone hk)
    · rw [copies_one]
      exact collapse_of_isEcholess hx

end PageHarvest.Phrase
