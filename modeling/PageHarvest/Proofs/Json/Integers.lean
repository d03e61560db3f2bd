import PageHarvest.Json.Record
import PageHarvest.Proofs.Json.Writing
import Mathlib.Data.List.Basic
import Mathlib.Tactic.IntervalCases

/-!
# Integers in JSON

An integer is written as a number of the grammar (`isSound_int`) and read back from it
(`asInt?_int`).
-/

namespace PageHarvest.Json

namespace Value

/-- The decimal digits of a number are digits, and there is one at least. -/
theorem isDigits_toDigits (n : Nat) : IsDigits (Nat.toDigits 10 n) :=
  ⟨Nat.toDigits_ne_nil, fun _ => Nat.isDigit_of_mem_toDigits (by decide) (by decide)⟩

/-- No zero stands at the front. -/
theorem head?_toDigits_ne_zero {n : Nat} (h : 0 < n) : (Nat.toDigits 10 n).head? ≠ some '0' := by
  -- By induction on the number without its last digit, which does not change the first one.
  induction n using Nat.strongRecOn with
  | ind n ih =>
    by_cases hlt : n < 10
    · rw [Nat.toDigits_of_lt_base hlt]
      interval_cases n <;> decide
    · rw [Nat.toDigits_of_base_le (by decide) (by omega),
        List.head?_append_of_ne_nil _ Nat.toDigits_ne_nil]
      exact ih (n / 10) (by omega) (by omega)

/-- So they are the whole part of a number of the grammar. -/
theorem isWhole_toDigits (n : Nat) : IsWhole (Nat.toDigits 10 n) := by
  obtain rfl | hpos := Nat.eq_zero_or_pos n
  · exact .zero
  · exact .digits (isDigits_toDigits n) (head?_toDigits_ne_zero hpos)

/-- An integer that is not negative is written in its digits. -/
theorem int_ofNat (n : Nat) : int (.ofNat n) = .number (Nat.toDigits 10 n) := by
  change number (Nat.repr n).toList = _
  rw [Nat.repr_eq_ofList_toDigits, String.toList_ofList]

/-- A negative integer is written with a sign in front of its digits. -/
theorem int_negSucc (n : Nat) : int (.negSucc n) = .number ('-' :: Nat.toDigits 10 (n + 1)) := by
  change number ("-" ++ Nat.repr (n + 1)).toList = _
  rw [String.toList_append, Nat.repr_eq_ofList_toDigits]
  simp

/-- **An integer is written as a number of the grammar.** -/
theorem isSound_int (n : Int) : (int n).IsSound := by
  -- There is neither a fraction nor an exponent, only a sign perhaps.
  have hnumber (sign ds : List Char) (hsign : sign = [] ∨ sign = ['-']) (hds : IsWhole ds) :
      IsNumber (sign ++ ds) := by
    simpa using IsNumber.parts hsign hds .absent .absent
  cases n with
  | ofNat n =>
    rw [int_ofNat]
    exact .number (hnumber [] _ (.inl rfl) (isWhole_toDigits n))
  | negSucc n =>
    rw [int_negSucc]
    exact .number (hnumber ['-'] _ (.inr rfl) (isWhole_toDigits (n + 1)))

/-- Digits are read as the number they stand for. -/
theorem asInt?_digits {ds : List Char} (h : IsDigits ds) :
    (number ds).asInt? = some (Nat.ofDigitChars 10 ds 0) := by
  unfold asInt?
  split
  · next heq =>
    cases heq
    exact absurd (h.2 '-' List.mem_cons_self) (by decide)
  · next heq =>
    cases heq
    exact if_pos (List.all_eq_true.2 h.2)
  · next hnot => exact absurd rfl (hnot ds)

/-- Digits with a sign are read as that number, negated; a zero with a sign would be no integer. -/
theorem asInt?_negative {ds : List Char} (h : IsDigits ds) (hzero : ds ≠ ['0']) :
    (number ('-' :: ds)).asInt? = some (-(Nat.ofDigitChars 10 ds 0 : Int)) := by
  rw [asInt?, if_pos ⟨List.all_eq_true.2 h.2, hzero⟩]

/-- **An integer is read back as itself.** -/
theorem asInt?_int (n : Int) : (int n).asInt? = some n := by
  cases n with
  | ofNat n =>
    rw [int_ofNat, asInt?_digits (isDigits_toDigits n), Nat.ofDigitChars_ten_toDigits]
    rfl
  | negSucc n =>
    have hzero : Nat.toDigits 10 (n + 1) ≠ ['0'] := fun h =>
      head?_toDigits_ne_zero n.succ_pos (by rw [h]; rfl)
    rw [int_negSucc, asInt?_negative (isDigits_toDigits _) hzero, Nat.ofDigitChars_ten_toDigits]
    rfl

end Value

end PageHarvest.Json
