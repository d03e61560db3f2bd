/-!
# Hexadecimal digits

`digit` and `value?` are inverse to each other on lower case digits (`value?_digit`); reading accepts
upper case too.  `padded` writes a number with a fixed number of digits.
-/

namespace PageHarvest.Text.Hex

/-- The value of the last digit of a number. -/
def lastValue (n : Nat) : Fin 16 := Fin.ofNat 16 n

/-- The value of a hexadecimal digit of either case. -/
def value? (c : Char) : Option (Fin 16) :=
  let n := c.toNat
  if 0x30 ≤ n ∧ n ≤ 0x39 then some (lastValue (n - 0x30))
  else if 0x61 ≤ n ∧ n ≤ 0x66 then some (lastValue (n - 0x61 + 10))
  else if 0x41 ≤ n ∧ n ≤ 0x46 then some (lastValue (n - 0x41 + 10))
  else none

/-- The character is a hexadecimal digit. -/
def isDigit (c : Char) : Bool := (value? c).isSome

/-- The digit with this value, in lower case. -/
def digit (n : Fin 16) : Char :=
  if n < 10 then Char.ofNat (0x30 + n) else Char.ofNat (0x61 + (n - 10))

/-- The digit with this value, in upper case. -/
def upperDigit (n : Fin 16) : Char :=
  if n < 10 then Char.ofNat (0x30 + n) else Char.ofNat (0x41 + (n - 10))

/-- The number that a list of digits stands for. -/
def ofDigits (ds : List (Fin 16)) : Nat :=
  ds.foldl (fun n d => 16 * n + d.val) 0

/-- The number that the text stands for if it is a row of digits, at least one of them. -/
def toNat? (s : List Char) : Option Nat :=
  if s.isEmpty then none else (s.mapM value?).map ofDigits

/-- The last `width` digits of a number. -/
def padded (width n : Nat) : List Char :=
  match width with
  | 0 => []
  | width + 1 => padded width (n / 16) ++ [digit (lastValue n)]

theorem value?_digit (n : Fin 16) : value? (digit n) = some n := by
  revert n; decide

theorem value?_upperDigit (n : Fin 16) : value? (upperDigit n) = some n := by
  revert n; decide

theorem mapM_value?_digit (ds : List (Fin 16)) : (ds.map digit).mapM value? = some ds := by
  induction ds with
  | nil => rfl
  | cons d ds ih => simp [value?_digit, ih]

theorem length_padded (width n : Nat) : (padded width n).length = width := by
  induction width generalizing n with
  | zero => rfl
  | succ width ih => simp [padded, ih]

end PageHarvest.Text.Hex
