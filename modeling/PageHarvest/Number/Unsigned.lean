import PageHarvest.Number.Bits

/-!
# Reading unsigned numbers

Decimal digits, with a plus sign or without, for a number below a bound.  The first character that
is no digit, or that takes the number beyond the bound, tells what is wrong.
-/

namespace PageHarvest.Number

/-- Why a text is no unsigned number. -/
inductive UnsignedError
  | empty | invalidDigit | tooLarge
  deriving DecidableEq, Repr

/-- The wording. -/
def UnsignedError.message : UnsignedError → String
  | empty => "cannot parse integer from empty string"
  | invalidDigit => "invalid digit found in string"
  | tooLarge => "number too large to fit in target type"

/-- The number that digits stand for which follow those of `n`. -/
def readDigits (bound n : Nat) : List Char → Except UnsignedError Nat
  | [] => .ok n
  | c :: s =>
    if !c.isDigit then .error .invalidDigit
    else
      let m := 10 * n + (c.toNat - '0'.toNat)
      if m < bound then readDigits bound m s else .error .tooLarge

/-- The number below `bound` that the text stands for. -/
def readUnsigned (bound : Nat) (s : List Char) : Except UnsignedError Nat :=
  match s with
  | [] => .error .empty
  | ['+'] => .error .invalidDigit
  | '+' :: ds => readDigits bound 0 ds
  | ds => readDigits bound 0 ds

end PageHarvest.Number
