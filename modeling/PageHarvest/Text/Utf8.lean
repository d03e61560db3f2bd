import PageHarvest.Text.Symbol

/-!
# UTF-8

`decode` reads bytes as characters.  A lead byte and as many of the bytes it calls for as are right
make one gap when the character is not complete; any other byte is a gap of its own.
-/

namespace PageHarvest.Text.Utf8

/-- What a lead byte calls for: its bits, the number of bytes after it, and the bounds for the first
of these. -/
def lead? (b : Nat) : Option (Nat × Nat × Nat × Nat) :=
  -- The bounds leave out spellings that are too long, surrogates, and what is no code point.
  if 0xC2 ≤ b ∧ b ≤ 0xDF then some (b - 0xC0, 1, 0x80, 0xBF)
  else if b = 0xE0 then some (0, 2, 0xA0, 0xBF)
  else if b = 0xED then some (0xD, 2, 0x80, 0x9F)
  else if 0xE1 ≤ b ∧ b ≤ 0xEF then some (b - 0xE0, 2, 0x80, 0xBF)
  else if b = 0xF0 then some (0, 3, 0x90, 0xBF)
  else if 0xF1 ≤ b ∧ b ≤ 0xF3 then some (b - 0xF0, 3, 0x80, 0xBF)
  else if b = 0xF4 then some (4, 3, 0x80, 0x8F)
  else none

/-- The rest of a character: `bits` are those read so far, `n` bytes are still called for, and the
next one has the bounds `low` and `high`. -/
def complete (bits low high : Nat) : Nat → List UInt8 → Symbol × List UInt8
  | 0, bs => (some (Char.ofNat bits), bs)
  | _ + 1, [] => (none, [])
  | n + 1, b :: bs =>
    if low ≤ b.toNat ∧ b.toNat ≤ high then complete (64 * bits + b.toNat % 64) 0x80 0xBF n bs
    else (none, b :: bs)

theorem length_complete_le (bits low high n : Nat) (bs : List UInt8) :
    (complete bits low high n bs).2.length ≤ bs.length := by
  induction n generalizing bits low high bs with
  | zero => simp [complete]
  | succ n ih =>
    cases bs with
    | nil => simp [complete]
    | cons b bs =>
      rw [complete]; split
      · exact Nat.le_succ_of_le (ih _ _ _ _)
      · exact Nat.le_refl _

/-- The symbol that the byte `b` and those after it begin with, and the bytes after the symbol. -/
def decodeOne (b : UInt8) (bs : List UInt8) : Symbol × List UInt8 :=
  if b.toNat < 0x80 then (some (Char.ofNat b.toNat), bs)
  else match lead? b.toNat with
    | some (bits, n, low, high) => complete bits low high n bs
    | none => (none, bs)

theorem length_decodeOne_le (b : UInt8) (bs : List UInt8) :
    (decodeOne b bs).2.length ≤ bs.length := by
  unfold decodeOne
  split
  · exact Nat.le_refl _
  · split
    · exact length_complete_le _ _ _ _ _
    · exact Nat.le_refl _

/-- The symbols that the bytes spell. -/
def decode : List UInt8 → List Symbol
  | [] => []
  | b :: bs => (decodeOne b bs).1 :: decode (decodeOne b bs).2
termination_by bs => bs.length
decreasing_by
  have := length_decodeOne_le b bs
  simp only [List.length_cons]; omega

/-- The bytes that spell a text. -/
def encode (s : List Char) : List UInt8 := s.flatMap String.utf8EncodeChar

end PageHarvest.Text.Utf8
