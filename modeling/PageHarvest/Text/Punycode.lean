/-!
# Punycode

A text in letters, numerals and hyphens that stands for one with characters outside of ASCII.  Those
in ASCII come first.  The others are put in between in the order of their codes, and of their places
where the codes agree; each is a number that counts on from the one before, over all places for a
code and then to the next code.  A number has digits of base 36 with the least first, and ends with a
digit below the threshold of its place; the thresholds follow the numbers already written.

`length_readNumber` says that a number takes up some of the text.
-/

namespace PageHarvest.Text.Punycode

/-! ### Numbers -/

/-- The digit with this value: the letters, then the numerals. -/
def digit (n : Nat) : Char :=
  if n < 26 then Char.ofNat (0x61 + n) else Char.ofNat (0x30 + (n - 26))

/-- The value of a digit of either case. -/
def digitValue? (c : Char) : Option Nat :=
  let n := c.toNat
  if 0x61 ≤ n ∧ n ≤ 0x7A then some (n - 0x61)
  else if 0x41 ≤ n ∧ n ≤ 0x5A then some (n - 0x41)
  else if 0x30 ≤ n ∧ n ≤ 0x39 then some (n - 0x30 + 26)
  else none

/-- The digits from this value on do not end a number at this place; the places are 36 apart. -/
def threshold (bias place : Nat) : Nat := min 26 (max 1 (place - bias))

theorem threshold_bounds (bias place : Nat) :
    1 ≤ threshold bias place ∧ threshold bias place ≤ 26 := by
  unfold threshold; omega

/-- The digits of a number. -/
def writeNumber (bias place n : Nat) : List Char :=
  let t := threshold bias place
  if n < t then [digit n]
  else
    digit (t + (n - t) % (36 - t)) :: writeNumber bias (place + 36) ((n - t) / (36 - t))
termination_by n
decreasing_by
  have := threshold_bounds bias place
  have := Nat.div_le_self (n - threshold bias place) (36 - threshold bias place)
  omega

/-- The number that a text begins with, and what follows it; `n` is what the digits before stand
for, and `weight` that of the next digit. -/
def readNumber (bias place weight n : Nat) : List Char → Option (Nat × List Char)
  | [] => none
  | c :: s =>
    (digitValue? c).bind fun d =>
      let t := threshold bias place
      if d < t then some (n + d * weight, s)
      else readNumber bias (place + 36) (weight * (36 - t)) (n + d * weight) s

/-- The bias that fits a number, once it is reduced for the length of the text. -/
def biasFor (n place : Nat) : Nat :=
  if 455 < n then biasFor (n / 35) (place + 36) else place + 36 * n / (n + 38)
termination_by n
decreasing_by omega

/-! ### Places -/

/-- How far a text is put together: the number of its characters, the code and the place that the
next number counts from, and the bias of that number. -/
structure Progress where
  length : Nat
  code : Nat
  place : Nat
  bias : Nat

namespace Progress

/-- So many characters of ASCII are there. -/
def start (length : Nat) : Progress := ⟨length, 0x80, 0, 72⟩

/-- The number for a code at a place. -/
def number (p : Progress) (code place : Nat) : Nat :=
  (code - p.code) * (p.length + 1) + place - p.place

/-- The code and the place that a number is for. -/
def position (p : Progress) (number : Nat) : Nat × Nat :=
  let n := p.place + number
  (p.code + n / (p.length + 1), n % (p.length + 1))

/-- A character has been put in between, the first one if `isFirst`. -/
def next (p : Progress) (isFirst : Bool) (number code place : Nat) : Progress :=
  let n := if isFirst then number / 700 else number / 2
  { length := p.length + 1, code, place := place + 1
    bias := biasFor (n + n / (p.length + 1)) 0 }

end Progress

/-- The character is in ASCII. -/
def isBasic (c : Char) : Bool := c.toNat < 0x80

/-- The codes outside of ASCII with the places where they are put in between; `before` are the
characters to the left. -/
def places (before : List Char) : List Char → List (Nat × Nat)
  | [] => []
  | c :: s =>
    let later := places (c :: before) s
    if isBasic c then later else (c.toNat, before.countP (· ≤ c)) :: later

/-! ### Writing and reading -/

/-- The digits for the characters that are put in between. -/
def writePlaces (p : Progress) (isFirst : Bool) : List (Nat × Nat) → List Char
  | [] => []
  | (code, place) :: rest =>
    let n := p.number code place
    writeNumber p.bias 36 n ++ writePlaces (p.next isFirst n code place) false rest

/-- The written form of a text. -/
def encode (s : List Char) : List Char :=
  let basic := s.filter isBasic
  let inOrder := (places [] s).mergeSort fun a b => a.1 ≤ b.1
  basic ++ (if basic.isEmpty then [] else ['-']) ++ writePlaces (.start basic.length) true inOrder

/-- A number takes up some of the text. -/
theorem length_readNumber {bias place weight n m : Nat} {s r : List Char}
    (h : readNumber bias place weight n s = some (m, r)) : r.length < s.length := by
  induction s generalizing place weight n with
  | nil => simp [readNumber] at h
  | cons c s ih =>
    simp only [readNumber, Option.bind_eq_some_iff] at h
    obtain ⟨d, -, h⟩ := h
    split at h
    · obtain ⟨-, rfl⟩ := Prod.mk.inj (Option.some.inj h)
      simp
    · have := ih h
      simp only [List.length_cons]
      omega

/-- The text with the characters put in between for which the digits stand. -/
def readPlaces (p : Progress) (isFirst : Bool) (text digits : List Char) : Option (List Char) :=
  if digits.isEmpty then some text
  else
    match _ : readNumber p.bias 36 1 0 digits with
    | none => none
    | some (n, rest) =>
      let (code, place) := p.position n
      if code.isValidChar then
        readPlaces (p.next isFirst n code place) false
          (text.take place ++ Char.ofNat code :: text.drop place) rest
      else none
termination_by digits.length
decreasing_by exact length_readNumber ‹_›

/-- The text that a written form stands for.  The characters of ASCII end with the last hyphen, which
is not there without them. -/
def decode? (s : List Char) : Option (List Char) :=
  let digits := (s.reverse.takeWhile (· != '-')).reverse
  let basic := s.take (s.length - digits.length - 1)
  if basic.all isBasic ∧ (s.head? ≠ some '-' ∨ !basic.isEmpty) then
    readPlaces (.start basic.length) true basic digits
  else none

end PageHarvest.Text.Punycode
