import PageHarvest.Time.Instant
import PageHarvest.Text.Blank

/-!
# Instants as text

An instant is written as a date and a time of universal time, with three, six or nine digits of the
second's fraction or none, whichever is the least that loses nothing.  Reading is more generous: the
parts may have fewer digits and blanks around them, and the time may be that of another place, whose
distance from universal time is given.
-/

namespace PageHarvest.Time

open Text

/-! ### Writing -/

/-- A number with at least so many digits. -/
def padded (width n : Nat) : List Char :=
  let ds := Nat.toDigits 10 n
  List.replicate (width - ds.length) '0' ++ ds

/-- A year; one that has not four digits has a sign. -/
def writeYear (y : Int) : List Char :=
  if 0 ≤ y ∧ y ≤ 9999 then padded 4 y.toNat
  else (if y < 0 then '-' else '+') :: padded 4 y.natAbs

/-- The fraction of a second. -/
def writeFraction (nano : Nat) : List Char :=
  if nano = 0 then []
  else if nano % 1000000 = 0 then '.' :: padded 3 (nano / 1000000)
  else if nano % 1000 = 0 then '.' :: padded 6 (nano / 1000)
  else '.' :: padded 9 nano

/-- The written form.  A leap second is the sixtieth of its minute. -/
def Instant.toText (t : Instant) : List Char :=
  let leap := t.nano / nanosPerSecond
  writeYear t.date.year ++ '-' :: padded 2 t.date.month ++ '-' :: padded 2 t.date.day ++
    'T' :: padded 2 (t.second / 3600) ++ ':' :: padded 2 (t.second / 60 % 60) ++
    ':' :: padded 2 (t.second % 60 + leap) ++ writeFraction (t.nano % nanosPerSecond) ++ ['Z']

/-! ### Reading -/

/-- A number of at most `width` digits, and the text after it. -/
def readDigits (width : Nat) (s : List Char) : Option (Nat × List Char) :=
  match (s.take width).takeWhile Char.isDigit with
  | [] => none
  | ds => some (Nat.ofDigitChars 10 ds 0, s.drop ds.length)

/-- A number of any length, and the text after it. -/
def readLong (s : List Char) : Option (Nat × List Char) :=
  readDigits s.length s

/-- A number of two digits at most, with blanks before it, and the text after it. -/
def readTwo (s : List Char) : Option (Nat × List Char) :=
  readDigits 2 (trimLeft s)

/-- A year, which may have any length after a sign, and the text after it. -/
def readYear (s : List Char) : Option (Int × List Char) :=
  match trimLeft s with
  | '-' :: s => (readLong s).map fun (n, r) => (-(n : Int), r)
  | '+' :: s => (readLong s).map fun (n, r) => ((n : Int), r)
  | s => (readDigits 4 s).map fun (n, r) => ((n : Int), r)

/-- The text after a character, with blanks before it. -/
def readMark (mark : Char) (s : List Char) : Option (List Char) :=
  match trimLeft s with
  | c :: r => if c = mark then some r else none
  | [] => none

/-- A year, a month and a day, and the text after them. -/
def readDate (s : List Char) : Option ((Int × Nat × Nat) × List Char) := do
  let (year, s) ← readYear s
  let s ← readMark '-' s
  let (month, s) ← readTwo s
  let s ← readMark '-' s
  let (day, s) ← readTwo s
  some ((year, month, day), s)

/-- The text after what stands between a date and a time. -/
def readDivider (s : List Char) : Option (List Char) :=
  match s with
  | 'T' :: r => some r
  | 't' :: r => some r
  | ' ' :: r => some r
  | _ => none

/-- The nanoseconds of a fraction, if there is one, and the text after it.  Digits after the ninth do
not count. -/
def readFraction (s : List Char) : Option (Nat × List Char) :=
  match s with
  | '.' :: s =>
    match (s.take 9).takeWhile Char.isDigit with
    | [] => none
    | ds => some (Nat.ofDigitChars 10 ds 0 * Nat.pow 10 (9 - ds.length),
        (s.drop ds.length).dropWhile Char.isDigit)
  | s => some (0, s)

/-- An hour, a minute, a second and nanoseconds, and the text after them. -/
def readClock (s : List Char) : Option ((Nat × Nat × Nat × Nat) × List Char) := do
  let (hour, s) ← readTwo s
  let s ← readMark ':' s
  let (minute, s) ← readTwo s
  let s ← readMark ':' s
  let (second, s) ← readTwo s
  let (nano, s) ← readFraction s
  some ((hour, minute, second, nano), s)

/-- Exactly two digits below `bound`, and the text after them. -/
def readPair (bound : Nat) (s : List Char) : Option (Nat × List Char) :=
  match s with
  | a :: b :: r =>
    if a.isDigit ∧ b.isDigit then
      let n := Nat.ofDigitChars 10 [a, b] 0
      if n < bound then some (n, r) else none
    else none
  | _ => none

/-- The sign that a character stands for. -/
def sign? (c : Char) : Option Int :=
  if c = '+' then some 1 else if c = '-' ∨ c = '\u2212' then some (-1) else none

/-- The seconds that a place is ahead of universal time, and the text after them. -/
def readOffset (s : List Char) : Option (Int × List Char) :=
  if (s.take 3).map Char.toUpper = ['U', 'T', 'C'] then some (0, s.drop 3)
  else match s with
    | 'Z' :: r => some (0, r)
    | 'z' :: r => some (0, r)
    | c :: r => do
      let sign ← sign? c
      let (hours, r) ← readPair 100 r
      let (minutes, r) ← readPair 60 (r.dropWhile fun c => c == ':' || isBlank c)
      some (sign * (3600 * hours + 60 * minutes), r)
    | [] => none

/-- The instant of a date and a second of that day at a place so far ahead of universal time. -/
def Instant.atOffset? (date : Date) (second nano : Nat) (offset : Int) : Option Instant := do
  if offset ≤ -86400 ∨ 86400 ≤ offset then none
  let s := second - offset
  if s < 0 then ofParts? (← date.previous?) (s + 86400).toNat nano
  else if s < 86400 then ofParts? date s.toNat nano
  else ofParts? (← date.next?) (s - 86400).toNat nano

/-- The instant that the text denotes. -/
def Instant.ofText? (s : List Char) : Option Instant := do
  let ((year, month, day), s) ← readDate s
  let s ← readDivider s
  let ((hour, minute, second, nano), s) ← readClock s
  let (offset, s) ← readOffset (trimLeft s)
  if !(trimLeft s).isEmpty then none
  if 23 < hour ∨ 59 < minute ∨ 60 < second then none
  let date ← Date.ofParts? year month day
  -- The sixtieth second is kept as the one before, with a second more in nanoseconds.
  let leap := second / 60
  atOffset? date (3600 * hour + 60 * minute + (second - leap)) (leap * nanosPerSecond + nano) offset

end PageHarvest.Time
