import PageHarvest.Number.Bits
import PageHarvest.Text.Hex
import PageHarvest.Text.Parts

/-!
# Hosts by number

A host is known by a number of 32 bits or by one of 128 bits.  The former is written in up to four
numbers with dots between them, of which the last fills up the bits that are left; its normal form
has four.  The latter is written in eight groups of four hexadecimal digits with colons between them;
two colons stand for as many groups of zeros as are missing, and the last two groups may be written
as four decimal numbers.  In its normal form two colons stand for the first of the longest runs of
zeros, if that has two groups or more.
-/

namespace PageHarvest.Web.Host

open Text

/-! ### Four numbers -/

/-- A number: hexadecimal after `0x`, octal after another `0`, decimal otherwise. -/
def number? (s : List Char) : Option Nat :=
  match s with
  | [] => none
  | '0' :: c :: s =>
    if c == 'x' || c == 'X' then
      if s.isEmpty then some 0 else Hex.toNat? s
    else if (c :: s).all fun d => '0' ≤ d && d ≤ '7' then some (Nat.ofDigitChars 8 (c :: s) 0)
    else none
  | s => if s.all Char.isDigit then some (Nat.ofDigitChars 10 s 0) else none

/-- The parts of a name between dots.  A last dot has nothing after it. -/
def labels (s : List Char) : List (List Char) :=
  let parts := split (· == '.') s
  if 1 < parts.length ∧ parts.getLast? = some [] then parts.dropLast else parts

/-- The last part of a name is a number, and so the whole of it should be. -/
def endsInNumber (s : List Char) : Bool :=
  (labels s).getLast?.any fun l => (!l.isEmpty && l.all Char.isDigit) || (number? l).isSome

/-- The number of 32 bits that a text spells. -/
def fourNumbers? (s : List Char) : Option Nat :=
  ((labels s).mapM number?).bind fun ns =>
    let low := ns.getLast?.getD 0
    -- The last number may be as great as the bits that the others leave over.
    let room := Number.beyondBits (8 * (5 - ns.length))
    if ns.length ≤ 4 ∧ ns.dropLast.all (· < 256) ∧ low < room then
      some (ns.dropLast.foldl (256 * · + ·) 0 * room + low)
    else none

/-- The normal form of a number of 32 bits. -/
def fourNumbersText (n : Nat) : List Char :=
  List.intercalate ['.'] ([24, 16, 8, 0].map fun bits =>
    Nat.toDigits 10 (n / Number.beyondBits bits % 256))

/-! ### Eight groups -/

/-- A group, which has at most four digits. -/
def group? (s : List Char) : Option Nat :=
  if s.length ≤ 4 then Hex.toNat? s else none

/-- A decimal number below 256 without leading zeros. -/
def byte? (s : List Char) : Option Nat :=
  if !s.isEmpty ∧ s.length ≤ 3 ∧ s.all Char.isDigit ∧ (s.head? ≠ some '0' ∨ s.length = 1) then
    (some (Nat.ofDigitChars 10 s 0)).filter (· < 256)
  else none

/-- Two groups that are written as four decimal numbers. -/
def decimalGroups? (s : List Char) : Option (List Nat) :=
  match (split (· == '.') s).mapM byte? with
  | some [a, b, c, d] => some [256 * a + b, 256 * c + d]
  | _ => none

/-- The groups of a text.  Only at the end of the whole may there be decimal numbers. -/
def readGroups? (isEnd : Bool) (s : List Char) : Option (List Nat) :=
  if s.isEmpty then some []
  else
    let parts := split (· == ':') s
    match if isEnd then parts.getLast?.bind decimalGroups? else none with
    | some low => (parts.dropLast.mapM group?).map (· ++ low)
    | none => parts.mapM group?

/-- What stands before and after two colons. -/
def cutGap? : List Char → Option (List Char × List Char)
  | [] => none
  | c :: s =>
    if c = ':' ∧ s.head? = some ':' then some ([], s.drop 1)
    else (cutGap? s).map fun (before, after) => (c :: before, after)

/-- The eight groups that a text spells. -/
def eightGroups? (s : List Char) : Option (List Nat) :=
  match cutGap? s with
  | none => (readGroups? true s).filter (·.length = 8)
  | some (before, after) =>
    (readGroups? false before).bind fun high =>
      (readGroups? true after).bind fun low =>
        let missing := 8 - (high ++ low).length
        if 0 < missing then some (high ++ List.replicate missing 0 ++ low) else none

/-- The number of zeros that a list begins with. -/
def zeros (gs : List Nat) : Nat := (gs.takeWhile (· == 0)).length

/-- The place and the length of the first of the longest runs of zeros. -/
def gap? (gs : List Nat) : Option (Nat × Nat) :=
  let runs := (List.range gs.length).map fun i => (i, zeros (gs.drop i))
  let longest := runs.foldl (fun n r => max n r.2) 0
  if longest < 2 then none else runs.find? (·.2 == longest)

/-- Groups with colons between them. -/
def groupsText (gs : List Nat) : List Char := List.intercalate [':'] (gs.map (Nat.toDigits 16))

/-- The normal form of eight groups. -/
def eightGroupsText (gs : List Nat) : List Char :=
  match gap? gs with
  | none => groupsText gs
  | some (place, length) =>
    groupsText (gs.take place) ++ "::".toList ++ groupsText (gs.drop (place + length))

end PageHarvest.Web.Host
