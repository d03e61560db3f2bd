import PageHarvest.Text.Blank
import PageHarvest.Text.Punycode

/-!
# Names of hosts

A name is made of labels with dots between them.  In its normal form a name is in ASCII and has no
capitals: letters are taken as small and of normal width, characters that are not to be seen are left
out, and a label with characters outside of ASCII is written in Punycode after `xn--`.
-/

namespace PageHarvest.Web.Host

open Text

/-! ### Letters of one form -/

/-- Ranges of capitals, with the distance to their small letters. -/
def capitals : List (Nat × Nat × Nat) :=
  [(0x41, 0x5A, 0x20), (0xC0, 0xD6, 0x20), (0xD8, 0xDE, 0x20), (0x386, 0x386, 0x26),
   (0x388, 0x38A, 0x25), (0x38C, 0x38C, 0x40), (0x38E, 0x38F, 0x3F), (0x391, 0x3A1, 0x20),
   (0x3A3, 0x3AB, 0x20), (0x400, 0x40F, 0x50), (0x410, 0x42F, 0x20), (0x531, 0x556, 0x30)]

/-- Ranges in which each capital has its small letter after it. -/
def pairs : List (Nat × Nat) :=
  [(0x100, 0x12F), (0x134, 0x137), (0x139, 0x13E), (0x141, 0x148), (0x14A, 0x177),
   (0x179, 0x17E), (0x1CD, 0x1DC), (0x1DE, 0x1EF), (0x1F8, 0x21F), (0x222, 0x233),
   (0x460, 0x481), (0x48A, 0x4BF), (0x4C1, 0x4CE), (0x4D0, 0x52F), (0x1E00, 0x1E95),
   (0x1EA0, 0x1EFF)]

/-- The code of a letter as a small one. -/
def smallCode (n : Nat) : Nat :=
  if n = 0x178 then 0xFF
  else
    match capitals.find? fun (first, last, _) => first ≤ n ∧ n ≤ last with
    | some (_, _, distance) => n + distance
    | none =>
      match pairs.find? fun (first, last) => first ≤ n ∧ n ≤ last with
      | some (first, _) => n + (n + first + 1) % 2
      | none => n

/-- The character is not to be seen, and names do not differ in it. -/
def isIgnored (c : Char) : Bool :=
  let n := c.toNat
  [0xAD, 0x34F, 0x180B, 0x180C, 0x180D, 0x200B, 0x2060, 0x2064, 0xFEFF].contains n ||
    (0xFE00 ≤ n && n ≤ 0xFE0F)

/-- A character in the form in which names are compared.  One that is neither a stop nor of full width,
and in none of the ranges above, stays as it is. -/
def fold (c : Char) : Char :=
  let n := c.toNat
  if n = 0x3002 || n = 0xFF61 then '.'
  else if 0xFF01 ≤ n ∧ n ≤ 0xFF5E then Char.ofNat (smallCode (n - 0xFEE0))
  else Char.ofNat (smallCode n)

/-! ### Labels -/

/-- The character is visible and in ASCII. -/
def isVisible (c : Char) : Bool := 0x21 ≤ c.toNat && c.toNat ≤ 0x7E

/-- The characters with a meaning of their own in addresses. -/
def marks : List Char := ['#', '%', '/', ':', '<', '>', '?', '@', '[', '\\', ']', '^', '|']

/-- The character outside of ASCII is no part of a name: a control character, a blank, or one for
private use or for none. -/
def isStrange (c : Char) : Bool :=
  let n := c.toNat
  n < 0xA0 || isBlank c || (0x200B ≤ n && n ≤ 0x200F) || (0x202A ≤ n && n ≤ 0x202E) ||
    (0x2060 ≤ n && n ≤ 0x206F) || (0xE000 ≤ n && n ≤ 0xF8FF) || (0xFFF0 ≤ n && n ≤ 0xFFFF) ||
    0xE0000 ≤ n

/-- The character cannot be part of a name. -/
def isForbidden (c : Char) : Bool :=
  if Punycode.isBasic c then !isVisible c || marks.contains c else isStrange c

/-- What a label begins with that is written in Punycode. -/
def mark : List Char := "xn--".toList

/-- The normal form of a label whose letters are of one form. -/
def label? (s : List Char) : Option (List Char) :=
  if mark.isPrefixOf s then
    (Punycode.decode? (s.drop mark.length)).bind fun t =>
      if !t.all Punycode.isBasic ∧ t.all (fun c => !isForbidden c && fold c == c && !isIgnored c) then
        some s
      else none
  else if s.any isForbidden then none
  else some (if s.all Punycode.isBasic then s else mark ++ Punycode.encode s)

/-- The normal form of a name. -/
def name? (s : List Char) : Option (List Char) :=
  ((split (· == '.') ((s.filter (!isIgnored ·)).map fold)).mapM label?).map (List.intercalate ['.'])

end PageHarvest.Web.Host
