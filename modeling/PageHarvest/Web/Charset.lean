import PageHarvest.Text.Blank
import PageHarvest.Text.Utf8

/-!
# Character sets

The bytes of a page are read in the character set that its media type names.  A byte order mark goes
before that, and without either the bytes are UTF-8.  Where the bytes spell no character, the
replacement character stands for them.
-/

namespace PageHarvest.Web

open Text

/-- A character set. -/
inductive Charset
  | utf8 | utf16be | utf16le | windows1252
  deriving DecidableEq, Repr

namespace Charset

/-- The names of the character sets. -/
def names : List (String × Charset) :=
  [("utf-8", utf8), ("utf8", utf8), ("unicode-1-1-utf-8", utf8), ("utf-16", utf16le),
   ("utf-16le", utf16le), ("utf-16be", utf16be), ("windows-1252", windows1252),
   ("cp1252", windows1252), ("x-cp1252", windows1252), ("iso-8859-1", windows1252),
   ("iso8859-1", windows1252), ("iso88591", windows1252), ("iso_8859-1", windows1252),
   ("iso_8859-1:1987", windows1252), ("iso-ir-100", windows1252), ("latin1", windows1252),
   ("l1", windows1252), ("ascii", windows1252), ("us-ascii", windows1252),
   ("ansi_x3.4-1968", windows1252), ("cp819", windows1252), ("ibm819", windows1252),
   ("csisolatin1", windows1252)]

/-- The character set with this name, in any case and with blanks around it. -/
def ofName? (s : List Char) : Option Charset :=
  names.lookup (String.ofList ((trim s).map Char.toLower))

/-- The text without quotes around it. -/
def unquote (s : List Char) : List Char :=
  match s with
  | '"' :: r => r.takeWhile (· != '"')
  | _ => s

/-- The character set that a parameter of a media type names. -/
def ofParameter? (s : List Char) : Option (Option Charset) :=
  let name := s.takeWhile (· != '=')
  if (trim name).map Char.toLower = "charset".toList then
    some (ofName? (unquote (trim (s.drop (name.length + 1)))))
  else none

/-- The character set that a media type names.  A name that is not among `names` says nothing. -/
def ofMediaType (type : List Char) : Charset :=
  (((split (· == ';') type).drop 1).findSome? ofParameter?).join.getD utf8

/-! ### Reading -/

/-- The characters of Windows-1252 from 0x80 on, as far as they are not those of Unicode. -/
def windowsHigh : List Nat :=
  [0x20AC, 0x81, 0x201A, 0x192, 0x201E, 0x2026, 0x2020, 0x2021, 0x2C6, 0x2030, 0x160, 0x2039,
   0x152, 0x8D, 0x17D, 0x8F, 0x90, 0x2018, 0x2019, 0x201C, 0x201D, 0x2022, 0x2013, 0x2014, 0x2DC,
   0x2122, 0x161, 0x203A, 0x153, 0x9D, 0x17E, 0x178]

/-- A byte of Windows-1252. -/
def windowsChar (b : UInt8) : Char :=
  let n := b.toNat
  Char.ofNat (if 0x80 ≤ n then windowsHigh.getD (n - 0x80) n else n)

/-- The 16-bit units that bytes spell, the more significant byte first; a byte that is left over
makes no unit. -/
def units : List UInt8 → List (Option Nat)
  | [] => []
  | [_] => [none]
  | a :: b :: bs => some (256 * a.toNat + b.toNat) :: units bs

/-- The same with the less significant byte first. -/
def unitsLittle : List UInt8 → List (Option Nat)
  | [] => []
  | [_] => [none]
  | a :: b :: bs => some (256 * b.toNat + a.toNat) :: unitsLittle bs

/-- The unit is the first half of a surrogate pair. -/
def isHigh (n : Nat) : Bool := 0xD800 ≤ n && n < 0xDC00

/-- The unit is the second half of a surrogate pair. -/
def isLow (n : Nat) : Bool := 0xDC00 ≤ n && n < 0xE000

/-- The symbols that units spell. -/
def joinUnits : List (Option Nat) → List Symbol
  | [] => []
  | none :: us => none :: joinUnits us
  | some n :: us =>
    if isHigh n then
      match us with
      | some m :: us =>
        if isLow m then
          some (Char.ofNat (0x10000 + 0x400 * (n - 0xD800) + (m - 0xDC00))) :: joinUnits us
        -- The second unit may be the first half of another pair.
        else none :: joinUnits (some m :: us)
      | us => none :: joinUnits us
    else if isLow n then none :: joinUnits us
    else some (Char.ofNat n) :: joinUnits us

/-- The text that the bytes spell. -/
def decode (charset : Charset) (bs : List UInt8) : List Char :=
  match charset with
  | utf8 => Symbol.lossy (Utf8.decode bs)
  | utf16be => Symbol.lossy (joinUnits (units bs))
  | utf16le => Symbol.lossy (joinUnits (unitsLittle bs))
  | windows1252 => bs.map windowsChar

/-- The text that the bytes spell, by their byte order mark if they begin with one. -/
def decodePage (charset : Charset) (bs : List UInt8) : List Char :=
  match bs with
  | 0xEF :: 0xBB :: 0xBF :: r => utf8.decode r
  | 0xFE :: 0xFF :: r => utf16be.decode r
  | 0xFF :: 0xFE :: r => utf16le.decode r
  | _ => charset.decode bs

end Charset

end PageHarvest.Web
