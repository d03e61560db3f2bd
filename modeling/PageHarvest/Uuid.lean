import PageHarvest.Text.Hex

/-!
# Universally unique identifiers

A `Uuid` is 32 hexadecimal digits.  It is written in groups of 8, 4, 4, 4 and 12 digits with hyphens
between them, and read also without the hyphens, in braces, and with the prefix of a resource name.
`ofText?_toText` says that what is written is read back.
-/

namespace PageHarvest

/-- A universally unique identifier. -/
structure Uuid where
  digits : List (Fin 16)
  length_digits : digits.length = 32
  deriving DecidableEq, Repr

namespace Uuid

/-- The identifier whose digits are all zero. -/
def nil : Uuid := ⟨List.replicate 32 (Text.Hex.lastValue 0), List.length_replicate⟩

instance : Inhabited Uuid := ⟨nil⟩

/-- An identifier whose digits are random where they are free: those that tell the version and the
variant are not. -/
def ofRandom (f : Nat → Fin 16) : Uuid where
  digits := (List.range 32).map fun i =>
    if i = 12 then Text.Hex.lastValue 4
    else if i = 16 then Text.Hex.lastValue (8 + (f i).val % 4)
    else f i
  length_digits := by simp

/-- Hyphens put after the first groups, which have the given lengths. -/
def hyphenate : List Nat → List Char → List Char
  | [], s => s
  | n :: ns, s => s.take n ++ '-' :: hyphenate ns (s.drop n)

/-- The text without the hyphens that stand after its first groups. -/
def dropHyphens? : List Nat → List Char → Option (List Char)
  | [], s => some s
  | n :: ns, s =>
    match s.drop n with
    | '-' :: r => (dropHyphens? ns r).map (s.take n ++ ·)
    | _ => none

/-- The lengths of all groups but the last. -/
def groups : List Nat := [8, 4, 4, 4]

/-- The written form. -/
def toText (u : Uuid) : List Char :=
  hyphenate groups (u.digits.map Text.Hex.digit)

/-- The identifier with these digits. -/
def ofDigits? (s : List Char) : Option Uuid :=
  (s.mapM Text.Hex.value?).bind fun ds => if h : ds.length = 32 then some ⟨ds, h⟩ else none

/-- The identifier written with hyphens. -/
def ofHyphenated? (s : List Char) : Option Uuid :=
  (dropHyphens? groups s).bind ofDigits?

/-- The text between the first and the last character, if these are braces. -/
def inBraces? (s : List Char) : Option (List Char) :=
  match s with
  | '\x7b' :: r => if r.getLast? = some '\x7d' then some r.dropLast else none
  | _ => none

/-- The text after the prefix of a resource name, each letter of which may be of either case. -/
def afterUrn? (s : List Char) : Option (List Char) :=
  let urn := "urn:uuid:".toList
  if urn.isPrefixOf (s.map Char.toLower) then some (s.drop urn.length) else none

/-- The identifier that the text denotes.  The length of the text tells which form it has. -/
def ofText? (s : List Char) : Option Uuid :=
  match s.length with
  | 32 => ofDigits? s
  | 36 => ofHyphenated? s
  | 38 => (inBraces? s).bind ofHyphenated?
  | 45 => (afterUrn? s).bind ofHyphenated?
  | _ => none

theorem length_hyphenate (ns : List Nat) (s : List Char) :
    (hyphenate ns s).length = s.length + ns.length := by
  induction ns generalizing s with
  | nil => simp [hyphenate]
  | cons n ns ih => simp [hyphenate, ih, List.length_take, List.length_drop]; omega

theorem dropHyphens?_hyphenate (ns : List Nat) (s : List Char)
    (h : ns.foldr (· + ·) 0 ≤ s.length) :
    dropHyphens? ns (hyphenate ns s) = some s := by
  induction ns generalizing s with
  | nil => rfl
  | cons n ns ih =>
    rw [List.foldr_cons] at h
    have hn : (s.take n).length = n := by rw [List.length_take]; omega
    rw [hyphenate, dropHyphens?, List.drop_left' hn, List.take_left' hn]
    simp [ih (s.drop n) (by rw [List.length_drop]; omega)]

theorem length_toText (u : Uuid) : u.toText.length = 36 := by
  rw [toText, length_hyphenate, List.length_map, u.length_digits]; rfl

/-- What is written is read back. -/
theorem ofText?_toText (u : Uuid) : ofText? u.toText = some u := by
  have h : dropHyphens? groups u.toText = some (u.digits.map Text.Hex.digit) :=
    dropHyphens?_hyphenate _ _ (by rw [List.length_map, u.length_digits]; decide)
  have hd : ofDigits? (u.digits.map Text.Hex.digit) = some u := by
    rw [ofDigits?, Text.Hex.mapM_value?_digit]
    simp [u.length_digits]
  simp only [ofText?, length_toText, ofHyphenated?, h, Option.bind_some, hd]

theorem toText_injective {u v : Uuid} (h : u.toText = v.toText) : u = v :=
  Option.some.inj (by rw [← ofText?_toText u, h, ofText?_toText v])

end Uuid

end PageHarvest
