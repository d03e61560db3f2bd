import PageHarvest.Json.Reader

/-!
# The grammar of JSON

Which texts are ways of writing a value, said without reading them.  Blanks may stand between the
parts of a value, and a character of a string may stand for itself, for a short escape, or for the
escape of its unit or of its two units.
-/

namespace PageHarvest.Json

open Text

/-- Blanks only. -/
def IsBlanks (s : List Char) : Prop := ∀ c ∈ s, isBlank c = true

/-! ### Numbers -/

/-- Digits, at least one. -/
def IsDigits (s : List Char) : Prop := s ≠ [] ∧ ∀ c ∈ s, c.isDigit = true

/-- The whole part of a number, which begins with a zero only if it is one. -/
inductive IsWhole : List Char → Prop
  | zero : IsWhole ['0']
  | digits {ds : List Char} (digits : IsDigits ds) (nonzero : ds.head? ≠ some '0') : IsWhole ds

/-- The part of a number after the point, with the point. -/
inductive IsFraction : List Char → Prop
  | absent : IsFraction []
  | digits {ds : List Char} (digits : IsDigits ds) : IsFraction ('.' :: ds)

/-- The exponent of a number, with its mark and its sign. -/
inductive IsExponent : List Char → Prop
  | absent : IsExponent []
  | digits {mark : Char} {sign ds : List Char} (mark_eq : mark = 'e' ∨ mark = 'E')
    (sign_eq : sign = [] ∨ sign = ['+'] ∨ sign = ['-']) (digits : IsDigits ds) :
    IsExponent (mark :: (sign ++ ds))

/-- A number. -/
inductive IsNumber : List Char → Prop
  | parts {sign ds es fs : List Char} (sign_eq : sign = [] ∨ sign = ['-']) (whole : IsWhole ds)
    (fraction : IsFraction es) (exponent : IsExponent fs) :
    IsNumber (sign ++ (ds ++ (es ++ fs)))

/-! ### Strings -/

/-- The four digits of a unit. -/
def IsUnit (n : Nat) (ds : List Char) : Prop :=
  ds.length = 4 ∧ (ds.mapM Hex.value?).map Hex.ofDigits = some n

/-- The escape of the unit with these digits. -/
def unitEscape (ds : List Char) : List Char := '\\' :: 'u' :: ds

/-- The unit is the first one of a pair. -/
def IsLead (n : Nat) : Prop := 0xD800 ≤ n ∧ n < 0xDC00

/-- The unit is the second one of a pair. -/
def IsTrail (n : Nat) : Prop := 0xDC00 ≤ n ∧ n < 0xE000

/-- The character of a pair of units. -/
def pairChar (lead trail : Nat) : Char :=
  Char.ofNat (0x10000 + (lead - 0xD800) * 0x400 + (trail - 0xDC00))

/-- The text begins with the escape of a unit that is the second one of a pair. -/
def BeginsWithTrail (t : List Char) : Prop :=
  ∃ n ds, IsUnit n ds ∧ IsTrail n ∧ unitEscape ds <+: t

/-- The symbols are written like this between the quotes of a string.  A gap is a unit that would be
one of a pair but has no partner. -/
inductive IsSpelled : List Symbol → List Char → Prop
  | nil : IsSpelled [] []
  | plain {c : Char} {ss : List Symbol} {t : List Char} (visible : 0x20 ≤ c.toNat)
    (ne_quote : c ≠ '"') (ne_backslash : c ≠ '\\') (rest : IsSpelled ss t) :
    IsSpelled (some c :: ss) (c :: t)
  | escape {c e : Char} {ss : List Symbol} {t : List Char} (escaped : escaped? e = some c)
    (rest : IsSpelled ss t) : IsSpelled (some c :: ss) ('\\' :: e :: t)
  | unit {c : Char} {ds : List Char} {ss : List Symbol} {t : List Char} (unit : IsUnit c.toNat ds)
    (rest : IsSpelled ss t) : IsSpelled (some c :: ss) (unitEscape ds ++ t)
  | pair {m n : Nat} {ds es : List Char} {ss : List Symbol} {t : List Char} (first : IsUnit m ds)
    (second : IsUnit n es) (lead : IsLead m) (trail : IsTrail n) (rest : IsSpelled ss t) :
    IsSpelled (some (pairChar m n) :: ss) (unitEscape ds ++ (unitEscape es ++ t))
  | half {n : Nat} {ds : List Char} {ss : List Symbol} {t : List Char} (unit : IsUnit n ds)
    (lead_or_trail : IsLead n ∨ IsTrail n) (alone : IsLead n → ¬BeginsWithTrail t)
    (rest : IsSpelled ss t) : IsSpelled (none :: ss) (unitEscape ds ++ t)

/-! ### Values -/

/-- A value, or what follows the beginning of an array or of an object that is not empty. -/
inductive Part
  | value (v : Value)
  | items (vs : List Value)
  | members (ms : List (List Symbol × Value))

/-- The part is written like this. -/
inductive Part.IsWritten : Part → List Char → Prop
  | null : IsWritten (value .null) ['n', 'u', 'l', 'l']
  | yes : IsWritten (value (.bool true)) ['t', 'r', 'u', 'e']
  | no : IsWritten (value (.bool false)) ['f', 'a', 'l', 's', 'e']
  | number {ds : List Char} (number : IsNumber ds) : IsWritten (value (.number ds)) ds
  | string {ss : List Symbol} {t : List Char} (spelled : IsSpelled ss t) :
    IsWritten (value (.string ss)) ('"' :: (t ++ ['"']))
  | emptyArray {b : List Char} (blanks : IsBlanks b) :
    IsWritten (value (.array [])) ('[' :: (b ++ [']']))
  | array {vs : List Value} {t : List Char} (items : IsWritten (items vs) t) :
    IsWritten (value (.array vs)) ('[' :: t)
  | emptyObject {b : List Char} (blanks : IsBlanks b) :
    IsWritten (value (.object [])) ('\x7b' :: (b ++ ['\x7d']))
  | object {ms : List (List Symbol × Value)} {t : List Char} (members : IsWritten (members ms) t) :
    IsWritten (value (.object ms)) ('\x7b' :: t)
  | lastItem {v : Value} {t b b' : List Char} (before : IsBlanks b) (after : IsBlanks b')
    (item : IsWritten (value v) t) : IsWritten (items [v]) (b ++ (t ++ (b' ++ [']'])))
  | item {v : Value} {vs : List Value} {t u b b' : List Char} (before : IsBlanks b)
    (after : IsBlanks b') (item : IsWritten (value v) t) (rest : IsWritten (items vs) u) :
    IsWritten (items (v :: vs)) (b ++ (t ++ (b' ++ ',' :: u)))
  | lastMember {k : List Symbol} {v : Value} {s t b₁ b₂ b₃ b₄ : List Char} (before : IsBlanks b₁)
    (beforeColon : IsBlanks b₂) (afterColon : IsBlanks b₃) (after : IsBlanks b₄)
    (name : IsSpelled k s) (item : IsWritten (value v) t) :
    IsWritten (members [(k, v)])
      (b₁ ++ '"' :: (s ++ '"' :: (b₂ ++ ':' :: (b₃ ++ (t ++ (b₄ ++ ['\x7d']))))))
  | member {k : List Symbol} {v : Value} {ms : List (List Symbol × Value)}
    {s t u b₁ b₂ b₃ b₄ : List Char} (before : IsBlanks b₁) (beforeColon : IsBlanks b₂)
    (afterColon : IsBlanks b₃) (after : IsBlanks b₄) (name : IsSpelled k s)
    (item : IsWritten (value v) t) (rest : IsWritten (members ms) u) :
    IsWritten (members ((k, v) :: ms))
      (b₁ ++ '"' :: (s ++ '"' :: (b₂ ++ ':' :: (b₃ ++ (t ++ (b₄ ++ ',' :: u))))))

/-- The text is a way of writing the value, with blanks before it and after it. -/
def Value.IsWrittenAs (v : Value) (s : List Char) : Prop :=
  ∃ b t b', IsBlanks b ∧ (Part.value v).IsWritten t ∧ IsBlanks b' ∧ s = b ++ (t ++ b')

end PageHarvest.Json
