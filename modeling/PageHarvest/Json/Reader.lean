import PageHarvest.Json.Value

/-!
# Reading JSON

`Value.read?` reads a whole text as one value; only blanks may stand before and after it.  Each call
of the readers below takes at least one symbol or goes into a list that has been begun, so twice the
length of the text is enough for their depth.
-/

namespace PageHarvest.Json

open Text

/-- The characters between the parts of a value. -/
def isBlank (c : Char) : Bool := c == ' ' || c == '\n' || c == '\t' || c == '\r'

/-- The symbols after the blanks at the front. -/
def skipBlanks : List Symbol → List Symbol
  | some c :: s => if isBlank c then skipBlanks s else some c :: s
  | s => s

/-! ### Strings -/

/-- A part of a string: a symbol, or one of the units that an escape names. -/
inductive Piece
  | symbol (s : Symbol)
  | unit (n : Nat)
  deriving DecidableEq, Repr

/-- The character that a unit names by itself. -/
def unitChar? (n : Nat) : Symbol :=
  if h : n.isValidChar then some (Char.ofNatAux n h) else none

/-- The symbols of a string: two units next to each other may be a surrogate pair. -/
def joinUnits : List Piece → List Symbol
  | [] => []
  | .symbol s :: ps => s :: joinUnits ps
  | .unit n :: .unit m :: ps =>
    if 0xD800 ≤ n ∧ n < 0xDC00 ∧ 0xDC00 ≤ m ∧ m < 0xE000 then
      some (Char.ofNat (0x10000 + (n - 0xD800) * 0x400 + (m - 0xDC00))) :: joinUnits ps
    else unitChar? n :: joinUnits (.unit m :: ps)
  | .unit n :: ps => unitChar? n :: joinUnits ps

/-- What a letter after a backslash stands for. -/
def escaped? : Char → Option Char
  | '"' => some '"'
  | '\\' => some '\\'
  | '/' => some '/'
  | 'b' => some '\x08'
  | 'f' => some '\x0c'
  | 'n' => some '\n'
  | 'r' => some '\r'
  | 't' => some '\t'
  | _ => none

/-- The unit with these four digits. -/
def unit? (ds : List Symbol) : Option Nat :=
  ((Symbol.text? ds).bind (·.mapM Hex.value?)).map Hex.ofDigits

/-- The parts of a string up to its closing quote, and the symbols after it. -/
def readPieces : List Symbol → Option (List Piece × List Symbol)
  | [] => none
  | some '"' :: s => some ([], s)
  | some '\\' :: some 'u' :: a :: b :: c :: d :: s => do
    let n ← unit? [a, b, c, d]
    let (ps, r) ← readPieces s
    some (.unit n :: ps, r)
  | some '\\' :: some e :: s => do
    let c ← escaped? e
    let (ps, r) ← readPieces s
    some (.symbol (some c) :: ps, r)
  | some '\\' :: _ => none
  | some c :: s =>
    if c.toNat < 0x20 then none
    else do
      let (ps, r) ← readPieces s
      some (.symbol (some c) :: ps, r)
  -- A gap does no harm here; whoever needs a text refuses it.
  | none :: s => do
    let (ps, r) ← readPieces s
    some (.symbol none :: ps, r)

/-- A string after its opening quote, and the symbols after it. -/
def readString (s : List Symbol) : Option (List Symbol × List Symbol) :=
  (readPieces s).map fun (ps, r) => (joinUnits ps, r)

/-! ### Numbers -/

/-- The digits at the front, and the symbols after them. -/
def takeDigits : List Symbol → List Char × List Symbol
  | some c :: s =>
    if c.isDigit then
      let (ds, r) := takeDigits s
      (c :: ds, r)
    else ([], some c :: s)
  | s => ([], s)

/-- At least one digit, after the characters `before`. -/
def readDigits (before : List Char) (s : List Symbol) : Option (List Char × List Symbol) :=
  match takeDigits s with
  | ([], _) => none
  | (ds, r) => some (before ++ ds, r)

/-- The whole part of a number: a zero, or digits that do not begin with one. -/
def readWhole : List Symbol → Option (List Char × List Symbol)
  | some '0' :: s => some (['0'], s)
  | s => readDigits [] s

/-- The part of a number after the point, if there is one. -/
def readFraction : List Symbol → Option (List Char × List Symbol)
  | some '.' :: s => readDigits ['.'] s
  | s => some ([], s)

/-- The exponent of a number, if there is one. -/
def readExponent : List Symbol → Option (List Char × List Symbol)
  | some c :: s =>
    if c = 'e' ∨ c = 'E' then
      match s with
      | some '+' :: s => readDigits [c, '+'] s
      | some '-' :: s => readDigits [c, '-'] s
      | s => readDigits [c] s
    else some ([], some c :: s)
  | s => some ([], s)

/-- A number as it is written, and the symbols after it. -/
def readNumber (s : List Symbol) : Option (List Char × List Symbol) := do
  let (sign, s) := match s with
    | some '-' :: s => (['-'], s)
    | s => ([], s)
  let (whole, s) ← readWhole s
  let (fraction, s) ← readFraction s
  let (exponent, s) ← readExponent s
  some (sign ++ whole ++ fraction ++ exponent, s)

/-! ### Values -/

/-- The value `v`, if the symbols begin with the given word. -/
def readWord (word : String) (v : Value) (s : List Symbol) : Option (Value × List Symbol) :=
  let w := Symbol.ofText word.toList
  if w.isPrefixOf s then some (v, s.drop w.length) else none

mutual

/-- A value, and the symbols after it. -/
def readValue : Nat → List Symbol → Option (Value × List Symbol)
  | 0, _ => none
  | n + 1, s =>
    match skipBlanks s with
    | some '"' :: s => (readString s).map fun (cs, r) => (.string cs, r)
    | some '[' :: s =>
      match skipBlanks s with
      | some ']' :: s => some (.array [], s)
      | s => (readItems n s).map fun (vs, r) => (.array vs, r)
    | some '\x7b' :: s =>
      match skipBlanks s with
      | some '\x7d' :: s => some (.object [], s)
      | s => (readMembers n s).map fun (ms, r) => (.object ms, r)
    | some 'n' :: s => readWord "ull" .null s
    | some 't' :: s => readWord "rue" (.bool true) s
    | some 'f' :: s => readWord "alse" (.bool false) s
    | s => (readNumber s).map fun (ds, r) => (.number ds, r)

/-- The items of an array up to its end, and the symbols after it. -/
def readItems : Nat → List Symbol → Option (List Value × List Symbol)
  | 0, _ => none
  | n + 1, s => do
    let (v, s) ← readValue n s
    match skipBlanks s with
    | some ',' :: s => (readItems n s).map fun (vs, r) => (v :: vs, r)
    | some ']' :: s => some ([v], s)
    | _ => none

/-- The members of an object up to its end, and the symbols after it. -/
def readMembers : Nat → List Symbol → Option (List (List Symbol × Value) × List Symbol)
  | 0, _ => none
  | n + 1, s =>
    match skipBlanks s with
    | some '"' :: s => do
      let (k, s) ← readString s
      match skipBlanks s with
      | some ':' :: s => do
        let (v, s) ← readValue n s
        match skipBlanks s with
        | some ',' :: s => (readMembers n s).map fun (ms, r) => ((k, v) :: ms, r)
        | some '\x7d' :: s => some ([(k, v)], s)
        | _ => none
      | _ => none
    | _ => none

end

/-- The value that the symbols denote. -/
def Value.read? (s : List Symbol) : Option Value :=
  match readValue (2 * s.length + 2) s with
  | some (v, r) => if (skipBlanks r).isEmpty then some v else none
  | none => none

/-- The value that the text denotes. -/
def Value.ofText? (s : List Char) : Option Value := Value.read? (Symbol.ofText s)

end PageHarvest.Json
