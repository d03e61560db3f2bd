import PageHarvest.Text.Symbol
import PageHarvest.Text.Hex

/-!
# JSON values

A `Value` keeps what a reader may need to know: members of objects in their order, repeated ones
included, numbers as they are written, and strings even where an escape names no character.
`Value.write` is the form without blanks.
-/

namespace PageHarvest.Json

open Text

/-- A JSON value. -/
inductive Value
  | null
  | bool (b : Bool)
  /-- A number as it is written. -/
  | number (digits : List Char)
  | string (s : List Symbol)
  | array (items : List Value)
  | object (members : List (List Symbol × Value))
  deriving Repr, Inhabited

namespace Value

/-- A text as a value. -/
def text (s : List Char) : Value := .string (Symbol.ofText s)

/-- An optional text as a value. -/
def text? : Option (List Char) → Value
  | some s => text s
  | none => null

/-- An integer as a value. -/
def int (n : Int) : Value := .number (toString n).toList

/-- A record as a value. -/
def record (fields : List (String × Value)) : Value :=
  .object (fields.map fun (name, v) => (Symbol.ofText name.toList, v))

end Value

/-- A character of a string as it is written. -/
def writeChar (c : Char) : List Char :=
  if c = '"' then ['\\', '"']
  else if c = '\\' then ['\\', '\\']
  else if c = '\x08' then ['\\', 'b']
  else if c = '\t' then ['\\', 't']
  else if c = '\n' then ['\\', 'n']
  else if c = '\x0c' then ['\\', 'f']
  else if c = '\r' then ['\\', 'r']
  else if c.toNat < 0x20 then '\\' :: 'u' :: Hex.padded 4 c.toNat
  else [c]

/-- A symbol of a string as it is written; a gap is half of a surrogate pair. -/
def writeSymbol : Symbol → List Char
  | some c => writeChar c
  | none => "\\ud800".toList

/-- A string as it is written. -/
def writeString (s : List Symbol) : List Char :=
  '"' :: s.flatMap writeSymbol ++ ['"']

mutual

/-- The value as it is written. -/
def Value.write : Value → List Char
  | .null => "null".toList
  | .bool true => "true".toList
  | .bool false => "false".toList
  | .number ds => ds
  | .string s => writeString s
  | .array [] => ['[', ']']
  | .array (v :: vs) => '[' :: v.write ++ writeItems vs
  | .object [] => ['\x7b', '\x7d']
  | .object ((k, v) :: ms) => '\x7b' :: writeString k ++ ':' :: v.write ++ writeMembers ms

/-- The items of an array after the first one, and its end. -/
def writeItems : List Value → List Char
  | [] => [']']
  | v :: vs => ',' :: v.write ++ writeItems vs

/-- The members of an object after the first one, and its end. -/
def writeMembers : List (List Symbol × Value) → List Char
  | [] => ['\x7d']
  | (k, v) :: ms => ',' :: writeString k ++ ':' :: v.write ++ writeMembers ms

end

end PageHarvest.Json
