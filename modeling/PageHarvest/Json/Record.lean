import PageHarvest.Json.Reader

/-!
# Records in JSON

A record with named fields is an object, whose further members do not count, or an array of the
fields in their order.  `fields?` finds the fields in either form; what a field holds is read by the
functions after it.
-/

namespace PageHarvest.Json

open Text

namespace Value

/-- The values of the members with this name. -/
def named (name : String) (members : List (List Symbol × Value)) : List Value :=
  (members.filter (·.1 == Symbol.ofText name.toList)).map Prod.snd

/-- Every name is a text, and none of the given names is there twice. -/
def namesAreSound (names : List String) (members : List (List Symbol × Value)) : Bool :=
  members.all (fun m => (Symbol.text? m.1).isSome) &&
    names.all fun name => (named name members).length ≤ 1

/-- The values of the fields with the given names.  `required` tells how many of the fields an array
has to give. -/
def fields? (names : List String) (required : Nat) : Value → Option (List (Option Value))
  | .object members =>
    if namesAreSound names members then some (names.map fun name => (named name members).head?)
    else none
  | .array items =>
    if required ≤ items.length ∧ items.length ≤ names.length then
      some (items.map some ++ List.replicate (names.length - items.length) none)
    else none
  | _ => none

/-- A text. -/
def asText? : Value → Option (List Char)
  | .string s => Symbol.text? s
  | _ => none

/-- A list of values that `read` accepts. -/
def asList? {α : Type} (read : Value → Option α) : Value → Option (List α)
  | .array vs => vs.mapM read
  | _ => none

/-- An integer, written without point and exponent and not as the negative of zero. -/
def asInt? : Value → Option Int
  | .number ('-' :: ds) =>
    if ds.all Char.isDigit ∧ ds ≠ ['0'] then some (-(Nat.ofDigitChars 10 ds 0)) else none
  | .number ds => if ds.all Char.isDigit then some (Nat.ofDigitChars 10 ds 0) else none
  | _ => none

/-- A value that may be null. -/
def asOptional? {α : Type} (read : Value → Option α) : Value → Option (Option α)
  | .null => some none
  | v => (read v).map some

end Value

/-- A field that has to be there. -/
def needed? {α : Type} (read : Value → Option α) (field : Option Value) : Option α :=
  field.bind read

/-- A field that may be missing or null. -/
def optional? {α : Type} (read : Value → Option α) : Option Value → Option (Option α)
  | none => some none
  | some v => v.asOptional? read

end PageHarvest.Json
