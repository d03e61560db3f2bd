import PageHarvest.Text.Blank

/-!
# Files of variables

A file gives values to variables, `NAME=value` on a line each.  A value may be quoted, and may then go
on over several lines; it may refer to other variables with `$NAME` or with braces.  A variable that
has a value keeps it (`load`), and a line that cannot be read ends the reading.
-/

namespace PageHarvest.Config.EnvFile

open Text

/-- Variables and their values. -/
abbrev Bindings := List (String × String)

/-! ### Lines -/

/-- Where a line may be at. -/
inductive Place
  /-- There were only blanks so far. -/
  | start
  | plain
  /-- After the first of some blanks. -/
  | blank
  | escaped
  | single
  | singleEscaped
  | double
  | doubleEscaped
  | comment
  deriving DecidableEq, Repr

/-- The place after a character outside of quotes. -/
def Place.outside (c : Char) : Place :=
  if isBlank c && c != '\n' && c != '\r' then blank
  else if c = '\\' then escaped
  else if c = '"' then double
  else if c = '\'' then single
  else plain

/-- The place after a character. -/
def Place.next (p : Place) (c : Char) : Place :=
  match p with
  | start => if c = '#' then comment else if isBlank c then start else outside c
  | plain => outside c
  -- A comment begins after one blank, but not after two.
  | blank => if c = '#' then comment else if isBlank c then plain else outside c
  | escaped => plain
  | single => if c = '\\' then singleEscaped else if c = '\'' then plain else single
  | singleEscaped => single
  | double => if c = '\\' then doubleEscaped else if c = '"' then plain else double
  | doubleEscaped => double
  | comment => if c = '\n' then plain else comment

/-- A line may end at this place. -/
def Place.isComplete : Place → Bool
  | start | plain | comment => true
  | _ => false

/-- The lines of a file, without comments and with the line ends that are inside of quotes.  A line
that does not end gives none.  The second argument is the line so far, the last character first. -/
def lines : Place → List Char → List Char → List (Option (List Char))
  | p, before, [] => [if p.isComplete then some before.reverse else none]
  | p, before, c :: s =>
    let next := p.next c
    if c = '\n' ∧ next.isComplete then some before.reverse :: lines .start [] s
    else if next = .comment then lines .comment before s
    else lines next (c :: before) s

/-! ### Values -/

/-- How the next character of a value is to be understood. -/
inductive Mode
  | text
  | escaped
  | single
  /-- In the name of a variable after a dollar sign. -/
  | name (before : List Char)
  /-- In the name of a variable in braces. -/
  | braced (before : List Char)
  /-- After the end of the value. -/
  | ended
  deriving DecidableEq, Repr

/-- A value that is being read. -/
structure Reading where
  mode : Mode := .text
  inDouble : Bool := false
  output : List Char := []
  deriving DecidableEq, Repr

/-- The value of the variable with the name read so far; it is empty if there is none. -/
def substitute (vars : Bindings) (before : List Char) : List Char :=
  ((vars.lookup (String.ofList before)).getD "").toList

/-- The character may be in the name of a variable after a dollar sign. -/
def isNameChar (c : Char) : Bool := c.isAlphanum || (c.toNat > 0x7F && !isBlank c)

/-- The value after another character that is not part of a name. -/
def Reading.text (r : Reading) (c : Char) : Reading :=
  if c = '$' then { r with mode := .name [] }
  else if r.inDouble then
    if c = '"' then { r with inDouble := false }
    else if c = '\\' then { r with mode := .escaped }
    else { r with output := r.output ++ [c] }
  else if c = '\'' then { r with mode := .single }
  else if c = '"' then { r with inDouble := true }
  else if c = '\\' then { r with mode := .escaped }
  else if c = ' ' ∨ c = '\t' then { r with mode := .ended }
  else { r with output := r.output ++ [c] }

/-- What an escape stands for. -/
def escaped? (c : Char) : Option Char :=
  if c = 'n' then some '\n'
  else if ['\\', '\'', '"', '$', ' '].contains c then some c
  else none

/-- The value that the characters go on with.  Only blanks and a comment may follow its end. -/
def readValue? (vars : Bindings) (r : Reading) : List Char → Option (List Char)
  | [] =>
    if r.inDouble then none
    else match r.mode with
      | .single | .braced _ => none
      | .name before => some (r.output ++ substitute vars before)
      | _ => some r.output
  | c :: s =>
    match r.mode with
    | .ended =>
      if c = ' ' ∨ c = '\t' then readValue? vars r s
      else if c = '#' then readValue? vars r []
      else none
    | .escaped =>
      match escaped? c with
      | some d => readValue? vars { r with mode := .text, output := r.output ++ [d] } s
      | none => none
    | .single =>
      if c = '\'' then readValue? vars { r with mode := .text } s
      else readValue? vars { r with output := r.output ++ [c] } s
    | .name before =>
      if isNameChar c then readValue? vars { r with mode := .name (before ++ [c]) } s
      else if c = '\x7b' ∧ before.isEmpty then readValue? vars { r with mode := .braced [] } s
      else
        -- The character that ends a name stands for itself, be it a quote or a blank.
        let output := r.output ++ substitute vars before
        if c = '$' then readValue? vars { r with mode := .name [], output } s
        else readValue? vars { r with mode := .text, output := output ++ [c] } s
    | .braced before =>
      if c = '\x7d' then
        readValue? vars { r with mode := .text, output := r.output ++ substitute vars before } s
      else readValue? vars { r with mode := .braced (before ++ [c]) } s
    | .text => readValue? vars (r.text c) s

/-! ### Assignments -/

/-- The name of a variable, and what comes after it and the blanks that follow. -/
def readName? (s : List Char) : Option (List Char × List Char) :=
  match s with
  | [] => none
  | c :: _ =>
    if c.isAlpha || c == '_' then
      let name := s.takeWhile fun c => c.isAlphanum || c == '_' || c == '.'
      some (name, trimLeft (s.drop name.length))
    else none

/-- What comes after the sign of equality, without the blanks that follow it. -/
def readEqual? : List Char → Option (List Char)
  | '=' :: s => some (trimLeft s)
  | _ => none

/-- A name, which the word `export` may stand before, and the text of the value. -/
def readAssignment? (s : List Char) : Option (List Char × List Char) := do
  let (name, s) ← readName? s
  match readEqual? s with
  | some s => some (name, s)
  | none =>
    if name = "export".toList then do
      let (name, s) ← readName? s
      some (name, ← readEqual? s)
    else none

/-- The variables after a line, if it can be read. -/
def readLine? (vars : Bindings) (line : List Char) : Option Bindings :=
  match trim line with
  | [] => some vars
  | '#' :: _ => some vars
  | s => do
    let (name, s) ← readAssignment? s
    let value ← if s.isEmpty ∨ s.head? = some '#' then some [] else readValue? vars {} s
    let name := String.ofList name
    some (if (vars.lookup name).isSome then vars else vars ++ [(name, String.ofList value)])

/-- The variables after some lines. -/
def readLines (vars : Bindings) : List (Option (List Char)) → Bindings
  | some line :: rest =>
    match readLine? vars line with
    | some vars => readLines vars rest
    | none => vars
  | _ => vars

/-- The variables after the reading of a file.  A byte order mark at its front does not count. -/
def load (vars : Bindings) (file : List Char) : Bindings :=
  readLines vars (lines .start [] (if file.head? = some '\uFEFF' then file.drop 1 else file))

end PageHarvest.Config.EnvFile
