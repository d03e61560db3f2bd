import PageHarvest.Json.Value
import PageHarvest.Log.Filter

/-!
# Lines of a log

What a filter lets through is written line by line: as text, where the spans come before the message
and the fields after it, or as a JSON record, which names the innermost span.
-/

namespace PageHarvest.Log

/-- The form of the lines. -/
inductive Format
  | text | json
  deriving DecidableEq, Repr

/-- An event that is shown, with those of its spans that are. -/
structure Line where
  event : Event
  spans : List Span
  deriving DecidableEq, Repr

/-- What a filter shows of an entry. -/
def Entry.line? (f : Filter) : Entry → Option Line
  | event e within =>
    let spans := f.shownSpans [] within
    if f.showsEvent spans e then some ⟨e, spans⟩ else none
  | span _ => none

/-- The lines that a filter shows of a log. -/
def Filter.lines (f : Filter) (log : List Entry) : List Line := log.filterMap (Entry.line? f)

/-- A character between quotes. -/
def quoteChar (c : Char) : List Char :=
  if c = '"' then ['\\', '"']
  else if c = '\\' then ['\\', '\\']
  else if c = '\n' then ['\\', 'n']
  else if c = '\r' then ['\\', 'r']
  else if c = '\t' then ['\\', 't']
  else [c]

/-- A value as text; only what is a text as such has quotes. -/
def Value.toText : Value → String
  | .quoted t => String.ofList ('"' :: t.toList.flatMap quoteChar ++ ['"'])
  | v => String.ofList v.plain

/-- Fields as text. -/
def fieldsText (fs : Fields) : String :=
  " ".intercalate (fs.map fun (name, v) => name ++ "=" ++ v.toText)

/-- A span as text. -/
def Span.toText (s : Span) : String :=
  if s.fields.isEmpty then s.name
  else s.name ++ "\x7b" ++ fieldsText s.fields ++ "\x7d"

/-- A value as a JSON value. -/
def Value.toJson : Value → Json.Value
  | .shown t => .text t.toList
  | .quoted t => .text t.toList
  | .number n => .int n
  | .flag b => .bool b

/-- Fields as members of a JSON object. -/
def fieldsJson (fs : Fields) : List (String × Json.Value) := fs.map fun (name, v) => (name, v.toJson)

namespace Line

/-- The message and the fields. -/
def message (l : Line) : String :=
  " ".intercalate (l.event.message :: l.event.fields.map fun (name, v) => name ++ "=" ++ v.toText)

/-- The spans, the outermost first. -/
def spanText (l : Line) : String := ":".intercalate (l.spans.map Span.toText)

/-- The line as text. -/
def toText (l : Line) : String :=
  let spans := if l.spans.isEmpty then "" else l.spanText ++ ": "
  l.event.level.name ++ " " ++ spans ++ l.event.target ++ ": " ++ l.message

/-- The line as a JSON value. -/
def toJson (l : Line) : Json.Value :=
  let span := match l.spans.getLast? with
    | none => []
    | some s => [("span", .record (fieldsJson s.fields ++ [("name", .text s.name.toList)]))]
  .record ([("level", .text l.event.level.name.toList),
    ("fields", .record (("message", .text l.event.message.toList) :: fieldsJson l.event.fields)),
    ("target", .text l.event.target.toList)] ++ span)

/-- The line as it is written. -/
def write (f : Format) (l : Line) : String :=
  match f with
  | .text => l.toText
  | .json => String.ofList l.toJson.write

end Line

end PageHarvest.Log
