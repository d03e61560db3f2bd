import PageHarvest.TraceParent

/-!
# Log entries

What a program says about its work while it does it: events, and the beginnings of spans.  A span is
a stretch of work with a name, which may continue a trace that began elsewhere; an event tells which
spans it happened in.
-/

namespace PageHarvest.Log

/-- How important an event is. -/
inductive Level
  | trace | debug | info | warn | error
  deriving DecidableEq, Repr

namespace Level

/-- The written form. -/
def name : Level → String
  | trace => "TRACE"
  | debug => "DEBUG"
  | info => "INFO"
  | warn => "WARN"
  | error => "ERROR"

/-- The place in the order of importance. -/
def rank : Level → Nat
  | trace => 0
  | debug => 1
  | info => 2
  | warn => 3
  | error => 4

end Level

/-- A value that goes with an event or a span. -/
inductive Value
  /-- The display of a value. -/
  | shown (text : String)
  /-- A text as such. -/
  | quoted (text : String)
  | number (n : Int)
  | flag (b : Bool)
  deriving DecidableEq, Repr

/-- Named values. -/
abbrev Fields := List (String × Value)

/-- Something that happened. -/
structure Event where
  level : Level
  /-- The part of the program that it happened in. -/
  target : String
  message : String
  fields : Fields
  deriving DecidableEq, Repr

/-- A stretch of work with a name. -/
structure Span where
  level : Level := .info
  /-- The part of the program that it happens in. -/
  target : String
  name : String
  fields : Fields
  /-- Where the work comes from in a trace, if it continues one. -/
  parent : Option TraceParent := none
  deriving DecidableEq, Repr

/-- An entry of a log. -/
inductive Entry
  /-- An event, and the spans that it is in, the outermost first. -/
  | event (e : Event) (within : List Span)
  /-- The beginning of a span. -/
  | span (s : Span)
  deriving DecidableEq, Repr

namespace Entry

/-- The entry as seen from outside a span that it is in. -/
def inSpan (s : Span) : Entry → Entry
  | event e within => event e (s :: within)
  | span t => span t

end Entry

/-- The entries of work done in a span: the beginning of the span, and what happened in it. -/
def spanning (s : Span) (entries : List Entry) : List Entry :=
  .span s :: entries.map (Entry.inSpan s)

end PageHarvest.Log
