import PageHarvest.Log.Entry
import PageHarvest.Number.Unsigned
import PageHarvest.Text.Blank

/-!
# What is shown of a log

A `Filter` is a list of directives.  Each says from which level on something is shown: in a part of
the program, within certain spans, or about certain fields.  Of several directives for an event the
most specific one counts, and being in a span that a directive speaks of can show it as well.
-/

namespace PageHarvest.Log

open Text

/-! ### Thresholds -/

/-- The least important level that is shown; without one, nothing is shown. -/
abbrev Threshold := Option Level

namespace Threshold

/-- What is of this level is shown. -/
def allows (t : Threshold) (l : Level) : Bool := t.any (·.rank ≤ l.rank)

/-- The threshold that shows what either of two shows. -/
def either (t u : Threshold) : Threshold :=
  match t, u with
  | some a, some b => some (if a.rank ≤ b.rank then a else b)
  | some a, none => some a
  | none, u => u

/-- Thresholds by their numbers. -/
def numbered : List Threshold :=
  [none, some .error, some .warn, some .info, some .debug, some .trace]

/-- Thresholds by their names. -/
def named : List (String × Threshold) :=
  [("error", some .error), ("warn", some .warn), ("info", some .info), ("debug", some .debug),
   ("trace", some .trace), ("off", none)]

/-- The threshold with this number or this name, in any case. -/
def ofText? (s : List Char) : Option Threshold :=
  let byNumber := match Number.readUnsigned (Number.beyondBits 64) s with
    | .ok n => numbered[n]?
    | .error _ => none
  byNumber.or (named.lookup (String.ofList (s.map Char.toLower)))

end Threshold

/-! ### Directives -/

/-- A field that a span has to have, perhaps with a value. -/
structure FieldTest where
  name : List Char
  wanted : Option (List Char) := none
  deriving DecidableEq, Repr

/-- A line of a filter. -/
structure Directive where
  /-- What the names of the parts of the program that are meant begin with. -/
  target : List Char := []
  span : Option (List Char) := none
  fields : List FieldTest := []
  threshold : Threshold := some .trace
  deriving DecidableEq, Repr

/-- The text of a value of a number or flag, or the text itself. -/
def Value.plain : Value → List Char
  | .shown t => t.toList
  | .quoted t => t.toList
  | .number n => (toString n).toList
  | .flag b => (toString b).toList

namespace Directive

/-- The directive speaks of spans. -/
def isAboutSpans (d : Directive) : Bool := d.span.isSome || !d.fields.isEmpty

/-- The directive speaks of events. -/
def isAboutEvents (d : Directive) : Bool := d.span.isNone && d.fields.all (·.wanted.isNone)

/-- The directive is meant for this part of the program. -/
def covers (d : Directive) (target : String) : Bool := d.target.isPrefixOf target.toList

/-- There is a field with each of the names. -/
def hasFields (d : Directive) (fields : Fields) : Bool :=
  d.fields.all fun f => fields.any (·.1.toList == f.name)

/-- The directive speaks of this span. -/
def concerns (d : Directive) (s : Span) : Bool :=
  d.isAboutSpans && d.covers s.target && d.span.all (· == s.name.toList) && d.hasFields s.fields

/-- The fields have the values that are wanted. -/
def hasValues (d : Directive) (fields : Fields) : Bool :=
  d.fields.all fun f => f.wanted.all fun t =>
    fields.any fun (name, v) => name.toList == f.name && v.plain == t

/-- The directive counts for this event. -/
def counts (d : Directive) (e : Event) : Bool :=
  d.isAboutEvents && d.covers e.target && d.hasFields (("message", .shown e.message) :: e.fields)

/-- How specific the directive is. -/
def rank (d : Directive) : Nat × Nat := (d.target.length, d.fields.length)

/-- The directive is as specific as another one. -/
def asSpecific (d e : Directive) : Bool :=
  e.target.length < d.target.length ||
    (e.target.length == d.target.length && e.fields.length ≤ d.fields.length)

/-- The most specific of the directives, of equals the last one. -/
def mostSpecific : List Directive → Option Directive
  | [] => none
  | d :: ds =>
    match mostSpecific ds with
    | none => some d
    | some e => some (if e.asSpecific d then e else d)

/-! ### Reading directives -/

/-- The character may begin a directive. -/
def isStart (c : Char) : Bool :=
  c.isAlphanum || c.toNat > 0x7F || c == '-' || c == ':' || c == '_'

/-- A field, and its value after a sign of equality. -/
def readField? (s : List Char) : Option FieldTest :=
  if s.isEmpty then none
  else
    let (name, rest) := cut (· == '=') s
    some ⟨name, match rest with
      | [] => none
      -- A second sign of equality, and what follows it, does not count.
      | _ :: r => some (cut (· == '=') r).1⟩

/-- What comes at the end of a directive: nothing, or a threshold. -/
def readEnd? (d : Directive) (s : List Char) : Option Directive :=
  match s with
  | [] => some d
  | '=' :: [] => some d
  | '=' :: r => (Threshold.ofText? r).map fun threshold => { d with threshold }
  | _ => none

/-- The span of a directive, and what comes after it. -/
def readSpan? (d : Directive) (s : List Char) : Option Directive :=
  let name := s.takeWhile fun c => c != ']' && c != '\x7b'
  match s.drop name.length with
  | ']' :: r => { d with span := some name }.readEnd? (trimRight r)
  | '\x7b' :: r =>
    let (inside, rest) := cut (· == '\x7d') r
    match rest, (split (· == ',') inside).mapM readField? with
    | '\x7d' :: ']' :: r, some fields =>
      { d with span := if name.isEmpty then none else some name, fields }.readEnd? (trimRight r)
    | _, _ => none
  | _ => none

/-- The directive that a text spells.  A threshold alone is one for the whole program, and without a
threshold everything is shown. -/
def ofText? (s : List Char) : Option Directive :=
  match s with
  | [] => none
  | '[' :: r => readSpan? {} r
  | c :: _ =>
    let head := s.takeWhile fun c => c != '=' && c != '['
    match s.drop head.length with
    | [] =>
      if isBlank c && (trim s).isEmpty then none
      else if isBlank c || isStart c then
        some ((Threshold.ofText? s).elim { target := s } fun threshold => { threshold })
      else none
    | rest =>
      if isStart c then
        match rest with
        | '[' :: r => readSpan? { target := head } r
        | r => readEnd? { target := head } r
      else none

end Directive

/-! ### Filters -/

/-- What is to be shown of a log. -/
abbrev Filter := List Directive

namespace Filter

/-- The filter that a text with commas between the directives spells. -/
def ofText? (s : List Char) : Option Filter :=
  ((split (· == ',') s).filter (!·.isEmpty)).mapM Directive.ofText?

/-- What the directives that speak of a span show of what happens in it, if there are any. -/
def inSpan? (f : Filter) (s : Span) : Option Threshold :=
  match f.filter (·.concerns s) with
  | [] => none
  | ds => some (((ds.filter (·.hasValues s.fields)).map (·.threshold)).foldr .either none)

/-- Being in the spans shows what is of this level. -/
def allowsWithin (f : Filter) (within : List Span) (l : Level) : Bool :=
  within.any fun s => (f.inSpan? s).any (·.allows l)

/-- The most specific directive shows what is of this level. -/
def allowsOutright (ds : List Directive) (l : Level) : Bool :=
  (Directive.mostSpecific ds).any (·.threshold.allows l)

/-- The event is shown if it happens in these spans. -/
def showsEvent (f : Filter) (within : List Span) (e : Event) : Bool :=
  f.allowsWithin within e.level || allowsOutright (f.filter (·.counts e)) e.level

/-- The span is shown if it begins in these spans. -/
def showsSpan (f : Filter) (within : List Span) (s : Span) : Bool :=
  (f.inSpan? s).isSome || f.allowsWithin within s.level ||
    allowsOutright (f.filter fun d => d.isAboutEvents && d.covers s.target) s.level

/-- Those of the spans that are shown, if `outer` are those around them. -/
def shownSpans (f : Filter) (outer : List Span) : List Span → List Span
  | [] => []
  | s :: ss =>
    if f.showsSpan outer s then s :: f.shownSpans (outer ++ [s]) ss else f.shownSpans outer ss

end Filter

end PageHarvest.Log
