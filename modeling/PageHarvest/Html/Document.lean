import PageHarvest.Html.Construction.Outside

/-!
# Reading a document

`Arena.ofMarkup` reads markup as a document.  There is no markup that it refuses.  Line ends are made
alike and a byte order mark is dropped; then the markup is cut into pieces one after the other, and
each token of a piece goes to the rules of the mode until one of them is done with it.
-/

namespace PageHarvest.Html

/-- The text with each line end written as one newline. -/
def newlines : List Char → List Char
  | '\r' :: '\n' :: s => '\n' :: newlines s
  | '\r' :: s => '\n' :: newlines s
  | c :: s => c :: newlines s
  | [] => []

namespace Construction

variable (c : Construction)

/-- A token under the rules that it falls under now. -/
def step (t : Token) : Step :=
  if c.fallsToForeign t then c.inForeign t else c.inMode t

/-- A token passed from rule to rule, at most `n` times. -/
def settle (t : Token) : Nat → Construction → Construction
  | 0, c => c
  | n + 1, c =>
    match c.step t with
    | .done c => c
    | .again c => settle t n c

/-- A token dealt with.  It is passed on only by rules that close an element, leave a template or go
forward in the order of the modes, so the number of open elements bounds how often that happens. -/
def dispatch (t : Token) : Construction :=
  settle t (8 * (c.stack.length + c.templateModes.length) + 16) c

/-- The next token read.  A newline at the start of preformatted text does not count, nor does a
declaration of the document type anywhere but before all else. -/
def feed (t : Token) : Construction :=
  let c' := { c with skipNewline := false }
  match t with
  | .malformed => c'
  | .doctype _ => if c.mode = .initial then c'.dispatch t else c'
  | .space ('\n' :: cs) =>
    if c.skipNewline then
      if cs.isEmpty then c' else c'.dispatch (.space cs)
    else c'.dispatch t
  | _ => c'.dispatch t

/-- The rest of the markup read. -/
def read (content : Content) (c : Construction) (s : List Char) : Construction :=
  match s with
  | [] => c.feed .eof
  | char :: s =>
    let piece := lex content c.isForeign char s
    let next := piece.tokens.foldl feed { c with content := none }
    read (next.content.getD piece.content) next piece.rest
termination_by s.length
decreasing_by
  have := length_rest_lex_le content c.isForeign char s
  simp only [List.length_cons]
  omega

end Construction

/-- The document that the markup denotes. -/
def Arena.ofMarkup (s : List Char) : Arena :=
  (Construction.start.read .data (newlines (dropMark s))).arena

end PageHarvest.Html
