import PageHarvest.Html.Tag

/-!
# Tokens of markup

What markup is cut into before a document is built from it.  Running text comes in runs that are
either all white space or free of it, because the two are treated differently outside the body
of a document; `ofChars` cuts text into such runs and `chars_ofChars` says that it loses nothing
but null characters.
-/

namespace PageHarvest.Html

/-- The characters that count as white space in markup. -/
def isSpace (c : Char) : Bool :=
  c == '\t' || c == '\n' || c == '\x0c' || c == '\r' || c == ' '

/-- An attribute of a start tag. -/
structure Attribute where
  name : List Char
  value : List Char
  deriving DecidableEq, Repr, Inhabited

/-- A start tag.  Of several attributes of one name only the first counts. -/
structure StartTag where
  tag : Tag
  attributes : List Attribute
  selfClosing : Bool
  deriving DecidableEq, Repr, Inhabited

namespace StartTag

/-- The value of the attribute with this name. -/
def get? (t : StartTag) (name : String) : Option (List Char) :=
  (t.attributes.find? fun a => a.name == name.toList).map Attribute.value

/-- The two tags have the same name and the same attributes in some order. -/
def agrees (t u : StartTag) : Bool :=
  t.tag == u.tag && t.attributes.isPerm u.attributes

end StartTag

/-- What markup is cut into. -/
inductive Token
  /-- The declaration of the document type, and whether it asks for the layout of old pages. -/
  | doctype (oldLayout : Bool)
  | startTag (t : StartTag)
  | endTag (tag : Tag)
  | comment
  /-- A null character. -/
  | null
  /-- A run of white space. -/
  | space (chars : List Char)
  /-- A run without white space. -/
  | text (chars : List Char)
  /-- Markup that breaks the rules and stands for nothing. -/
  | malformed
  /-- The end of the markup. -/
  | eof
  deriving DecidableEq, Repr, Inhabited

namespace Token

/-- The tokens with one more character of running text in front. -/
def glue (c : Char) (ts : List Token) : List Token :=
  if c = '\x00' then null :: ts
  else if isSpace c then
    match ts with
    | space cs :: ts => space (c :: cs) :: ts
    | ts => space [c] :: ts
  else
    match ts with
    | text cs :: ts => text (c :: cs) :: ts
    | ts => text [c] :: ts

/-- Running text as tokens. -/
def ofChars (s : List Char) : List Token :=
  s.foldr glue []

/-- The characters of a token of running text. -/
def chars : Token → List Char
  | null => ['\x00']
  | space cs => cs
  | text cs => cs
  | _ => []

theorem flatMap_chars_glue (c : Char) (ts : List Token) :
    (glue c ts).flatMap chars = c :: ts.flatMap chars := by
  unfold glue
  split
  · next h => simp [chars, h]
  · split <;> split <;> simp [chars]

/-- Cutting running text into tokens loses nothing. -/
theorem chars_ofChars (s : List Char) : (ofChars s).flatMap chars = s := by
  induction s with
  | nil => rfl
  | cons c s ih => rw [ofChars, List.foldr_cons, flatMap_chars_glue, ← ofChars, ih]

end Token

end PageHarvest.Html
