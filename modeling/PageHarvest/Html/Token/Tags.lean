import PageHarvest.Html.Token
import PageHarvest.Html.Reference

/-!
# Tags in markup

`scanTag` reads a tag from its name on: the name, the attributes and the closing bracket.  A tag
that the markup ends inside is no tag.  Every step takes one character, so the scan ends with the
text; `length_rest_scanTag_lt` says that what is left is shorter.
-/

namespace PageHarvest.Html

/-- A character of a name, in lower case and with null replaced. -/
def nameChar (c : Char) : Char :=
  if c = '\x00' then '\uFFFD' else c.toLower

/-- A character of a value, with null replaced. -/
def valueChar (c : Char) : Char :=
  if c = '\x00' then '\uFFFD' else c

/-- Where the scan of a tag stands after its name.  Names and values under construction are kept
back to front. -/
inductive TagScan
  /-- Between attributes. -/
  | between
  /-- After a slash. -/
  | slash
  | name (reversed : List Char)
  | afterName (name : List Char)
  | beforeValue (name : List Char)
  | quoted (quote : Char) (name reversed : List Char)
  | unquoted (name reversed : List Char)
  | afterQuoted

/-- What follows the name of a tag: its attributes, whether it closes itself, and the text after
its closing bracket. -/
structure TagEnd where
  attributes : List Attribute
  selfClosing : Bool
  rest : List Char

namespace TagScan

/-- The attributes, back to front, with one more unless its name is taken. -/
def add (name value : List Char) (attributes : List Attribute) : List Attribute :=
  if attributes.any (·.name == name) then attributes
  else ⟨name, Reference.expand value⟩ :: attributes

/-- Where the scan stands after a character that may begin an attribute. -/
def begin (c : Char) : TagScan :=
  if isSpace c then between
  else if c = '/' then slash
  else name [nameChar c]

/-- The scan from a given point on, with the attributes met so far back to front. -/
def run : TagScan → List Attribute → List Char → Option TagEnd
  | _, _, [] => none
  | between, as, c :: s =>
    if c = '>' then some ⟨as.reverse, false, s⟩ else run (begin c) as s
  | slash, as, c :: s =>
    if c = '>' then some ⟨as.reverse, true, s⟩ else run (begin c) as s
  | name rev, as, c :: s =>
    if isSpace c then run (afterName rev.reverse) as s
    else if c = '/' then run slash (add rev.reverse [] as) s
    else if c = '=' then run (beforeValue rev.reverse) as s
    else if c = '>' then some ⟨(add rev.reverse [] as).reverse, false, s⟩
    else run (name (nameChar c :: rev)) as s
  | afterName n, as, c :: s =>
    if isSpace c then run (afterName n) as s
    else if c = '=' then run (beforeValue n) as s
    else if c = '>' then some ⟨(add n [] as).reverse, false, s⟩
    else run (begin c) (add n [] as) s
  | beforeValue n, as, c :: s =>
    if isSpace c then run (beforeValue n) as s
    else if c = '"' ∨ c = '\'' then run (quoted c n []) as s
    else if c = '>' then some ⟨(add n [] as).reverse, false, s⟩
    else run (unquoted n [valueChar c]) as s
  | quoted q n rev, as, c :: s =>
    if c = q then run afterQuoted (add n rev.reverse as) s
    else run (quoted q n (valueChar c :: rev)) as s
  | unquoted n rev, as, c :: s =>
    if isSpace c then run between (add n rev.reverse as) s
    else if c = '>' then some ⟨(add n rev.reverse as).reverse, false, s⟩
    else run (unquoted n (valueChar c :: rev)) as s
  | afterQuoted, as, c :: s =>
    if c = '>' then some ⟨as.reverse, false, s⟩ else run (begin c) as s

theorem length_rest_run_lt {scan : TagScan} {as : List Attribute} {s : List Char} {e : TagEnd}
    (h : run scan as s = some e) : e.rest.length < s.length := by
  fun_induction run scan as s <;> grind

end TagScan

/-- A character that ends the name of a tag. -/
def endsTagName (c : Char) : Bool :=
  isSpace c || c == '/' || c == '>'

/-- The tag whose name begins the text, and what follows the tag. -/
def scanTag (s : List Char) : Option (StartTag × List Char) :=
  let name := s.takeWhile (!endsTagName ·)
  let after := s.dropWhile (!endsTagName ·)
  (TagScan.run .between [] after).map fun e =>
    (⟨Tag.ofName (name.map nameChar), e.attributes, e.selfClosing⟩, e.rest)

theorem length_rest_scanTag_lt {s rest : List Char} {t : StartTag}
    (h : scanTag s = some (t, rest)) : rest.length < s.length := by
  simp only [scanTag, Option.map_eq_some_iff, Prod.mk.injEq] at h
  obtain ⟨e, he, -, rfl⟩ := h
  exact Nat.lt_of_lt_of_le (TagScan.length_rest_run_lt he) (Text.length_dropWhile_le _ _)

end PageHarvest.Html
