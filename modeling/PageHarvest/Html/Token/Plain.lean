import PageHarvest.Html.Token.Lexer

/-!
# Text that is no markup

Read as markup, most text stands for itself.  `isPlain` tells which: at no place a tag, a comment, a
declaration or a character reference begins, there is no null character, and no byte order mark at
the front.
-/

namespace PageHarvest.Html

/-- An opening bracket in front of the text begins nothing. -/
def isBareBracket : List Char → Bool
  | [] => true
  | ['/'] => true
  | d :: _ => !(d == '!' || d == '?' || d == '/' || d.isAlpha)

/-- An ampersand in front of the text begins no reference. -/
def isBareAmpersand (s : List Char) : Bool :=
  let d := Reference.decode .text s
  d.chars == ['&'] && d.rest == s

/-- The character in front of the text stands for itself. -/
def standsAlone (c : Char) (s : List Char) : Bool :=
  if c = '<' then isBareBracket s else if c = '&' then isBareAmpersand s else c != '\x00'

/-- Each character of the text stands for itself. -/
def allStandAlone : List Char → Bool
  | [] => true
  | c :: s => standsAlone c s && allStandAlone s

/-- The text stands for itself. -/
def isPlain (s : List Char) : Bool := s.head? != some '\uFEFF' && allStandAlone s

end PageHarvest.Html
