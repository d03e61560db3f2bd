import PageHarvest.Page.Blocks
import PageHarvest.Page.Visible
import PageHarvest.Phrase.Collapse

/-!
# The text of a page

`normalize` turns markup into plain text: the visible blocks without the repeated ones, joined and
with repeated phrases collapsed.  Character references can spell out markup, so the result is read
as markup again, for as long as that makes it shorter.
-/

namespace PageHarvest.Page

open Text

/-- What is taken for a repetition. -/
structure Settings where
  /-- The number of words of the longest phrase that is collapsed. -/
  maxPhrase : Nat := 20
  /-- A block of one word goes when it echoes the one-word block kept last. -/
  collapseWords : Bool := true
  deriving DecidableEq, Repr

/-- The text of the markup, read once. -/
def normalizeOnce (settings : Settings) (markup : List Char) : List Char :=
  let kept := dropRepeats settings.collapseWords (blocks markup)
  let joined := squeeze (unwords kept)
  unwords (Phrase.collapse settings.maxPhrase (words joined))

/-- The text read as markup again as long as it gets shorter. -/
def settle (settings : Settings) (text : List Char) : List Char :=
  let next := normalizeOnce settings text
  if byteLength next < byteLength text then settle settings next else text
termination_by byteLength text

/-- The text of the markup. -/
def normalize (settings : Settings) (markup : List Char) : List Char :=
  settle settings (normalizeOnce settings markup)

end PageHarvest.Page
