import PageHarvest.Html.Document
import PageHarvest.Text.Blank

/-!
# The visible text of a page

Each text of a document that a reader sees is one block.  Texts below an element whose contents are
not rendered are left out, and so are blank ones; the others are trimmed.
-/

namespace PageHarvest.Page

open Text

/-- Texts as blocks: trimmed, and without the blank ones. -/
def trimmed (texts : List (List Char)) : List (List Char) :=
  (texts.map trim).filter (!·.isEmpty)

/-- The blocks of the document that the markup denotes. -/
def blocks (markup : List Char) : List (List Char) :=
  trimmed (Html.Arena.ofMarkup markup).visibleTexts

end PageHarvest.Page
