import PageHarvest.Html.Tag

/-!
# Documents as trees

`Node` is the tree that markup denotes, as far as its text goes, and `Node.texts` is the text that a
reader sees: everything but what stands below an element whose contents are not rendered.
-/

namespace PageHarvest.Html

/-- A document, or a part of it.  Comments keep their place, because text on both sides of a comment
is not one text; their contents are of no use here. -/
inductive Node
  | text (chars : List Char)
  | comment
  | element (name : ElementName) (children : List Node)
  /-- A document. -/
  | fragment (children : List Node)
  deriving Repr, Inhabited

namespace Node

mutual

/-- The visible texts of a node, in document order. -/
def texts : Node → List (List Char)
  | text cs => [cs]
  | comment => []
  | element name children => if name.tag.isHidden then [] else textsOf children
  | fragment children => textsOf children

/-- The visible texts of a list of nodes, in document order. -/
def textsOf : List Node → List (List Char)
  | [] => []
  | n :: ns => n.texts ++ textsOf ns

end

end Node

end PageHarvest.Html
