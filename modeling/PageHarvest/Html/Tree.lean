import PageHarvest.Html.Arena

/-!
# Trees in arenas

`Arena.Holds` says that a tree stands in an arena: its nodes are reached by the names of first children
and next neighbours.  Of the parents that nodes name it asks no more than what a reader of the tree
relies on, since rows that have changed hands leave some nodes with the name of an earlier parent: going up by
these names from a node, one may miss nodes that it is below, but none that is hidden, and the last node
of a row names the one that it is below.  `Arena.ofTree` is an arena for each tree, and `Node.bare` is what
is left of a tree when nothing stands below its hidden elements.
-/

namespace PageHarvest.Html

namespace Node

mutual

/-- The number of nodes of a tree. -/
def count : Node → Nat
  | text _ => 1
  | comment => 1
  | element _ children => countOf children + 1
  | fragment children => countOf children + 1

/-- The number of nodes of trees. -/
def countOf : List Node → Nat
  | [] => 0
  | n :: ns => n.count + countOf ns

end

mutual

/-- The tree with nothing below its hidden elements. -/
def bare : Node → Node
  | text cs => text cs
  | comment => comment
  | element name children => element name (if name.tag.isHidden then [] else bareOf children)
  | fragment children => fragment (bareOf children)

/-- The trees with nothing below their hidden elements. -/
def bareOf : List Node → List Node
  | [] => []
  | n :: ns => n.bare :: bareOf ns

end

end Node

namespace Arena

variable (a : Arena)

/-- What a node is. -/
def kind? (id : Nat) : Option Kind := a.cells[id]?.map Cell.kind

/-- The first child of a node. -/
def first? (id : Nat) : Option Nat := (a.ends? id).map Prod.fst

/-- Going up by the names of parents from `id`, one comes past the nodes of a path, the nearest first,
and misses none of them that is hidden. -/
inductive Below : List Nat → Nat → Prop
  | top {id : Nat} (parent : a.parent? id = none) : Below [] id
  | step {id parent : Nat} {between above : List Nat} (named : a.parent? id = some parent)
    (shown : ∀ i ∈ between, a.isHidden i = false) (rest : Below above parent) :
    Below (between ++ parent :: above) id

mutual

/-- The tree stands at the node `id`, which is below the nodes of `path`, the nearest first. -/
def Stands (path : List Nat) (id : Nat) : Node → Prop
  | .text cs => a.Below path id ∧ a.text? id = some cs ∧ a.first? id = none
  | .comment => a.Below path id ∧ a.kind? id = some .comment ∧ a.first? id = none
  | .element name children =>
    a.Below path id ∧ a.kind? id = some (.element name) ∧
      StandInRow (id :: path) (a.first? id) children
  | .fragment children =>
    a.Below path id ∧ a.kind? id = some .document ∧ StandInRow (id :: path) (a.first? id) children

/-- The trees stand one after the other in a row of neighbours that begins at `row`. -/
def StandInRow (path : List Nat) (row : Option Nat) : List Node → Prop
  | [] => row = none
  | n :: ns => ∃ id, row = some id ∧ Stands path id n ∧ (ns = [] → a.parent? id = path.head?) ∧
      StandInRow path (a.next? id) ns

end

/-- The document of the arena is the tree. -/
def Holds (t : Node) : Prop := a.Stands [] root t

mutual

/-- The nodes at which a tree stands, in order. -/
def places (id : Nat) : Node → List Nat
  | .text _ => [id]
  | .comment => [id]
  | .element _ children => id :: placesInRow (a.first? id) children
  | .fragment children => id :: placesInRow (a.first? id) children

/-- The nodes at which trees in a row stand, in order. -/
def placesInRow (row : Option Nat) : List Node → List Nat
  | [] => []
  | n :: ns =>
    match row with
    | some id => places id n ++ placesInRow (a.next? id) ns
    | none => []

end

/-- The number of the last tree of a row that is numbered from `id` on. -/
def lastFrom (id : Nat) : List Node → Nat
  | [] => id
  | [_] => id
  | n :: m :: ns => lastFrom (id + n.count) (m :: ns)

/-- The ends of a row of trees that is numbered from `id` on. -/
def endsFrom (id : Nat) (ns : List Node) : Option (Nat × Nat) :=
  if ns.isEmpty then none else some (id, lastFrom id ns)

mutual

/-- The cells of a tree, numbered in document order from `id` on. -/
def cellsFrom (parent previous next : Option Nat) (id : Nat) : Node → List Cell
  | .text cs => [{ kind := .text [cs], parent, previous, next }]
  | .comment => [{ kind := .comment, parent, previous, next }]
  | .element name children =>
    { kind := .element name, parent, previous, next, ends := endsFrom (id + 1) children } ::
      rowFrom id none (id + 1) children
  | .fragment children =>
    { kind := .document, parent, previous, next, ends := endsFrom (id + 1) children } ::
      rowFrom id none (id + 1) children

/-- The cells of a row of trees, numbered in document order from `id` on. -/
def rowFrom (parent : Nat) (previous : Option Nat) (id : Nat) : List Node → List Cell
  | [] => []
  | n :: ns =>
    cellsFrom (some parent) previous (if ns.isEmpty then none else some (id + n.count)) id n ++
      rowFrom parent (some id) (id + n.count) ns

end

/-- A tree as an arena. -/
def ofTree (t : Node) : Arena := ⟨(cellsFrom none none none root t).toArray⟩

end Arena

end PageHarvest.Html
