import PageHarvest.Html.Node

/-!
# Trees under construction

In an `Arena` nodes have numbers, so that the rules that move nodes about can speak of them.  A node
names its parent and its neighbours, and the first and the last of its children; the children are a
row of neighbours.  When a whole row changes hands (`moveChildren`), only its two ends are told of
the new parent.  `visibleTexts` reads a tree off an arena by walking along these names.
-/

namespace PageHarvest.Html

/-- What a node of an arena is.  A text is kept in pieces, the last piece first. -/
inductive Kind
  | document
  | comment
  | text (pieces : List (List Char))
  | element (name : ElementName)
  deriving DecidableEq, Repr, Inhabited

/-- A node of an arena, with the nodes that it names. -/
structure Cell where
  kind : Kind
  parent : Option Nat := none
  previous : Option Nat := none
  next : Option Nat := none
  /-- The first and the last child. -/
  ends : Option (Nat × Nat) := none
  deriving DecidableEq, Repr, Inhabited

/-- Numbered nodes; the first one is the document. -/
structure Arena where
  cells : Array Cell
  deriving DecidableEq, Repr, Inhabited

namespace Arena

/-- The number of the document. -/
def root : Nat := 0

/-- A document without contents. -/
def empty : Arena := ⟨#[{ kind := .document }]⟩

variable (a : Arena)

/-! ### What a node names -/

/-- The parent that a node names. -/
def parent? (id : Nat) : Option Nat := a.cells[id]?.bind Cell.parent

/-- The neighbour before a node. -/
def previous? (id : Nat) : Option Nat := a.cells[id]?.bind Cell.previous

/-- The neighbour after a node. -/
def next? (id : Nat) : Option Nat := a.cells[id]?.bind Cell.next

/-- The first and the last child of a node. -/
def ends? (id : Nat) : Option (Nat × Nat) := a.cells[id]?.bind Cell.ends

/-! ### Changing the tree -/

/-- A node that is in no tree yet, and its number. -/
def create (kind : Kind) : Arena × Nat :=
  (⟨a.cells.push { kind }⟩, a.cells.size)

/-- The cell of a node, changed by `f`. -/
def modify (id : Nat) (f : Cell → Cell) : Arena :=
  ⟨a.cells.modify id f⟩

/-- The cell of a node, if there is one, changed by `f`. -/
def modify? (id : Option Nat) (f : Cell → Cell) : Arena :=
  match id with
  | some id => a.modify id f
  | none => a

/-- The ends of a row that a node leaves, where `previous` and `next` were its neighbours.  A row of
one is empty afterwards. -/
def endsWithout (id : Nat) (previous next : Option Nat) : Nat × Nat → Option (Nat × Nat)
  | (first, last) =>
    if first = last then none
    else if first = id then next.map (·, last)
    else if last = id then previous.map (first, ·)
    else some (first, last)

/-- The node taken out of its row, with all that is below it. -/
def detach (id : Nat) : Arena :=
  match a.parent? id with
  | none => a
  | some parent =>
    let previous := a.previous? id
    let next := a.next? id
    -- The neighbours now name each other, and the parent other ends if need be.
    (((a.modify id fun c => { c with parent := none, previous := none, next := none }).modify?
      previous fun c => { c with next }).modify?
      next fun c => { c with previous }).modify
      parent fun c => { c with ends := c.ends.bind (endsWithout id previous next) }

/-- The node made the last child of `parent`. -/
def append (parent child : Nat) : Arena :=
  let a := a.detach child
  let last := (a.ends? parent).map Prod.snd
  ((a.modify child fun c => { c with parent := some parent, previous := last }).modify?
    last fun c => { c with next := some child }).modify
    parent fun c => { c with ends := some ((c.ends.map Prod.fst).getD child, child) }

/-- The node made the neighbour before `sibling`, which has the parent `parent`. -/
def insertBefore (parent sibling child : Nat) : Arena :=
  let a := a.detach child
  let previous := a.previous? sibling
  (((a.modify child fun c =>
      { c with parent := some parent, previous, next := some sibling }).modify?
    previous fun c => { c with next := some child }).modify
    sibling fun c => { c with previous := some child }).modify
    parent fun c => { c with ends := c.ends.map fun (first, last) =>
      (if first = sibling then child else first, last) }

/-- All children of one node moved to the end of another. -/
def moveChildren (source target : Nat) : Arena :=
  match a.ends? source with
  | none => a
  | some (first, last) =>
    let a := ((a.modify source fun c => { c with ends := none }).modify
      first fun c => { c with parent := some target }).modify
      last fun c => { c with parent := some target }
    match a.ends? target with
    | none => a.modify target fun c => { c with ends := some (first, last) }
    | some (oldFirst, oldLast) =>
      ((a.modify oldLast fun c => { c with next := some first }).modify
        first fun c => { c with previous := some oldLast }).modify
        target fun c => { c with ends := some (oldFirst, last) }

/-! ### Text -/

/-- One more piece at the end of a node, if that is a text. -/
def extend? (id : Option Nat) (piece : List Char) : Option Arena := do
  let i ← id
  let c ← a.cells[i]?
  match c.kind with
  | .text pieces => some (a.modify i fun c => { c with kind := .text (piece :: pieces) })
  | _ => none

/-- Text at the end of `parent`, in its last child if that is a text. -/
def appendText (parent : Nat) (piece : List Char) : Arena :=
  match a.extend? ((a.ends? parent).map Prod.snd) piece with
  | some a => a
  | none => let (a, id) := a.create (.text [piece]); a.append parent id

/-- Text before `sibling`, in the neighbour before it if that is a text. -/
def insertTextBefore (parent sibling : Nat) (piece : List Char) : Arena :=
  match a.extend? (a.previous? sibling) piece with
  | some a => a
  | none => let (a, id) := a.create (.text [piece]); a.insertBefore parent sibling id

/-! ### Reading the tree -/

/-- A point of a walk through a tree: a node is entered, or left after all that is below it. -/
inductive Edge
  | enter (id : Nat)
  | leave (id : Nat)
  deriving DecidableEq, Repr

/-- Where a walk through the whole document goes on. -/
def after : Edge → Option Edge
  | .enter id =>
    match a.ends? id with
    | some (first, _) => some (.enter first)
    | none => some (.leave id)
  | .leave id =>
    if id = root then none
    else match a.next? id with
      | some next => some (.enter next)
      | none => (a.parent? id).map .leave

/-- The nodes entered by a walk, if it ends after at most `n` points. -/
def walk : Nat → Edge → Option (List Nat)
  | 0, _ => none
  | n + 1, e =>
    let rest := match a.after e with
      | some e => walk n e
      | none => some []
    match e with
    | .enter id => rest.map (id :: ·)
    | .leave _ => rest

/-- The nodes of the document in order.  Where a walk goes on depends on where it is only, so a walk
that ends is at no point twice; one that does not end gives nothing. -/
def descendants : List Nat :=
  (a.walk (2 * a.cells.size) (.enter root)).getD []

/-- The nodes that a node is below, at most `n` of them, the nearest first. -/
def ancestors : Nat → Nat → List Nat
  | 0, _ => []
  | n + 1, id =>
    match a.parent? id with
    | some parent => parent :: ancestors n parent
    | none => []

/-- The node is an element whose contents are not rendered, in whatever namespace. -/
def isHidden (id : Nat) : Bool :=
  match a.cells[id]?.map Cell.kind with
  | some (.element name) => name.tag.isHidden
  | _ => false

/-- The text of a node that is a text. -/
def text? (id : Nat) : Option (List Char) :=
  match a.cells[id]?.map Cell.kind with
  | some (.text pieces) => some pieces.reverse.flatten
  | _ => none

/-- The texts of the document that are below no hidden element, in order. -/
def visibleTexts : List (List Char) :=
  a.descendants.filterMap fun id =>
    if (a.ancestors a.cells.size id).any a.isHidden then none else a.text? id

end Arena

end PageHarvest.Html
