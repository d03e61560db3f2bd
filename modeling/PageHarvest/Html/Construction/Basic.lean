import PageHarvest.Html.Arena
import PageHarvest.Html.Token.Lexer

/-!
# A document under construction

`Construction` is the state of building a document from tokens: the tree so far, the elements that
are open, the formatting elements to open again, and the mode that says which rules the next token
falls under.  This module has what all rules share: searching the open elements (`inScope`),
placing a new node, opening and closing elements.
-/

namespace PageHarvest.Html

/-- Which rules a token falls under. -/
inductive Mode
  | initial | beforeHtml | beforeHead | inHead | afterHead | inBody | text
  | inTable | inTableText | inCaption | inColumnGroup | inTableBody | inRow | inCell
  | inSelect | inSelectInTable | inTemplate | afterBody | inFrameset | afterFrameset
  | afterAfterBody | afterAfterFrameset
  deriving DecidableEq, Repr, Inhabited

/-- An element that is open. -/
structure OpenElement where
  id : Nat
  name : ElementName
  deriving DecidableEq, Repr, Inhabited

/-- An entry of the list of formatting elements: an element with its tag, or a marker that bounds
what is opened again. -/
inductive Formatting
  | marker
  | element (id : Nat) (tag : StartTag)
  deriving DecidableEq, Repr, Inhabited

/-- The state of building a document. -/
structure Construction where
  arena : Arena
  mode : Mode
  /-- The mode to go back to from `Mode.text` and `Mode.inTableText`. -/
  returnMode : Mode
  /-- The modes of the open templates, innermost first. -/
  templateModes : List Mode
  /-- The open elements, innermost first. -/
  stack : List OpenElement
  /-- The formatting elements, latest first. -/
  formatting : List Formatting
  /-- Text found directly in a table, latest piece first, and whether each piece is blank. -/
  tableText : List (Bool × List Char)
  head : Option Nat
  form : Option Nat
  /-- The page asks for the layout of old pages. -/
  oldLayout : Bool
  /-- A frameset may still take the place of the body. -/
  framesetOk : Bool
  /-- A newline that comes next does not count. -/
  skipNewline : Bool
  /-- New nodes that belong into a table go in front of it. -/
  fostering : Bool
  /-- How the markup after the current token is to be read, if that changes. -/
  content : Option Content
  deriving Inhabited

/-- What a rule does with a token: it is done with it, or leaves it to the rules of the mode that it
has set. -/
inductive Step
  | done (c : Construction)
  | again (c : Construction)

namespace Construction

/-- Nothing has been read. -/
def start : Construction where
  arena := .empty
  mode := .initial
  returnMode := .initial
  templateModes := []
  stack := []
  formatting := []
  tableText := []
  head := none
  form := none
  oldLayout := false
  framesetOk := true
  skipNewline := false
  fostering := false
  content := none

/-! ### The open elements -/

/-- The first element from the inside that satisfies `p` comes before any that closes off what
surrounds it, or is one itself. -/
def inScope (bounds : ElementName → Bool) (p : OpenElement → Bool) : List OpenElement → Bool
  | [] => false
  | e :: es => p e || (!bounds e.name && inScope bounds p es)

variable (c : Construction)

/-- An element of HTML with this tag is in scope. -/
def hasInScope (bounds : ElementName → Bool) (tag : Tag) : Bool :=
  inScope bounds (fun e => e.name.isHtml (· == tag)) c.stack

/-- The innermost open element. -/
def current? : Option OpenElement := c.stack.head?

/-- The innermost open element is one of HTML whose tag satisfies `p`. -/
def currentIs (p : Tag → Bool) : Bool :=
  c.current?.any (·.name.isHtml p)

/-- Some open element is one of HTML with this tag. -/
def hasOpen (tag : Tag) : Bool :=
  c.stack.any (·.name.isHtml (· == tag))

/-- The number of the root element, or of the document before there is one. -/
def rootElement : Nat :=
  (c.stack.getLast?.map OpenElement.id).getD Arena.root

/-- The innermost element closed. -/
def pop : Construction := { c with stack := c.stack.drop 1 }

/-- The element no longer open, wherever it is on the stack. -/
def removeFromStack (id : Nat) : Construction :=
  { c with stack := c.stack.filter (·.id != id) }

/-- Elements closed from the inside as long as their name satisfies `p`. -/
def popWhile (p : ElementName → Bool) : Construction :=
  { c with stack := c.stack.dropWhile fun e => p e.name }

/-- Elements closed from the inside up to and with the first of HTML whose tag satisfies `p`. -/
def popThrough (p : Tag → Bool) : Construction :=
  (c.popWhile fun n => !n.isHtml p).pop

/-- Elements closed from the inside up to the first of HTML whose tag satisfies `p`. -/
def popTo (p : Tag → Bool) : Construction :=
  c.popWhile fun n => !n.isHtml p

/-- The end tags put in that may be left out here. -/
def closeImplied : Construction :=
  c.popWhile (·.isHtml Tag.endIsImplied)

/-- The end tags put in that may be left out here, that of one element excepted. -/
def closeImpliedExcept (tag : Tag) : Construction :=
  c.popWhile (·.isHtml fun t => t != tag && t.endIsImplied)

/-- The innermost paragraph closed. -/
def closeParagraph : Construction :=
  (c.closeImpliedExcept .p).popThrough (· == .p)

/-- The paragraph closed that a block now beginning cannot be in. -/
def closeParagraphInScope : Construction :=
  if c.hasInScope ElementName.boundsButtonScope .p then c.closeParagraph else c

/-! ### Placing nodes -/

/-- Where a new node goes. -/
inductive Place
  | lastIn (parent : Nat)
  /-- Before the table, or at the end of `otherwise` if the table is in no tree. -/
  | before (table otherwise : Nat)

/-- Where a node goes that may not stand in the innermost table. -/
def fosterPlace (root : Nat) : List OpenElement → Place
  | [] => .lastIn root
  | e :: es =>
    -- What is put into a template in the table stays there.
    if e.name.isHtml (· == .template) then .lastIn e.id
    else if e.name.isHtml (· == .table) then
      .before e.id ((es.head?.map OpenElement.id).getD root)
    else fosterPlace root es

/-- Where a node goes that belongs into `target`. -/
def placeIn (target : OpenElement) : Place :=
  if c.fostering && target.name.isHtml Tag.fostersText then fosterPlace c.rootElement c.stack
  else .lastIn target.id

/-- Where a node goes that comes next. -/
def place : Place :=
  match c.current? with
  | some e => c.placeIn e
  | none => .lastIn Arena.root

/-- The node put at a place. -/
def insertAt (place : Place) (id : Nat) : Construction :=
  match place with
  | .lastIn parent => { c with arena := c.arena.append parent id }
  | .before table otherwise =>
    match c.arena.parent? table with
    | some parent => { c with arena := c.arena.insertBefore parent table id }
    | none => { c with arena := c.arena.append otherwise id }

/-- Text put at the place for what comes next. -/
def insertText (piece : List Char) : Construction :=
  match c.place with
  | .lastIn parent => { c with arena := c.arena.appendText parent piece }
  | .before table otherwise =>
    match c.arena.parent? table with
    | some parent => { c with arena := c.arena.insertTextBefore parent table piece }
    | none => { c with arena := c.arena.appendText otherwise piece }

/-- A comment at the end of the given node. -/
def commentIn (parent : Nat) : Construction :=
  let (arena, id) := c.arena.create .comment
  { c with arena := arena.append parent id }

/-- A comment put at the place for what comes next. -/
def insertComment : Construction :=
  let (arena, id) := c.arena.create .comment
  { c with arena }.insertAt c.place id

/-- A new element put at the place for what comes next, and its number. -/
def insertElement (name : ElementName) : Construction × Nat :=
  let (arena, id) := c.arena.create (.element name)
  ({ c with arena }.insertAt c.place id, id)

/-- A new element put at the place for what comes next and opened, and its number. -/
def openElement (name : ElementName) : Construction × Nat :=
  let (c, id) := c.insertElement name
  ({ c with stack := ⟨id, name⟩ :: c.stack }, id)

/-- An element of HTML opened. -/
def openHtml (tag : Tag) : Construction :=
  (c.openElement (.html tag)).1

/-- An element of HTML that has no contents. -/
def insertVoid (tag : Tag) : Construction :=
  (c.insertElement (.html tag)).1

/-- An element of HTML opened whose contents are text. -/
def openRaw (tag : Tag) (content : Content) : Construction :=
  { c.openHtml tag with returnMode := c.mode, mode := .text, content := some content }

/-! ### Going back to a mode -/

/-- The mode that the open elements call for; `head` tells whether there has been a head. -/
def modeFor (head : Bool) (templateMode : Mode) : List OpenElement → Mode
  | [] => .inBody
  | e :: es =>
    if e.name.space != .html then modeFor head templateMode es
    else match e.name.tag with
      | .select =>
        -- A template between the list and a table hides the table.
        match es.find? fun e => e.name.isHtml fun t => t == .template || t == .table with
        | some e => if e.name.tag == .table then .inSelectInTable else .inSelect
        | none => .inSelect
      -- The element at the bottom of the stack is neither a cell nor a head.
      | .td | .th => if es.isEmpty then modeFor head templateMode es else .inCell
      | .tr => .inRow
      | .tbody | .thead | .tfoot => .inTableBody
      | .caption => .inCaption
      | .colgroup => .inColumnGroup
      | .table => .inTable
      | .template => templateMode
      | .head => if es.isEmpty then modeFor head templateMode es else .inHead
      | .body => .inBody
      | .frameset => .inFrameset
      | .html => if head then .afterHead else .beforeHead
      | _ => modeFor head templateMode es

/-- The mode set to the one that the open elements call for. -/
def resetMode : Construction :=
  { c with mode := modeFor c.head.isSome (c.templateModes.head?.getD .inBody) c.stack }

end Construction

end PageHarvest.Html
