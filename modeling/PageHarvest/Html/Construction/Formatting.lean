import PageHarvest.Html.Construction.Basic

/-!
# Formatting elements

Bold, italic, links and their like may be closed out of order.  They are kept in a list of their
own, so that they can be opened again where a block closed them (`reopenFormatting`), and their end
tags rearrange what they were misnested with (`adopt`).
-/

namespace PageHarvest.Html

namespace Formatting

/-- The entry is the element with this number. -/
def isElement (id : Nat) : Formatting → Bool
  | marker => false
  | element i _ => i == id

/-- The entries without the element. -/
def remove (id : Nat) (fs : List Formatting) : List Formatting :=
  fs.filter (!·.isElement id)

/-- The tag of the element with this number. -/
def tag? (id : Nat) (fs : List Formatting) : Option StartTag :=
  match fs.find? (·.isElement id) with
  | some (element _ t) => some t
  | _ => none

/-- The entries with that of one element replaced. -/
def replace (id : Nat) (new : List Formatting) (fs : List Formatting) : List Formatting :=
  fs.flatMap fun f => if f.isElement id then new else [f]

/-- The entries after the last marker, latest first. -/
def sinceMarker (fs : List Formatting) : List Formatting :=
  fs.takeWhile (· != marker)

/-- The entries before the last marker. -/
def clearToMarker (fs : List Formatting) : List Formatting :=
  (fs.dropWhile (· != marker)).drop 1

/-- The entry is an element that has this tag name. -/
def hasTag (tag : Tag) : Formatting → Bool
  | marker => false
  | element _ t => t.tag == tag

/-- The entry is an element with the same tag and the same attributes. -/
def agrees (tag : StartTag) : Formatting → Bool
  | marker => false
  | element _ t => t.agrees tag

/-- The entries with at most two left since the last marker that agree with the tag. -/
def makeRoom (tag : StartTag) (fs : List Formatting) : List Formatting :=
  let recent := sinceMarker fs
  if (recent.filter (agrees tag)).length < 3 then fs
  -- The earliest goes, which is the last in the list.
  else (recent.reverse.eraseP (agrees tag)).reverse ++ fs.drop recent.length

end Formatting

namespace Construction

variable (c : Construction)

/-- The entry need not be opened again: it is a marker or an element that is open. -/
def isSettled : Formatting → Bool
  | .marker => true
  | .element id _ => c.stack.any (·.id == id)

/-- The formatting elements opened again that a block has closed. -/
def reopenFormatting : Construction :=
  let closed := c.formatting.takeWhile (!c.isSettled ·)
  let settled := c.formatting.drop closed.length
  closed.reverse.foldl (fun c f =>
    match f with
    -- Markers are settled, so none is met here.
    | .marker => c
    | .element _ t =>
      let (c, id) := c.openElement (.html t.tag)
      { c with formatting := .element id t :: c.formatting }) { c with formatting := settled }

/-- A formatting element opened and put on the list. -/
def openFormatting (tag : StartTag) : Construction :=
  let (c, id) := { c with formatting := Formatting.makeRoom tag c.formatting }.openElement
    (.html tag.tag)
  { c with formatting := .element id tag :: c.formatting }

/-- A marker put on the list of formatting elements. -/
def pushMarker : Construction :=
  { c with formatting := .marker :: c.formatting }

/-- The formatting elements since the last marker forgotten, and the marker. -/
def clearFormatting : Construction :=
  { c with formatting := Formatting.clearToMarker c.formatting }

/-- An end tag that has no rule of its own: it closes the innermost element of its name, unless a
special element comes first. -/
def closeOrdinary (tag : Tag) : Construction :=
  match c.stack.find? fun e => e.name.isHtml fun t => t == tag || t.isSpecial with
  | some e =>
    if e.name.tag == tag then
      let c := c.closeImpliedExcept tag
      { c with stack := (c.stack.dropWhile (·.id != e.id)).drop 1 }
    else c
  | none => c

/-! ### Misnested formatting -/

/-- The state of moving a block out of the formatting elements between it and the one that is
being closed. -/
structure Adoption where
  arena : Arena
  formatting : List Formatting
  /-- The elements that stay open, the one nearest the block last. -/
  kept : List OpenElement
  /-- The number of elements looked at. -/
  count : Nat
  /-- The node to be moved next. -/
  last : Nat
  /-- The element after whose entry the new entry goes. -/
  bookmark : Option Nat

/-- One element between the block and the formatting element: it is copied around what has been
moved so far, or dropped from the open elements if it is no formatting element or too far away. -/
def Adoption.step (block : Nat) (a : Adoption) (e : OpenElement) : Adoption :=
  let count := a.count + 1
  if count > 3 then { a with formatting := Formatting.remove e.id a.formatting, count }
  else
    match Formatting.tag? e.id a.formatting with
    | none => { a with count }
    | some tag =>
      let name := ElementName.html tag.tag
      let (arena, id) := a.arena.create (.element name)
      { arena := arena.append id a.last
        formatting := Formatting.replace e.id [.element id tag] a.formatting
        kept := ⟨id, name⟩ :: a.kept
        count
        last := id
        bookmark := if a.last == block then some id else a.bookmark }

/-- One round of closing a misnested formatting element, and whether another may follow. -/
def adoptOnce (subject : Tag) : Construction × Bool :=
  match (Formatting.sinceMarker c.formatting).find? (·.hasTag subject) with
  -- Nothing is to be rearranged: the tag closes like any other.
  | none | some .marker => (c.closeOrdinary subject, false)
  | some (.element id tag) =>
    let above := c.stack.takeWhile (·.id != id)
    match c.stack.drop above.length with
    -- The element is on the list only, since it was closed along with something else.
    | [] => ({ c with formatting := Formatting.remove id c.formatting }, false)
    | subjectElement :: below =>
      if !inScope ElementName.boundsScope (·.id == id) c.stack then (c, false)
      else
        let isSpecial (e : OpenElement) : Bool := e.name.isHtml Tag.isSpecial
        let between := (above.reverse.takeWhile (!isSpecial ·)).reverse
        match above.reverse.drop between.length with
        -- No block lies inside of the element, so that closing it is enough.
        | [] =>
          ({ c with stack := below, formatting := Formatting.remove id c.formatting }, false)
        | block :: innerReversed =>
          -- The elements in between are copied around the block, from the inside out.
          let a := between.foldl (Adoption.step block.id)
            { arena := c.arena, formatting := c.formatting, kept := [], count := 0,
              last := block.id, bookmark := none }
          let inner := innerReversed.reverse
          let kept := a.kept.reverse
          let ancestor := below.head?.getD ⟨Arena.root, .html .html⟩
          let moving := { c with
            arena := a.arena.detach a.last
            stack := inner ++ block :: kept ++ subjectElement :: below }
          -- The last copy, or the block itself, goes next to the element that is closed.
          let moved := moving.insertAt (moving.placeIn ancestor) a.last
          let name := ElementName.html tag.tag
          let (arena, new) := moved.arena.create (.element name)
          let entry := Formatting.element new tag
          -- A new element takes up the contents of the block.  Its entry takes the place of the old
          -- one, or comes after that of the copy nearest the block.
          let formatting := match a.bookmark with
            | none => Formatting.replace id [entry] a.formatting
            | some p => Formatting.remove id (a.formatting.flatMap fun f =>
                if f.isElement p then [entry, f] else [f])
          ({ moved with
            arena := (arena.moveChildren block.id new).append block.id new
            formatting
            stack := inner ++ ⟨new, name⟩ :: block :: kept ++ below }, true)

/-- Rounds of closing a misnested formatting element, at most the given number. -/
def adoptRounds (subject : Tag) : Nat → Construction → Construction
  | 0, c => c
  | n + 1, c =>
    match c.adoptOnce subject with
    | (c, true) => adoptRounds subject n c
    | (c, false) => c

/-- The end tag of a formatting element. -/
def adopt (subject : Tag) : Construction :=
  match c.current? with
  | some e =>
    -- An element that is not on the list is merely closed.
    if e.name.isHtml (· == subject) && (Formatting.tag? e.id c.formatting).isNone then c.pop
    else adoptRounds subject 8 c
  | none => c

/-- A link closed that another link begins inside of. -/
def closeOpenLink : Construction :=
  match (Formatting.sinceMarker c.formatting).find? (·.hasTag .a) with
  | some (.element id _) =>
    let c := c.adopt .a
    { c with formatting := Formatting.remove id c.formatting }.removeFromStack id
  | _ => c

end Construction

end PageHarvest.Html
