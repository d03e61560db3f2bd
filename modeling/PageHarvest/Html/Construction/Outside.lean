import PageHarvest.Html.Construction.Table

/-!
# Tokens outside the body, in templates and in foreign elements

The rules for what comes before the head and after the body, for framesets and templates, and for
elements of MathML and SVG.
-/

namespace PageHarvest.Html.Construction

variable (c : Construction)

/-! ### Before the body -/

/-- The root element put into the document and opened. -/
def openRoot : Construction :=
  let (arena, id) := c.arena.create (.element (.html .html))
  { c with
    arena := arena.append Arena.root id
    stack := [⟨id, .html .html⟩]
    mode := .beforeHead }

/-- The head opened. -/
def openHead : Construction :=
  let (c, id) := c.openElement (.html .head)
  { c with head := some id, mode := .inHead }

/-- The body opened. -/
def openBody : Construction :=
  { c.openHtml .body with mode := .inBody }

/-- The end tags that imply the start tags that are missing. -/
def impliesStart : Tag → Bool
  | .head | .body | .html | .br => true
  | _ => false

/-- A token before anything else. -/
def initial : Token → Step
  | .space _ => .done c
  | .comment => .done (c.commentIn Arena.root)
  | .doctype oldLayout => .done { c with oldLayout, mode := .beforeHtml }
  -- A page that does not declare its type is an old one.
  | _ => .again { c with oldLayout := true, mode := .beforeHtml }

/-- A token before the root element. -/
def beforeHtml : Token → Step
  | .space _ | .doctype _ => .done c
  | .comment => .done (c.commentIn Arena.root)
  | .startTag t => if t.tag == .html then .done c.openRoot else .again c.openRoot
  | .endTag tag => if impliesStart tag then .again c.openRoot else .done c
  | _ => .again c.openRoot

/-- A token before the head. -/
def beforeHead : Token → Step
  | .space _ | .doctype _ => .done c
  | .comment => .done c.insertComment
  | .startTag t =>
    if t.tag == .html then .done c
    else if t.tag == .head then .done c.openHead
    else .again c.openHead
  | .endTag tag => if impliesStart tag then .again c.openHead else .done c
  | _ => .again c.openHead

/-- The start tag of an element of the head that comes too late: it still goes there. -/
def startLateHeadElement (t : StartTag) : Construction :=
  match c.head with
  | none => c
  | some id =>
    -- The head is open again for the time of this element.
    let c := { c with stack := ⟨id, .html .head⟩ :: c.stack }
    (c.startHeadElement t).removeFromStack id

/-- A token between the head and the body. -/
def afterHead : Token → Step
  | .doctype _ => .done c
  | .space piece => .done (c.insertText piece)
  | .comment => .done c.insertComment
  | .startTag t =>
    match t.tag with
    | .html | .head => .done c
    | .body => .done { c.openBody with framesetOk := false }
    | .frameset => .done { c.openHtml .frameset with mode := .inFrameset }
    | tag => if isHeadElement tag then .done (c.startLateHeadElement t) else .again c.openBody
  | .endTag tag =>
    match tag with
    | .template => .done c.endTemplate
    | .body | .html | .br => .again c.openBody
    | _ => .done c
  | .malformed => .done c
  | .null | .text _ | .eof => .again c.openBody

/-! ### Text and templates -/

/-- A token in an element whose contents are text. -/
def inText : Token → Step
  | .space piece => .done (c.insertText piece)
  | .text piece => .done (c.insertText piece)
  | .endTag _ => .done { c.pop with mode := c.returnMode }
  | .eof => .again { c.pop with mode := c.returnMode }
  | _ => .done c

/-- The innermost template goes on in another mode. -/
def turnTemplate (mode : Mode) : Step :=
  .again { c with templateModes := mode :: c.templateModes.drop 1, mode }

/-- A token in a template. -/
def inTemplate : Token → Step
  | .startTag t =>
    match t.tag with
    | .caption | .colgroup | .tbody | .tfoot | .thead => c.turnTemplate .inTable
    | .col => c.turnTemplate .inColumnGroup
    | .tr => c.turnTemplate .inTableBody
    | .td | .th => c.turnTemplate .inRow
    | tag => if isHeadElement tag then .done (c.startHeadElement t) else c.turnTemplate .inBody
  | .endTag tag => .done (if tag == .template then c.endTemplate else c)
  | .eof => c.endOfTemplate
  | .null => .done c
  | t => c.inBody t

/-! ### After the body, and framesets -/

/-- A token that the body is gone on with. -/
def backToBody : Step := .again { c with mode := .inBody }

/-- A token after the body. -/
def afterBody : Token → Step
  | .space piece => .done (c.textInBody piece)
  | .comment => .done (c.commentIn c.rootElement)
  | .startTag t => if t.tag == .html then .done c else c.backToBody
  | .endTag tag => if tag == .html then .done { c with mode := .afterAfterBody } else c.backToBody
  | .eof | .doctype _ | .malformed => .done c
  | .null | .text _ => c.backToBody

/-- A token after the end tag of the root element. -/
def afterAfterBody : Token → Step
  | .space piece => .done (c.textInBody piece)
  | .comment => .done (c.commentIn Arena.root)
  | .startTag t => if t.tag == .html then .done c else c.backToBody
  | .eof | .doctype _ | .malformed => .done c
  | .null | .text _ | .endTag _ => c.backToBody

/-- A token in a frameset. -/
def inFrameset : Token → Step
  | .space piece => .done (c.insertText piece)
  | .comment => .done c.insertComment
  | .startTag t =>
    match t.tag with
    | .frameset => .done (c.openHtml .frameset)
    | .frame => .done (c.insertVoid .frame)
    | .noframes => .done (c.startHeadElement t)
    | _ => .done c
  | .endTag .frameset =>
    if c.stack.length ≤ 1 then .done c
    else
      let c := c.pop
      .done (if c.currentIs (· == .frameset) then c else { c with mode := .afterFrameset })
  | _ => .done c

/-- A token after a frameset. -/
def afterFrameset : Token → Step
  | .space piece => .done (c.insertText piece)
  | .comment => .done c.insertComment
  | .startTag t => .done (if t.tag == .noframes then c.startHeadElement t else c)
  | .endTag .html => .done { c with mode := .afterAfterFrameset }
  | _ => .done c

/-- A token after the end tag of the root element of a document with framesets. -/
def afterAfterFrameset : Token → Step
  | .space piece => .done (c.textInBody piece)
  | .comment => .done (c.commentIn Arena.root)
  | .startTag t => .done (if t.tag == .noframes then c.startHeadElement t else c)
  | _ => .done c

/-! ### All modes, and foreign elements -/

/-- A token under the rules of the mode. -/
def inMode (t : Token) : Step :=
  match c.mode with
  | .initial => c.initial t
  | .beforeHtml => c.beforeHtml t
  | .beforeHead => c.beforeHead t
  | .inHead => c.inHead t
  | .afterHead => c.afterHead t
  | .inBody => c.inBody t
  | .text => c.inText t
  | .inTable => c.inTable t
  | .inTableText => c.inTableText t
  | .inCaption => c.inCaption t
  | .inColumnGroup => c.inColumnGroup t
  | .inTableBody => c.inTableBody t
  | .inRow => c.inRow t
  | .inCell => c.inCell t
  | .inSelect => c.inSelect t
  | .inSelectInTable => c.inSelectInTable t
  | .inTemplate => c.inTemplate t
  | .afterBody => c.afterBody t
  | .inFrameset => c.inFrameset t
  | .afterFrameset => c.afterFrameset t
  | .afterAfterBody => c.afterAfterBody t
  | .afterAfterFrameset => c.afterAfterFrameset t

/-- The innermost open element is foreign to HTML. -/
def isForeign : Bool :=
  c.current?.any (·.name.space != .html)

/-- The token falls under the rules for foreign elements. -/
def fallsToForeign (t : Token) : Bool :=
  match c.current? with
  | none => false
  | some e =>
    if e.name.space == .html then false
    else match t with
      | .eof => false
      | .null | .space _ | .text _ => !(e.name.holdsMathText || e.name.holdsHtml)
      | .startTag t =>
        if e.name.holdsMathText then t.tag == .mglyph || t.tag == .malignmark
        else if e.name.holdsHtml then false
        else !(e.name == ⟨.mathml, .annotationXml⟩ && t.tag == .svg)
      | _ => true

/-- A start tag of HTML in a foreign element: it closes what is foreign. -/
def breakOut (t : Token) : Step :=
  (c.popWhile fun n => !(n.space == .html || n.holdsMathText || n.holdsHtml)).inMode t

/-- An end tag in a foreign element, with the elements still to be looked at: it closes the first of
its name, but an element of HTML that comes before falls under the rules of the mode. -/
def endInForeign (tag : Tag) : List OpenElement → Step
  -- The root stays open.
  | [] | [_] => .done c
  | e :: es =>
    if e.name.space == .html then c.inMode (.endTag tag)
    else if e.name.tag == tag then .done { c with stack := es }
    else endInForeign tag es

/-- A token in a foreign element. -/
def inForeign (t : Token) : Step :=
  match t with
  | .null => .done (c.insertText ['\uFFFD'])
  | .space piece => .done (c.insertText piece)
  | .text piece => .done { c.insertText piece with framesetOk := false }
  | .comment => .done c.insertComment
  | .startTag tag =>
    -- A font with one of these attributes is one of HTML.
    let isLayout := tag.tag == .font &&
      ["color", "face", "size"].any fun n => (tag.get? n).isSome
    if tag.tag.breaksOutOfForeign || isLayout then c.breakOut t
    else
      let space := (c.current?.map (·.name.space)).getD .html
      .done (c.startForeign ⟨space, tag.tag⟩ tag.selfClosing)
  | .endTag tag =>
    match tag with
    | .br | .p => c.breakOut t
    | _ => c.endInForeign tag c.stack
  | .doctype _ | .malformed | .eof => .done c

end PageHarvest.Html.Construction
