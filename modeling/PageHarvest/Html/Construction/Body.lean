import PageHarvest.Html.Construction.Formatting

/-!
# Tokens in the head and the body

The rules for running text, for the elements of the head, which may also turn up in the body, and
for start and end tags in the body.
-/

namespace PageHarvest.Html.Construction

variable (c : Construction)

/-! ### The head -/

/-- The element is one that belongs into the head. -/
def isHeadElement : Tag → Bool
  | .base | .basefont | .bgsound | .link | .«meta» | .noframes | .script | .style | .template
  | .title => true
  | _ => false

/-- The template stands for the shadow of the element that it is in, which may be any but the root.
A shadow has no element of its own, so what it holds goes to the element that casts it. -/
def isShadow (t : StartTag) : Bool :=
  1 < c.stack.length &&
    (t.get? "shadowrootmode").any fun v => v == "open".toList || v == "close".toList

/-- A template opened. -/
def openTemplate (t : StartTag) : Construction :=
  let c := (if c.isShadow t then c else c.openHtml .template).pushMarker
  { c with
    framesetOk := false
    mode := .inTemplate
    templateModes := .inTemplate :: c.templateModes }

/-- The start tag of an element that belongs into the head. -/
def startHeadElement (t : StartTag) : Construction :=
  match t.tag with
  | .title => c.openRaw .title (.rcdata .title)
  | .noframes => c.openRaw .noframes (.rawText .noframes)
  | .style => c.openRaw .style (.rawText .style)
  | .script => c.openRaw .script (.script .plain)
  | .template => c.openTemplate t
  | tag => c.insertVoid tag

/-- The innermost template left behind, with the formatting begun in it and its mode. -/
def leaveTemplate : Construction :=
  let c := (c.popThrough (· == .template)).clearFormatting
  { c with templateModes := c.templateModes.drop 1 }.resetMode

/-- The end tag of a template. -/
def endTemplate : Construction :=
  if c.hasOpen .template then
    (c.popWhile (·.isHtml Tag.endIsImpliedInTemplate)).leaveTemplate
  else c

/-- The end of the markup in a template closes all open templates, one after the other. -/
def endOfTemplate : Step :=
  if c.hasOpen .template then .again c.leaveTemplate else .done c

/-! ### Start tags in the body -/

/-- The start tag of a block. -/
def startBlock (tag : Tag) : Construction :=
  c.closeParagraphInScope.openHtml tag

/-- The start tag of an element of running text. -/
def startInline (tag : Tag) : Construction :=
  c.reopenFormatting.openHtml tag

/-- A list item or a term ends the one before it. -/
def closeListItem (p : Tag → Bool) : Construction :=
  -- The item before may be left through these three, but through no other special element.
  let stops (t : Tag) : Bool :=
    p t || (t.isSpecial && t != .address && t != .div && t != .p)
  match c.stack.find? fun e => e.name.isHtml stops with
  | some e =>
    if p e.name.tag then (c.closeImpliedExcept e.name.tag).popThrough (· == e.name.tag) else c
  | none => c

/-- The start tag of a list item or a term, which ends what satisfies `p`. -/
def startListItem (p : Tag → Bool) (tag : Tag) : Construction :=
  ({ c with framesetOk := false }.closeListItem p).startBlock tag

/-- A frameset takes the place of the body, as long as the body is of no importance. -/
def startFrameset : Construction :=
  match c.stack.reverse with
  -- A body is always right above the root.
  | root :: body :: _ =>
    if c.framesetOk && body.name.isHtml (· == .body) then
      { { c with arena := c.arena.detach body.id, stack := [root] }.openHtml .frameset with
        mode := .inFrameset }
    else c
  | _ => c

/-- The start tag of a form; there are no forms inside forms. -/
def startForm : Construction :=
  if c.form.isSome && !c.hasOpen .template then c
  else
    let (c, id) := c.closeParagraphInScope.openElement (.html .form)
    -- A template may hold as many forms as it likes, so its forms are not remembered.
    if c.hasOpen .template then c else { c with form := some id }

/-- The start tag of an element without contents in running text. -/
def startVoid (tag : Tag) (keepsFramesetOk : Bool) : Construction :=
  let c := c.reopenFormatting.insertVoid tag
  { c with framesetOk := c.framesetOk && keepsFramesetOk }

/-- The input is hidden. -/
def isHiddenInput (t : StartTag) : Bool :=
  (t.get? "type").any fun v => v.map Char.toLower == "hidden".toList

/-- The start tag of a selection list. -/
def startSelect : Construction :=
  let mode := match c.mode with
    | .inTable | .inCaption | .inTableBody | .inRow | .inCell => Mode.inSelectInTable
    | _ => .inSelect
  { c.startInline .select with framesetOk := false, mode }

/-- The start tag of an element that is foreign to HTML. -/
def startForeign (name : ElementName) (selfClosing : Bool) : Construction :=
  if selfClosing then (c.insertElement name).1 else (c.openElement name).1

/-- A start tag in the body. -/
def startInBody (t : StartTag) : Construction :=
  match t.tag with
  | .html => c
  | .base | .basefont | .bgsound | .link | .«meta» | .noframes | .script | .style | .template
  | .title => c.startHeadElement t
  | .body =>
    let hasBody := match c.stack.reverse with
      | _ :: body :: _ => body.name.isHtml (· == .body)
      | _ => false
    -- All that is left of a second body is that no frameset may come any more.
    if hasBody && !c.hasOpen .template then { c with framesetOk := false } else c
  | .frameset => c.startFrameset
  | .address | .article | .aside | .blockquote | .center | .details | .dialog | .dir | .div | .dl
  | .fieldset | .figcaption | .figure | .footer | .header | .hgroup | .main | .menu | .nav | .ol
  | .p | .search | .«section» | .summary | .ul => c.startBlock t.tag
  | .h1 | .h2 | .h3 | .h4 | .h5 | .h6 =>
    -- Headings do not nest: the open one ends here.
    let c := c.closeParagraphInScope
    (if c.currentIs Tag.isHeading then c.pop else c).openHtml t.tag
  | .pre | .listing => { c.startBlock t.tag with skipNewline := true, framesetOk := false }
  | .form => c.startForm
  | .li => c.startListItem (· == .li) .li
  | .dd | .dt => c.startListItem (fun t => t == .dd || t == .dt) t.tag
  | .plaintext => { c.startBlock .plaintext with content := some .plainText }
  | .button =>
    let c := if c.hasInScope ElementName.boundsScope .button then
        c.closeImplied.popThrough (· == .button) else c
    { c.startInline .button with framesetOk := false }
  | .a => c.closeOpenLink.reopenFormatting.openFormatting t
  | .b | .big | .code | .em | .font | .i | .s | .small | .strike | .strong | .tt | .u =>
    c.reopenFormatting.openFormatting t
  | .nobr =>
    let c := c.reopenFormatting
    let c := if c.hasInScope ElementName.boundsScope .nobr then
        (c.adopt .nobr).reopenFormatting else c
    c.openFormatting t
  | .applet | .marquee | .object => { (c.startInline t.tag).pushMarker with framesetOk := false }
  | .table =>
    -- In the layout of old pages a table may stand in a paragraph.
    let c := if c.oldLayout then c else c.closeParagraphInScope
    { c.openHtml .table with framesetOk := false, mode := .inTable }
  | .area | .br | .embed | .img | .keygen | .wbr => c.startVoid t.tag false
  | .image => c.startVoid .img false
  | .input => c.startVoid .input (isHiddenInput t)
  | .param | .source | .track => c.insertVoid t.tag
  | .hr => { c.closeParagraphInScope.insertVoid .hr with framesetOk := false }
  | .textarea =>
    { c.openRaw .textarea (.rcdata .textarea) with skipNewline := true, framesetOk := false }
  | .xmp =>
    let c := c.closeParagraphInScope.reopenFormatting
    { c.openRaw .xmp (.rawText .xmp) with framesetOk := false }
  | .iframe => { c.openRaw .iframe (.rawText .iframe) with framesetOk := false }
  | .noembed => c.openRaw .noembed (.rawText .noembed)
  -- Scripts are taken to run, so what is shown without them is only text.
  | .noscript => c.openRaw .noscript (.rawText .noscript)
  | .select => c.startSelect
  | .optgroup | .option =>
    (if c.currentIs (· == .option) then c.pop else c).startInline t.tag
  | .rb | .rtc =>
    (if c.hasInScope ElementName.boundsScope .ruby then c.closeImplied else c).openHtml t.tag
  | .rp | .rt =>
    (if c.hasInScope ElementName.boundsScope .ruby then c.closeImpliedExcept .rtc else c).openHtml
      t.tag
  | .math => c.reopenFormatting.startForeign ⟨.mathml, .math⟩ t.selfClosing
  | .svg => c.reopenFormatting.startForeign ⟨.svg, .svg⟩ t.selfClosing
  | .caption | .col | .colgroup | .frame | .head | .tbody | .td | .tfoot | .th | .thead | .tr => c
  | tag => c.startInline tag

/-! ### End tags in the body -/

/-- The end tag of a form. -/
def endForm : Construction :=
  if c.hasOpen .template then
    if c.hasInScope ElementName.boundsScope .form then c.closeImplied.popThrough (· == .form)
    else c
  else
    match c.form with
    | none => c
    | some id =>
      let c := { c with form := none }
      if inScope ElementName.boundsScope (·.id == id) c.stack then
        -- The form may be closed with elements open in it, which stay open.
        c.closeImplied.removeFromStack id
      else c

/-- An end tag in the body. -/
def endInBody (tag : Tag) : Step :=
  match tag with
  | .template => .done c.endTemplate
  | .body =>
    if c.hasInScope ElementName.boundsScope .body then .done { c with mode := .afterBody }
    else .done c
  | .html =>
    if c.hasInScope ElementName.boundsScope .body then .again { c with mode := .afterBody }
    else .done c
  | .address | .article | .aside | .blockquote | .button | .center | .details | .dialog | .dir
  | .div | .dl | .fieldset | .figcaption | .figure | .footer | .header | .hgroup | .listing
  | .main | .menu | .nav | .ol | .pre | .search | .«section» | .summary | .ul =>
    if c.hasInScope ElementName.boundsScope tag then .done (c.closeImplied.popThrough (· == tag))
    else .done c
  | .form => .done c.endForm
  | .p =>
    -- Without a paragraph to end, an empty one is put in.
    let c := if c.hasInScope ElementName.boundsButtonScope .p then c else c.openHtml .p
    .done c.closeParagraph
  | .li =>
    if c.hasInScope ElementName.boundsListItemScope .li then
      .done ((c.closeImpliedExcept .li).popThrough (· == .li))
    else .done c
  | .dd | .dt =>
    if c.hasInScope ElementName.boundsScope tag then
      .done ((c.closeImpliedExcept tag).popThrough (· == tag))
    else .done c
  | .h1 | .h2 | .h3 | .h4 | .h5 | .h6 =>
    -- The levels of the start tag and the end tag need not be the same.
    if inScope ElementName.boundsScope (·.name.isHtml Tag.isHeading) c.stack then
      .done (c.closeImplied.popThrough Tag.isHeading)
    else .done c
  | .a | .b | .big | .code | .em | .font | .i | .nobr | .s | .small | .strike | .strong | .tt
  | .u => .done (c.adopt tag)
  | .applet | .marquee | .object =>
    if c.hasInScope ElementName.boundsScope tag then
      .done (c.closeImplied.popThrough (· == tag)).clearFormatting
    else .done c
  | .br => .done (c.startVoid .br false)
  | _ => .done (c.closeOrdinary tag)

/-! ### The two modes -/

/-- Running text in the body. -/
def textInBody (piece : List Char) : Construction :=
  c.reopenFormatting.insertText piece

/-- A token in the body. -/
def inBody : Token → Step
  | .null | .malformed | .doctype _ => .done c
  | .space piece => .done (c.textInBody piece)
  | .text piece => .done { c.textInBody piece with framesetOk := false }
  | .comment => .done c.insertComment
  | .startTag t => .done (c.startInBody t)
  | .endTag tag => c.endInBody tag
  | .eof => if c.templateModes.isEmpty then .done c else c.endOfTemplate

/-- The head closed before something that cannot be in it. -/
def leaveHead : Step := .again { c.pop with mode := .afterHead }

/-- A token in the head. -/
def inHead : Token → Step
  | .doctype _ => .done c
  | .space piece => .done (c.insertText piece)
  | .comment => .done c.insertComment
  | .startTag t =>
    match t.tag with
    | .html | .head => .done c
    | .noscript => .done (c.openRaw .noscript (.rawText .noscript))
    | tag => if isHeadElement tag then .done (c.startHeadElement t) else c.leaveHead
  | .endTag tag =>
    match tag with
    | .head => .done { c.pop with mode := .afterHead }
    | .body | .html | .br => c.leaveHead
    | .template => .done c.endTemplate
    | _ => .done c
  | .malformed => .done c
  | .null | .text _ | .eof => c.leaveHead

end PageHarvest.Html.Construction
