import PageHarvest.Html.Construction.Body

/-!
# Tokens in tables and selection lists

Only rows, cells and their like may stand directly in a table.  Anything else is put in front of it
(`fostered`), and text is held back until it is known whether it is blank.
-/

namespace PageHarvest.Html.Construction

variable (c : Construction)

/-- The elements that bound the rows of a section of a table. -/
def boundsRows (t : Tag) : Bool :=
  t.isTableSection || t == .template || t == .html

/-- The elements that bound the cells of a row. -/
def boundsCells (t : Tag) : Bool :=
  t == .tr || t == .template || t == .html

/-- An element of HTML with this tag is in scope of the table. -/
def hasInTable (tag : Tag) : Bool :=
  c.hasInScope ElementName.boundsTableScope tag

/-- A token in the body whose nodes go in front of the table. -/
def fostered (t : Token) : Step :=
  match { c with fostering := true }.inBody t with
  | .done c => .done { c with fostering := false }
  | .again c => .again { c with fostering := false }

/-! ### Text in a table -/

/-- The text held back for a table put into the document: in front of the table if any of it is not
blank. -/
def releaseText : Construction :=
  let pieces := c.tableText.reverse
  let c := { c with tableText := [] }
  if pieces.all Prod.fst then pieces.foldl (fun c p => c.insertText p.2) c
  else
    pieces.foldl (fun c p =>
      match c.fostered (if p.1 then .space p.2 else .text p.2) with
      | .done c => c
      | .again c => c) c

/-- A token after text in a table. -/
def inTableText : Token → Step
  | .null => .done c
  | .space piece => .done { c with tableText := (true, piece) :: c.tableText }
  | .text piece => .done { c with tableText := (false, piece) :: c.tableText }
  | _ => let c := c.releaseText; .again { c with mode := c.returnMode }

/-! ### Tables -/

/-- The start tag of a part of a table, directly in the table. -/
def startTablePart (tag : Tag) (mode : Mode) : Construction :=
  { (c.popTo Tag.boundsTableScope).openHtml tag with mode }

/-- A start tag directly in a table. -/
def startInTable (t : StartTag) : Step :=
  match t.tag with
  | .caption => .done { (c.popTo Tag.boundsTableScope).pushMarker.openHtml .caption with
      mode := .inCaption }
  | .colgroup => .done (c.startTablePart .colgroup .inColumnGroup)
  | .col => .again (c.startTablePart .colgroup .inColumnGroup)
  | .tbody | .tfoot | .thead => .done (c.startTablePart t.tag .inTableBody)
  | .td | .th | .tr => .again (c.startTablePart .tbody .inTableBody)
  | .table =>
    -- Tables do not stand directly in tables: the open one ends here.
    if c.hasInTable .table then .again (c.popThrough (· == .table)).resetMode else .done c
  | .style | .script | .template => .done (c.startHeadElement t)
  -- A hidden input shows nothing, so it may stay where it is.
  | .input => if isHiddenInput t then .done (c.insertVoid .input) else c.fostered (.startTag t)
  | .form =>
    if c.hasOpen .template || c.form.isSome then .done c
    else
      -- The form is not opened: what follows in the table is not inside of it.
      let (c, id) := c.insertElement (.html .form)
      .done { c with form := some id }
  | _ => c.fostered (.startTag t)

/-- A token directly in a table. -/
def inTable : Token → Step
  | .doctype _ | .malformed => .done c
  | t@.null | t@(.space _) | t@(.text _) =>
    if c.currentIs Tag.fostersText then
      .again { c with returnMode := c.mode, mode := .inTableText }
    else c.fostered t
  | .comment => .done c.insertComment
  | .startTag t => c.startInTable t
  | .endTag tag =>
    match tag with
    | .table =>
      if c.hasInTable .table then .done (c.popThrough (· == .table)).resetMode else .done c
    | .body | .caption | .col | .colgroup | .html | .tbody | .td | .tfoot | .th | .thead | .tr =>
      .done c
    | .template => .done c.endTemplate
    | _ => c.fostered (.endTag tag)
  | .eof => c.inBody .eof

/-- The caption closed. -/
def closeCaption : Construction :=
  { (c.closeImplied.popThrough (· == .caption)).clearFormatting with mode := .inTable }

/-- A token in the caption of a table. -/
def inCaption : Token → Step
  | .startTag t =>
    match t.tag with
    | .caption | .col | .colgroup | .tbody | .td | .tfoot | .th | .thead | .tr =>
      if c.hasInTable .caption then .again c.closeCaption else .done c
    | _ => c.inBody (.startTag t)
  | .endTag tag =>
    match tag with
    | .caption => if c.hasInTable .caption then .done c.closeCaption else .done c
    | .table => if c.hasInTable .caption then .again c.closeCaption else .done c
    | .body | .col | .colgroup | .html | .tbody | .td | .tfoot | .th | .thead | .tr => .done c
    | _ => c.inBody (.endTag tag)
  | t => c.inBody t

/-- The group of columns closed before something that cannot be in it. -/
def leaveColumnGroup : Step :=
  if c.currentIs (· == .colgroup) then .again { c.pop with mode := .inTable } else .done c

/-- A token in a group of columns. -/
def inColumnGroup : Token → Step
  | .doctype _ => .done c
  | .space piece => .done (c.insertText piece)
  | .comment => .done c.insertComment
  | .startTag t =>
    match t.tag with
    | .html => .done c
    | .col => .done (c.insertVoid .col)
    | .template => .done (c.startHeadElement t)
    | _ => c.leaveColumnGroup
  | .endTag tag =>
    match tag with
    | .colgroup =>
      .done (if c.currentIs (· == .colgroup) then { c.pop with mode := .inTable } else c)
    | .col => .done c
    | .template => .done c.endTemplate
    | _ => c.leaveColumnGroup
  | .eof => c.inBody .eof
  | .malformed => .done c
  | .null | .text _ => c.leaveColumnGroup

/-- The section of the table closed. -/
def closeTableSection : Construction :=
  { (c.popTo boundsRows).pop with mode := .inTable }

/-- The section of the table closed before a token that stands outside of it.  A head without a table
around it is not closed like this. -/
def leaveTableSection : Step :=
  let closes (t : Tag) : Bool := t == .table || t == .tbody || t == .tfoot
  if inScope ElementName.boundsTableScope (·.name.isHtml closes) c.stack then
    .again c.closeTableSection
  else .done c

/-- A token in a section of a table. -/
def inTableBody : Token → Step
  | .startTag t =>
    match t.tag with
    | .tr => .done { (c.popTo boundsRows).openHtml .tr with mode := .inRow }
    | .th | .td => .again { (c.popTo boundsRows).openHtml .tr with mode := .inRow }
    | .caption | .col | .colgroup | .tbody | .tfoot | .thead => c.leaveTableSection
    | _ => c.inTable (.startTag t)
  | .endTag tag =>
    match tag with
    | .tbody | .tfoot | .thead =>
      if c.hasInTable tag then .done c.closeTableSection else .done c
    | .table => c.leaveTableSection
    | .body | .caption | .col | .colgroup | .html | .td | .th | .tr => .done c
    | _ => c.inTable (.endTag tag)
  | t => c.inTable t

/-- The row closed. -/
def closeRow : Construction :=
  { (c.popTo boundsCells).pop with mode := .inTableBody }

/-- The row closed before a token that stands outside of it, if there is a row. -/
def leaveRow : Step :=
  if c.hasInTable .tr then .again c.closeRow else .done c

/-- A token in a row. -/
def inRow : Token → Step
  | .startTag t =>
    match t.tag with
    | .th | .td => .done { ((c.popTo boundsCells).openHtml t.tag).pushMarker with mode := .inCell }
    | .caption | .col | .colgroup | .tbody | .tfoot | .thead | .tr => c.leaveRow
    | _ => c.inTable (.startTag t)
  | .endTag tag =>
    match tag with
    | .tr => if c.hasInTable .tr then .done c.closeRow else .done c
    | .table => c.leaveRow
    | .tbody | .tfoot | .thead => if c.hasInTable tag then c.leaveRow else .done c
    | .body | .caption | .col | .colgroup | .html | .td | .th => .done c
    | _ => c.inTable (.endTag tag)
  | t => c.inTable t

/-- The cell closed. -/
def closeCell : Construction :=
  { (c.closeImplied.popThrough Tag.isCell).clearFormatting with mode := .inRow }

/-- A token in a cell. -/
def inCell : Token → Step
  | .startTag t =>
    match t.tag with
    | .caption | .col | .colgroup | .tbody | .td | .tfoot | .th | .thead | .tr =>
      if inScope ElementName.boundsTableScope (·.name.isHtml Tag.isCell) c.stack then
        .again c.closeCell
      else .done c
    | _ => c.inBody (.startTag t)
  | .endTag tag =>
    match tag with
    | .td | .th =>
      if c.hasInTable tag then
        .done { (c.closeImplied.popThrough (· == tag)).clearFormatting with mode := .inRow }
      else .done c
    | .body | .caption | .col | .colgroup | .html => .done c
    | .table | .tbody | .tfoot | .thead | .tr =>
      if c.hasInTable tag then .again c.closeCell else .done c
    | _ => c.inBody (.endTag tag)
  | t => c.inBody t

/-! ### Selection lists -/

/-- The selection list closed. -/
def closeSelect : Construction :=
  (c.popThrough (· == .select)).resetMode

/-- A selection list is in scope. -/
def hasSelect : Bool :=
  c.hasInScope ElementName.boundsSelectScope .select

/-- A token in a selection list. -/
def inSelect : Token → Step
  | .null | .malformed | .doctype _ => .done c
  | .space piece => .done (c.insertText piece)
  | .text piece => .done (c.insertText piece)
  | .comment => .done c.insertComment
  | .startTag t =>
    match t.tag with
    | .option => .done ((if c.currentIs (· == .option) then c.pop else c).openHtml .option)
    | .optgroup =>
      let c := if c.currentIs (· == .option) then c.pop else c
      .done ((if c.currentIs (· == .optgroup) then c.pop else c).openHtml .optgroup)
    | .hr =>
      let c := if c.currentIs (· == .option) then c.pop else c
      .done ((if c.currentIs (· == .optgroup) then c.pop else c).insertVoid .hr)
    | .select => .done (if c.hasSelect then c.closeSelect else c)
    -- These end the list, which then lets them through.
    | .input | .keygen | .textarea => if c.hasSelect then .again c.closeSelect else .done c
    | .script | .template => .done (c.startHeadElement t)
    | _ => .done c
  | .endTag tag =>
    match tag with
    | .optgroup =>
      let inGroup := (c.pop.currentIs (· == .optgroup)) && c.currentIs (· == .option)
      let c := if inGroup then c.pop else c
      .done (if c.currentIs (· == .optgroup) then c.pop else c)
    | .option => .done (if c.currentIs (· == .option) then c.pop else c)
    | .select => .done (if c.hasSelect then c.closeSelect else c)
    | .template => .done c.endTemplate
    | _ => .done c
  | .eof => c.inBody .eof

/-- A token in a selection list in a table. -/
def inSelectInTable : Token → Step
  | .startTag t =>
    match t.tag with
    | .caption | .table | .tbody | .tfoot | .thead | .tr | .td | .th => .again c.closeSelect
    | _ => c.inSelect (.startTag t)
  | .endTag tag =>
    match tag with
    | .caption | .table | .tbody | .tfoot | .thead | .tr | .td | .th =>
      if c.hasInTable tag then .again c.closeSelect else .done c
    | _ => c.inSelect (.endTag tag)
  | t => c.inSelect t

end PageHarvest.Html.Construction
