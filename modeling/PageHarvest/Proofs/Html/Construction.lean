import PageHarvest.Html.Document
import PageHarvest.Proofs.Html.Mass

/-!
# Building a document adds no text

Each rule takes in no more than its token, and a rule that passes the token on takes in nothing
(`takes_step`).  So a document has no more text than its markup (`mass_read_le`).

Most of what a rule does is to open, close and move elements, which leaves the text alone.  There is
one lemma about that for each operation (`mass_…`), and the one about a rule (`takes_…`) goes through
the tokens and tags that the rule tells apart.
-/

namespace PageHarvest.Html

open Text

/-- The step takes in at most `w`, and nothing if it passes the token on. -/
def Step.Takes (m w : Nat) : Step → Prop
  | .done c => c.mass ≤ m + w
  | .again c => c.mass ≤ m

namespace Construction

@[simp] theorem takes_done {c : Construction} {m w : Nat} :
    (Step.done c).Takes m w ↔ c.mass ≤ m + w :=
  Iff.rfl

@[simp] theorem takes_again {c : Construction} {m w : Nat} :
    (Step.again c).Takes m w ↔ c.mass ≤ m :=
  Iff.rfl

/-- A rule that chooses between two steps. -/
@[simp] theorem takes_ite (p : Prop) [Decidable p] (s r : Step) (m w : Nat) :
    (if p then s else r).Takes m w ↔ if p then s.Takes m w else r.Takes m w := by
  split <;> rfl

/-! ### Formatting elements -/

/-- A fold that leaves the text alone. -/
theorem mass_foldl {α : Type} {f : Construction → α → Construction}
    (hf : ∀ c x, (f c x).mass = c.mass) (c : Construction) (xs : List α) :
    (xs.foldl f c).mass = c.mass := by
  induction xs generalizing c with
  | nil => rfl
  | cons x xs ih => rw [List.foldl_cons, ih, hf]

/-- Formatting elements that are opened anew are empty. -/
@[simp] theorem mass_reopenFormatting (c : Construction) : c.reopenFormatting.mass = c.mass := by
  unfold reopenFormatting
  dsimp only
  rw [mass_foldl]
  · rfl
  · intro c f
    split
    · rfl
    · exact mass_openElement c _

/-- A formatting element, with those that have to be opened anew before it. -/
@[simp] theorem mass_openFormatting (c : Construction) (tag : StartTag) :
    (c.openFormatting tag).mass = c.mass := by
  simp [openFormatting]

@[simp] theorem mass_pushMarker (c : Construction) : c.pushMarker.mass = c.mass := rfl

@[simp] theorem mass_clearFormatting (c : Construction) : c.clearFormatting.mass = c.mass := rfl

/-- An end tag takes elements off the stack and leaves them in the tree. -/
@[simp] theorem mass_closeOrdinary (c : Construction) (tag : Tag) :
    (c.closeOrdinary tag).mass = c.mass := by
  unfold closeOrdinary
  split
  · split <;> rfl
  · rfl

/-- One element between a formatting element and the block: a copy of it is made, which is empty,
and what was built so far moves into the copy. -/
theorem Adoption.mass_step (block : Nat) (a : Adoption) (e : OpenElement) :
    (a.step block e).arena.mass = a.arena.mass := by
  unfold step
  dsimp only
  split
  · rfl
  · split
    · rfl
    · simp [Arena.mass_create, Kind.mass]

/-- All elements between the two. -/
theorem Adoption.mass_foldl_step (block : Nat) (a : Adoption) (es : List OpenElement) :
    (es.foldl (step block) a).arena.mass = a.arena.mass := by
  induction es generalizing a with
  | nil => rfl
  | cons e es ih => rw [List.foldl_cons, ih, mass_step]

/-- One round for a misnested end tag moves text to other elements and adds none. -/
theorem mass_adoptOnce (c : Construction) (subject : Tag) :
    (c.adoptOnce subject).1.mass = c.mass := by
  unfold adoptOnce
  -- Before the last case only the lists of elements change.
  split
  · simp
  · simp
  · dsimp only
    split
    · rfl
    · split
      · rfl
      · split
        · rfl
        · -- The block is moved, and a new element takes over all that is in it.
          dsimp only
          simp only [mass_mk, Arena.mass_append, Arena.mass_moveChildren, Arena.mass_create,
            Kind.mass, Nat.add_zero, mass_arena_add, mass_insertAt, Arena.mass_detach,
            Adoption.mass_foldl_step]

/-- At most `n` rounds for a misnested end tag. -/
theorem mass_adoptRounds (subject : Tag) (n : Nat) (c : Construction) :
    (adoptRounds subject n c).mass = c.mass := by
  induction n generalizing c with
  | zero => rfl
  | succ n ih =>
    have := mass_adoptOnce c subject
    rw [adoptRounds]
    split
    · next h =>
      rw [h] at this
      rw [ih, this]
    · next h =>
      rw [h] at this
      exact this

/-- A misnested end tag adds no text, whichever way it is dealt with. -/
@[simp] theorem mass_adopt (c : Construction) (subject : Tag) : (c.adopt subject).mass = c.mass := by
  unfold adopt
  split
  · split
    · rfl
    · exact mass_adoptRounds _ _ _
  · rfl

@[simp] theorem mass_closeOpenLink (c : Construction) : c.closeOpenLink.mass = c.mass := by
  unfold closeOpenLink
  split
  · simp
  · rfl

/-! ### The head and the body -/

/-- A template starts out empty, and so does one whose contents land where it stands. -/
@[simp] theorem mass_openTemplate (c : Construction) (t : StartTag) :
    (c.openTemplate t).mass = c.mass := by
  unfold openTemplate
  dsimp only
  split <;> simp

/-- The elements of a head start out empty. -/
@[simp] theorem mass_startHeadElement (c : Construction) (t : StartTag) :
    (c.startHeadElement t).mass = c.mass := by
  unfold startHeadElement
  split <;> simp

@[simp] theorem mass_leaveTemplate (c : Construction) : c.leaveTemplate.mass = c.mass := rfl

@[simp] theorem mass_endTemplate (c : Construction) : c.endTemplate.mass = c.mass := by
  unfold endTemplate
  split <;> rfl

@[simp] theorem mass_startBlock (c : Construction) (tag : Tag) :
    (c.startBlock tag).mass = c.mass := by
  simp [startBlock]

@[simp] theorem mass_startInline (c : Construction) (tag : Tag) :
    (c.startInline tag).mass = c.mass := by
  simp [startInline]

@[simp] theorem mass_closeListItem (c : Construction) (p : Tag → Bool) :
    (c.closeListItem p).mass = c.mass := by
  unfold closeListItem
  dsimp only
  split
  · split <;> rfl
  · rfl

/-- The item before is closed, and the new one is empty. -/
@[simp] theorem mass_startListItem (c : Construction) (p : Tag → Bool) (tag : Tag) :
    (c.startListItem p tag).mass = c.mass := by
  simp [startListItem]

/-- The body goes, but its nodes stay in the arena and count. -/
@[simp] theorem mass_startFrameset (c : Construction) : c.startFrameset.mass = c.mass := by
  unfold startFrameset
  split
  · split
    · simp
    · rfl
  · rfl

@[simp] theorem mass_startForm (c : Construction) : c.startForm.mass = c.mass := by
  unfold startForm
  split
  · rfl
  · dsimp only
    split <;> simp

@[simp] theorem mass_startVoid (c : Construction) (tag : Tag) (keepsFramesetOk : Bool) :
    (c.startVoid tag keepsFramesetOk).mass = c.mass := by
  simp [startVoid]

@[simp] theorem mass_startSelect (c : Construction) : c.startSelect.mass = c.mass := by
  simp [startSelect]

@[simp] theorem mass_startForeign (c : Construction) (name : ElementName) (selfClosing : Bool) :
    (c.startForeign name selfClosing).mass = c.mass := by
  unfold startForeign
  split <;> simp

/-- **A start tag in the body adds no text**, whichever tag it is. -/
@[simp] theorem mass_startInBody (c : Construction) (t : StartTag) :
    (c.startInBody t).mass = c.mass := by
  -- One case for each tag; all but a few are the same for `startInBody`.
  obtain ⟨tag, attributes, selfClosing⟩ := t
  cases tag <;> simp [startInBody]

/-- The end of a form, which may be misnested too. -/
@[simp] theorem mass_endForm (c : Construction) : c.endForm.mass = c.mass := by
  unfold endForm
  split
  · split <;> rfl
  · split
    · rfl
    · dsimp only
      split <;> rfl

/-- An end tag in the body. -/
theorem takes_endInBody (c : Construction) (tag : Tag) :
    (c.endInBody tag).Takes c.mass (Token.endTag tag).weight := by
  cases tag <;> simp [endInBody]

/-- Running text counts in full, with formatting elements opened anew around it or without. -/
@[simp] theorem mass_textInBody (c : Construction) (piece : List Char) :
    (c.textInBody piece).mass = c.mass + weight piece := by
  simp [textInBody]

/-- Where templates are still open at the end, the end is passed on after each of them. -/
@[simp] theorem takes_endOfTemplate (c : Construction) (w : Nat) :
    c.endOfTemplate.Takes c.mass w := by
  simp [endOfTemplate]

/-- The rule for the body, which many of the others fall back on. -/
@[simp] theorem takes_inBody (c : Construction) (t : Token) :
    (c.inBody t).Takes c.mass t.weight := by
  cases t with
  | endTag tag => exact takes_endInBody c tag
  | space piece => simp [inBody, Token.weight]
  | text piece => simp [inBody, Token.weight]
  | _ => simp [inBody]

@[simp] theorem takes_leaveHead (c : Construction) (w : Nat) : c.leaveHead.Takes c.mass w := by
  simp [leaveHead]

/-- The rule for the head. -/
theorem takes_inHead (c : Construction) (t : Token) : (c.inHead t).Takes c.mass t.weight := by
  cases t with
  | startTag t =>
    obtain ⟨tag, attributes, selfClosing⟩ := t
    cases tag <;> simp [inHead]
  | endTag tag => cases tag <;> simp [inHead]
  | space piece => simp [inHead, Token.weight]
  | _ => simp [inHead]

/-! ### Tables and selection lists -/

/-- The rule for the body with text put in front of the table: only the place differs. -/
@[simp] theorem takes_fostered (c : Construction) (t : Token) :
    (c.fostered t).Takes c.mass t.weight := by
  have h := takes_inBody { c with fostering := true } t
  unfold fostered
  split
  · next heq =>
    rw [heq] at h
    exact h
  · next heq =>
    rw [heq] at h
    exact h

/-- A fold that puts in a text for each entry of a list. -/
theorem mass_foldl_le {α : Type} {f : Construction → α → Construction} {w : α → Nat}
    (hf : ∀ c x, (f c x).mass ≤ c.mass + w x) (c : Construction) (xs : List α) :
    (xs.foldl f c).mass ≤ c.mass + (xs.map w).sum := by
  induction xs generalizing c with
  | nil => exact Nat.le_refl _
  | cons x xs ih =>
    have := hf c x
    have := ih (f c x)
    rw [List.foldl_cons, List.map_cons, List.sum_cons]
    omega

/-- Text held back in a table counts when it is held back, and not again when it is released. -/
theorem mass_releaseText_le (c : Construction) : c.releaseText.mass ≤ c.mass := by
  have hheld : (c.tableText.reverse.map fun p => weight p.2).sum = heldBack c.tableText := by
    rw [List.map_reverse, List.sum_reverse, heldBack]
  -- The text is not held back any more when the first piece is put in, so that it counts once.
  have hrelease : ∀ f : Construction → Bool × List Char → Construction,
      (∀ c p, (f c p).mass ≤ c.mass + weight p.2) →
      (c.tableText.reverse.foldl f { c with tableText := [] }).mass ≤ c.mass := by
    intro f hf
    refine (mass_foldl_le hf _ _).trans ?_
    rw [hheld, mass_mk, heldBack_nil, Nat.add_zero, mass_arena_add]
  unfold releaseText
  dsimp only
  split
  · exact hrelease _ fun c p => (mass_insertText c p.2).le
  -- Text that is not blank is fostered, piece by piece.
  · refine hrelease _ fun c p => ?_
    have h := takes_fostered c (if p.1 then .space p.2 else .text p.2)
    have hw : (if p.1 then Token.space p.2 else .text p.2).weight = weight p.2 := by
      split <;> rfl
    rw [hw] at h
    split
    · next heq =>
      rw [heq] at h
      exact h
    · next heq =>
      rw [heq] at h
      exact Nat.le_add_right_of_le h

/-- Text in a table is held back until it is known whether it is blank. -/
theorem takes_inTableText (c : Construction) (t : Token) :
    (c.inTableText t).Takes c.mass t.weight := by
  have hrelease := mass_releaseText_le c
  cases t with
  | null => simp [inTableText]
  | space piece | text piece =>
    -- Text held back counts as much as text in the tree.
    rw [inTableText, takes_done, mass_mk, heldBack_cons, Nat.add_left_comm, mass_arena_add,
      Nat.add_comm]
    exact Nat.le_refl _
  | _ => exact hrelease

@[simp] theorem mass_startTablePart (c : Construction) (tag : Tag) (mode : Mode) :
    (c.startTablePart tag mode).mass = c.mass := by
  simp [startTablePart]

/-- A start tag in a table. -/
theorem takes_startInTable (c : Construction) (t : StartTag) :
    (c.startInTable t).Takes c.mass (Token.startTag t).weight := by
  obtain ⟨tag, attributes, selfClosing⟩ := t
  cases tag <;> simp [startInTable]

/-- The rule for a table, outside of its rows. -/
@[simp] theorem takes_inTable (c : Construction) (t : Token) :
    (c.inTable t).Takes c.mass t.weight := by
  cases t with
  | startTag t => exact takes_startInTable c t
  | endTag tag => cases tag <;> simp [inTable]
  | _ => simp [inTable]

@[simp] theorem mass_closeCaption (c : Construction) : c.closeCaption.mass = c.mass := rfl

/-- The rule for a caption; what does not end it is read as in the body. -/
theorem takes_inCaption (c : Construction) (t : Token) :
    (c.inCaption t).Takes c.mass t.weight := by
  cases t with
  | startTag t =>
    obtain ⟨tag, attributes, selfClosing⟩ := t
    cases tag <;> simp [inCaption]
  | endTag tag => cases tag <;> simp [inCaption]
  | _ => simp [inCaption]

@[simp] theorem takes_leaveColumnGroup (c : Construction) (w : Nat) :
    c.leaveColumnGroup.Takes c.mass w := by
  simp [leaveColumnGroup]

/-- The rule for a group of columns, which keeps blanks only. -/
theorem takes_inColumnGroup (c : Construction) (t : Token) :
    (c.inColumnGroup t).Takes c.mass t.weight := by
  cases t with
  | startTag t =>
    obtain ⟨tag, attributes, selfClosing⟩ := t
    cases tag <;> simp [inColumnGroup]
  | endTag tag => cases tag <;> simp [inColumnGroup]
  | space piece => simp [inColumnGroup, Token.weight]
  | _ => simp [inColumnGroup]

@[simp] theorem mass_closeTableSection (c : Construction) : c.closeTableSection.mass = c.mass :=
  rfl

@[simp] theorem takes_leaveTableSection (c : Construction) (w : Nat) :
    c.leaveTableSection.Takes c.mass w := by
  simp [leaveTableSection]

/-- The rule for a section of a table. -/
theorem takes_inTableBody (c : Construction) (t : Token) :
    (c.inTableBody t).Takes c.mass t.weight := by
  cases t with
  | startTag t =>
    obtain ⟨tag, attributes, selfClosing⟩ := t
    cases tag <;> simp [inTableBody]
  | endTag tag => cases tag <;> simp [inTableBody]
  | _ => simp [inTableBody]

@[simp] theorem mass_closeRow (c : Construction) : c.closeRow.mass = c.mass := rfl

@[simp] theorem takes_leaveRow (c : Construction) (w : Nat) : c.leaveRow.Takes c.mass w := by
  simp [leaveRow]

/-- The rule for a row. -/
theorem takes_inRow (c : Construction) (t : Token) : (c.inRow t).Takes c.mass t.weight := by
  cases t with
  | startTag t =>
    obtain ⟨tag, attributes, selfClosing⟩ := t
    cases tag <;> simp [inRow]
  | endTag tag => cases tag <;> simp [inRow]
  | _ => simp [inRow]

@[simp] theorem mass_closeCell (c : Construction) : c.closeCell.mass = c.mass := rfl

/-- The rule for a cell, with the body inside. -/
theorem takes_inCell (c : Construction) (t : Token) : (c.inCell t).Takes c.mass t.weight := by
  cases t with
  | startTag t =>
    obtain ⟨tag, attributes, selfClosing⟩ := t
    cases tag <;> simp [inCell]
  | endTag tag => cases tag <;> simp [inCell]
  | _ => simp [inCell]

@[simp] theorem mass_closeSelect (c : Construction) : c.closeSelect.mass = c.mass := rfl

/-- The rule for a selection list, which takes in text as it stands. -/
@[simp] theorem takes_inSelect (c : Construction) (t : Token) :
    (c.inSelect t).Takes c.mass t.weight := by
  cases t with
  | startTag t =>
    obtain ⟨tag, attributes, selfClosing⟩ := t
    cases tag <;> simp [inSelect]
  | endTag tag => cases tag <;> simp [inSelect]
  | space piece => simp [inSelect, Token.weight]
  | text piece => simp [inSelect, Token.weight]
  | _ => simp [inSelect]

/-- The rule for a selection list that a tag of the table around it may end. -/
theorem takes_inSelectInTable (c : Construction) (t : Token) :
    (c.inSelectInTable t).Takes c.mass t.weight := by
  cases t with
  | startTag t =>
    obtain ⟨tag, attributes, selfClosing⟩ := t
    cases tag <;> simp [inSelectInTable]
  | endTag tag => cases tag <;> simp [inSelectInTable]
  | _ => simp [inSelectInTable]

/-! ### Outside the body -/

/-- The root, the head and the body start out empty, asked for by a tag or not. -/
@[simp] theorem mass_openRoot (c : Construction) : c.openRoot.mass = c.mass := by
  simp [openRoot, Arena.mass_create, Kind.mass]

@[simp] theorem mass_openHead (c : Construction) : c.openHead.mass = c.mass := by
  simp [openHead]

@[simp] theorem mass_openBody (c : Construction) : c.openBody.mass = c.mass := by
  simp [openBody]

/-- The rule before anything else, which at most notes a document type. -/
theorem takes_initial (c : Construction) (t : Token) : (c.initial t).Takes c.mass t.weight := by
  cases t <;> simp [initial]

theorem takes_beforeHtml (c : Construction) (t : Token) :
    (c.beforeHtml t).Takes c.mass t.weight := by
  cases t <;> simp [beforeHtml]

theorem takes_beforeHead (c : Construction) (t : Token) :
    (c.beforeHead t).Takes c.mass t.weight := by
  cases t <;> simp [beforeHead]

@[simp] theorem mass_startLateHeadElement (c : Construction) (t : StartTag) :
    (c.startLateHeadElement t).mass = c.mass := by
  unfold startLateHeadElement
  split
  · rfl
  · simp

/-- The rule between head and body; blanks stay between them. -/
theorem takes_afterHead (c : Construction) (t : Token) :
    (c.afterHead t).Takes c.mass t.weight := by
  cases t with
  | startTag t =>
    obtain ⟨tag, attributes, selfClosing⟩ := t
    cases tag <;> simp [afterHead]
  | endTag tag => cases tag <;> simp [afterHead]
  | space piece => simp [afterHead, Token.weight]
  | _ => simp [afterHead]

/-- The rule for the contents of raw elements. -/
theorem takes_inText (c : Construction) (t : Token) : (c.inText t).Takes c.mass t.weight := by
  cases t <;> simp [inText, Token.weight]

/-- A template that turns to another mode reads its token again. -/
@[simp] theorem takes_turnTemplate (c : Construction) (mode : Mode) (w : Nat) :
    (c.turnTemplate mode).Takes c.mass w := by
  simp [turnTemplate]

/-- The rule for the contents of a template. -/
theorem takes_inTemplate (c : Construction) (t : Token) :
    (c.inTemplate t).Takes c.mass t.weight := by
  cases t with
  | startTag t =>
    obtain ⟨tag, attributes, selfClosing⟩ := t
    cases tag <;> simp [inTemplate]
  | _ => simp [inTemplate]

@[simp] theorem takes_backToBody (c : Construction) (w : Nat) : c.backToBody.Takes c.mass w := by
  simp [backToBody]

/-- The rule after the body, whose blanks still belong to the body. -/
theorem takes_afterBody (c : Construction) (t : Token) :
    (c.afterBody t).Takes c.mass t.weight := by
  cases t <;> simp [afterBody, Token.weight]

theorem takes_afterAfterBody (c : Construction) (t : Token) :
    (c.afterAfterBody t).Takes c.mass t.weight := by
  cases t <;> simp [afterAfterBody, Token.weight]

/-- The rule for framesets, which keep blanks only. -/
theorem takes_inFrameset (c : Construction) (t : Token) :
    (c.inFrameset t).Takes c.mass t.weight := by
  cases t with
  | startTag t =>
    obtain ⟨tag, attributes, selfClosing⟩ := t
    cases tag <;> simp [inFrameset]
  | endTag tag => cases tag <;> simp [inFrameset]
  | space piece => simp [inFrameset, Token.weight]
  | _ => simp [inFrameset]

theorem takes_afterFrameset (c : Construction) (t : Token) :
    (c.afterFrameset t).Takes c.mass t.weight := by
  cases t with
  | endTag tag => cases tag <;> simp [afterFrameset]
  | _ => simp [afterFrameset, Token.weight]

theorem takes_afterAfterFrameset (c : Construction) (t : Token) :
    (c.afterAfterFrameset t).Takes c.mass t.weight := by
  cases t <;> simp [afterAfterFrameset, Token.weight]

/-! ### All rules -/

/-- The rules of all modes. -/
theorem takes_inMode (c : Construction) (t : Token) : (c.inMode t).Takes c.mass t.weight := by
  unfold inMode
  -- The order is that of `inMode`.
  split
  · exact takes_initial c t
  · exact takes_beforeHtml c t
  · exact takes_beforeHead c t
  · exact takes_inHead c t
  · exact takes_afterHead c t
  · exact takes_inBody c t
  · exact takes_inText c t
  · exact takes_inTable c t
  · exact takes_inTableText c t
  · exact takes_inCaption c t
  · exact takes_inColumnGroup c t
  · exact takes_inTableBody c t
  · exact takes_inRow c t
  · exact takes_inCell c t
  · exact takes_inSelect c t
  · exact takes_inSelectInTable c t
  · exact takes_inTemplate c t
  · exact takes_afterBody c t
  · exact takes_inFrameset c t
  · exact takes_afterFrameset c t
  · exact takes_afterAfterBody c t
  · exact takes_afterAfterFrameset c t

/-- A tag that leaves foreign elements is read by the rule of the mode. -/
theorem takes_breakOut (c : Construction) (t : Token) : (c.breakOut t).Takes c.mass t.weight :=
  takes_inMode (c.popWhile _) t

/-- An end tag goes up the open elements, for one of its name or for one that is not foreign. -/
theorem takes_endInForeign (c : Construction) (tag : Tag) (es : List OpenElement) :
    (c.endInForeign tag es).Takes c.mass (Token.endTag tag).weight := by
  fun_induction endInForeign c tag es with
  | case1 | case2 => simp
  -- The element is not foreign, so that the rule of its mode decides.
  | case3 => exact takes_inMode c _
  | case4 => simp
  | case5 _ _ _ _ _ ih => exact ih

/-- The rule for foreign elements. -/
theorem takes_inForeign (c : Construction) (t : Token) :
    (c.inForeign t).Takes c.mass t.weight := by
  cases t with
  | startTag t =>
    unfold inForeign
    dsimp only
    split
    · exact takes_breakOut c _
    · simp
  | endTag tag =>
    have hbreak := takes_breakOut c (.endTag tag)
    have hend := takes_endInForeign c tag c.stack
    cases tag with
    -- These two leave foreign elements whatever is open; others look for their start.
    | br | p => exact hbreak
    | _ => exact hend
  | _ => simp [inForeign, Token.weight]

/-- **No rule takes in more than its token**, and one that passes the token on takes in nothing. -/
theorem takes_step (c : Construction) (t : Token) : (c.step t).Takes c.mass t.weight := by
  unfold step
  split
  · exact takes_inForeign c t
  · exact takes_inMode c t

/-! ### Reading -/

/-- A token that is passed from rule to rule counts once. -/
theorem mass_settle_le (t : Token) (n : Nat) (c : Construction) :
    (settle t n c).mass ≤ c.mass + t.weight := by
  -- On the number of rules that may still see the token.
  induction n generalizing c with
  | zero => exact Nat.le_add_right _ _
  | succ n ih =>
    have hstep := takes_step c t
    rw [settle]
    split
    · next h =>
      rw [h] at hstep
      exact hstep
    · next d h =>
      -- Whoever passes the token on has not taken it in.
      rw [h] at hstep
      exact (ih d).trans (Nat.add_le_add_right hstep _)

/-- A token with as many rules as it takes. -/
theorem mass_dispatch_le (c : Construction) (t : Token) :
    (c.dispatch t).mass ≤ c.mass + t.weight :=
  mass_settle_le t _ c

/-- A token, from which a line break that begins a raw text may be left out. -/
theorem mass_feed_le (c : Construction) (t : Token) : (c.feed t).mass ≤ c.mass + t.weight := by
  have hdispatch := mass_dispatch_le { c with skipNewline := false }
  have hskip : mass { c with skipNewline := false } = c.mass := rfl
  -- Whatever is left out of a token before it is dispatched only makes it lighter.
  unfold feed
  dsimp only
  split
  · exact Nat.le_add_right _ _
  · split
    · exact hdispatch _
    · exact Nat.le_add_right _ _
  · next cs =>
    split
    · split
      · exact Nat.le_add_right _ _
      · have hle : (Token.space cs).weight ≤ (Token.space ('\n' :: cs)).weight :=
          weight_le_of_suffix (List.suffix_cons '\n' cs)
        exact (hdispatch (.space cs)).trans (Nat.add_le_add_left hle _)
    · exact hdispatch _
  · exact hdispatch _

/-- The tokens one after the other. -/
theorem mass_feedAll_le (c : Construction) (ts : List Token) :
    (ts.foldl feed c).mass ≤ c.mass + (ts.map Token.weight).sum :=
  mass_foldl_le mass_feed_le c ts

/-- **A document has no more text than its markup.** -/
theorem mass_read_le (content : Content) (c : Construction) (s : List Char) :
    (c.read content s).mass ≤ c.mass + weight s := by
  fun_induction read content c s with
  | case1 content c => exact mass_feed_le c .eof
  | case2 content c char s piece next ih =>
    have hpiece : piece.weight ≤ weightOf char + weight s := weight_lex_le _ _ _ _
    have hnext : next.mass ≤ c.mass + (piece.tokens.map Token.weight).sum :=
      mass_feedAll_le _ _
    rw [Lexed.weight] at hpiece
    rw [weight_cons]
    omega

end Construction

end PageHarvest.Html
