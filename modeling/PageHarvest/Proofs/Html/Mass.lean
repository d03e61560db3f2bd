import PageHarvest.Html.Construction.Basic
import PageHarvest.Proofs.Html.Lexer

/-!
# The text of a tree under construction

`Arena.mass` is the weight of all texts of an arena, whether they are in the document or not.  Moving
nodes about leaves it alone (`mass_append`, `mass_insertBefore`, `mass_moveChildren`), and putting in
text adds the weight of the text (`mass_appendText`, `mass_insertTextBefore`).
-/

namespace PageHarvest.Html

open Text

/-- What a node counts. -/
def Kind.mass : Kind → Nat
  | .text pieces => (pieces.map weight).sum
  | _ => 0

namespace Arena

variable {a : Arena} {i : Nat} {f : Cell → Cell} {piece : List Char}

/-- What the nodes of an arena count together. -/
def mass (a : Arena) : Nat := (a.cells.toList.map fun c => c.kind.mass).sum

/-! ### Moving nodes -/

/-- Changing one node changes what that node counts. -/
theorem mass_modify_add {c : Cell} (h : a.cells[i]? = some c) :
    (a.modify i f).mass + c.kind.mass = a.mass + (f c).kind.mass := by
  unfold mass modify
  rw [Array.toList_modify]
  rw [← Array.getElem?_toList] at h
  -- The nodes before the one that changes are passed over one by one.
  generalize a.cells.toList = cs at h
  induction cs generalizing i with
  | nil => exact absurd h (by simp)
  | cons d cs ih =>
    cases i with
    | zero =>
      obtain rfl : d = c := by simpa using h
      simp only [List.modify_zero_cons, List.map_cons, List.sum_cons]
      omega
    | succ i =>
      have := ih (by simpa using h)
      simp only [List.modify_succ_cons, List.map_cons, List.sum_cons]
      omega

/-- A change that keeps the kinds of nodes is one of names of neighbours, which count nothing. -/
theorem mass_modify (hf : ∀ c, (f c).kind = c.kind) : (a.modify i f).mass = a.mass := by
  cases h : a.cells[i]? with
  | some c =>
    have := mass_modify_add (f := f) h
    rw [hf c] at this
    omega
  | none =>
    -- There is no such node, so that nothing changes at all.
    rw [← Array.getElem?_toList, List.getElem?_eq_none_iff] at h
    rw [mass, modify, Array.toList_modify, List.modify_eq_self h, mass]

/-- The same where there may be no node to change. -/
theorem mass_modify? {i : Option Nat} (hf : ∀ c, (f c).kind = c.kind) :
    (a.modify? i f).mass = a.mass := by
  cases i with
  | none => rfl
  | some i => exact mass_modify hf

/-- A new node counts from the start, though it stands nowhere yet. -/
theorem mass_create (kind : Kind) : (a.create kind).1.mass = a.mass + kind.mass := by
  simp [create, mass]

/-- A node that is taken out of its row still counts. -/
@[simp] theorem mass_detach (i : Nat) : (a.detach i).mass = a.mass := by
  unfold detach
  split
  · rfl
  · simp only [mass_modify, mass_modify?, implies_true]

/-- A node put at the end of a row. -/
@[simp] theorem mass_append (parent child : Nat) : (a.append parent child).mass = a.mass := by
  simp only [append, mass_modify, mass_modify?, implies_true, mass_detach]

/-- A node put in front of another one. -/
@[simp] theorem mass_insertBefore (parent sibling child : Nat) :
    (a.insertBefore parent sibling child).mass = a.mass := by
  simp only [insertBefore, mass_modify, mass_modify?, implies_true, mass_detach]

/-- A row that gets another parent. -/
@[simp] theorem mass_moveChildren (source target : Nat) :
    (a.moveChildren source target).mass = a.mass := by
  unfold moveChildren
  split
  · rfl
  · dsimp only
    split <;> simp only [mass_modify, implies_true]

/-! ### Text -/

/-- A piece joined to a text that is there counts as much as one that stands alone. -/
theorem mass_extend? {i : Option Nat} {b : Arena} (h : a.extend? i piece = some b) :
    b.mass = a.mass + weight piece := by
  -- Only a text can be extended, so that the kind of the node is known.
  simp only [extend?, Option.bind_eq_bind, Option.bind_eq_some_iff] at h
  obtain ⟨i, rfl, c, hc, h⟩ := h
  split at h
  · next pieces hkind =>
    rw [Option.some.injEq] at h
    subst h
    have := mass_modify_add (f := fun c => { c with kind := .text (piece :: pieces) }) hc
    rw [hkind] at this
    simp only [Kind.mass, List.map_cons, List.sum_cons] at this
    omega
  · exact absurd h (by simp)

/-- Text put at the end of a row adds its weight. -/
theorem mass_appendText (parent : Nat) (piece : List Char) :
    (a.appendText parent piece).mass = a.mass + weight piece := by
  unfold appendText
  -- A text that ends the row takes the piece in; otherwise a node is made for it.
  split
  · next h => exact mass_extend? h
  · dsimp only
    rw [mass_append, mass_create]
    simp [Kind.mass]

/-- Text put in front of a node adds its weight. -/
theorem mass_insertTextBefore (parent sibling : Nat) (piece : List Char) :
    (a.insertTextBefore parent sibling piece).mass = a.mass + weight piece := by
  unfold insertTextBefore
  split
  · next h => exact mass_extend? h
  · dsimp only
    rw [mass_insertBefore, mass_create]
    simp [Kind.mass]

end Arena

namespace Construction

variable {c : Construction}

/-- What text held back for a table counts. -/
def heldBack (pieces : List (Bool × List Char)) : Nat := (pieces.map fun p => weight p.2).sum

/-- What the text of a construction counts, whether it is in the tree or held back for a table. -/
def mass (c : Construction) : Nat := c.arena.mass + heldBack c.tableText

@[simp] theorem mass_start : start.mass = 0 := rfl

/-- A change that is about neither the tree nor the text of a table. -/
@[simp] theorem mass_mk (arena : Arena) (mode returnMode : Mode) (templateModes : List Mode)
    (stack : List OpenElement) (formatting : List Formatting)
    (tableText : List (Bool × List Char)) (head form : Option Nat)
    (oldLayout framesetOk skipNewline fostering : Bool) (content : Option Content) :
    mass ⟨arena, mode, returnMode, templateModes, stack, formatting, tableText, head, form,
      oldLayout, framesetOk, skipNewline, fostering, content⟩ = arena.mass + heldBack tableText :=
  rfl

/-- The two parts of what counts, put together again after a change to one of them. -/
@[simp] theorem mass_arena_add (c : Construction) : c.arena.mass + heldBack c.tableText = c.mass :=
  rfl

@[simp] theorem heldBack_nil : heldBack [] = 0 := rfl

@[simp] theorem heldBack_cons (p : Bool × List Char) (ps : List (Bool × List Char)) :
    heldBack (p :: ps) = weight p.2 + heldBack ps := by
  simp [heldBack]

@[simp] theorem mass_ite (p : Prop) [Decidable p] (c d : Construction) :
    (if p then c else d).mass = if p then c.mass else d.mass :=
  apply_ite mass p c d

/-! ### Open elements -/

/-- The stack of open elements holds no text: nothing that takes elements off it loses any. -/
@[simp] theorem mass_pop (c : Construction) : c.pop.mass = c.mass := rfl

@[simp] theorem mass_removeFromStack (c : Construction) (id : Nat) :
    (c.removeFromStack id).mass = c.mass :=
  rfl

@[simp] theorem mass_popWhile (c : Construction) (p : ElementName → Bool) :
    (c.popWhile p).mass = c.mass :=
  rfl

@[simp] theorem mass_popThrough (c : Construction) (p : Tag → Bool) :
    (c.popThrough p).mass = c.mass :=
  rfl

@[simp] theorem mass_closeImplied (c : Construction) : c.closeImplied.mass = c.mass := rfl

@[simp] theorem mass_closeImpliedExcept (c : Construction) (tag : Tag) :
    (c.closeImpliedExcept tag).mass = c.mass :=
  rfl

@[simp] theorem mass_popTo (c : Construction) (p : Tag → Bool) : (c.popTo p).mass = c.mass := rfl

@[simp] theorem mass_closeParagraph (c : Construction) : c.closeParagraph.mass = c.mass := rfl

@[simp] theorem mass_closeParagraphInScope (c : Construction) :
    c.closeParagraphInScope.mass = c.mass := by
  unfold closeParagraphInScope
  split <;> rfl

/-! ### Placing nodes -/

/-- A node that is put in its place counts as it did before. -/
@[simp] theorem mass_insertAt (c : Construction) (place : Place) (id : Nat) :
    (c.insertAt place id).mass = c.mass := by
  unfold insertAt
  split
  · simp
  · split <;> simp

/-- Text adds its weight, wherever its place is. -/
@[simp] theorem mass_insertText (c : Construction) (piece : List Char) :
    (c.insertText piece).mass = c.mass + weight piece := by
  have hadd : ∀ a : Arena, a.mass = c.arena.mass + weight piece →
      mass { c with arena := a } = c.mass + weight piece := by
    intro a ha
    rw [mass_mk, ha, Nat.add_right_comm, mass_arena_add]
  -- The place decides which arena comes out, but each of them has gained the same.
  unfold insertText
  split
  · exact hadd _ (Arena.mass_appendText _ _)
  · split
    · exact hadd _ (Arena.mass_insertTextBefore _ _ _)
    · exact hadd _ (Arena.mass_appendText _ _)

/-- A node without text put in. -/
theorem mass_create (c : Construction) {kind : Kind} (h : kind.mass = 0) :
    mass { c with arena := (c.arena.create kind).1 } = c.mass := by
  rw [mass_mk, Arena.mass_create, h, Nat.add_zero, mass_arena_add]

@[simp] theorem mass_commentIn (c : Construction) (parent : Nat) :
    (c.commentIn parent).mass = c.mass := by
  simp [commentIn, Arena.mass_create, Kind.mass]

@[simp] theorem mass_insertComment (c : Construction) : c.insertComment.mass = c.mass := by
  rw [insertComment, mass_insertAt, mass_create c rfl]

/-- A new element has no text yet. -/
@[simp] theorem mass_insertElement (c : Construction) (name : ElementName) :
    (c.insertElement name).1.mass = c.mass := by
  rw [insertElement, mass_insertAt, mass_create c rfl]

@[simp] theorem mass_openElement (c : Construction) (name : ElementName) :
    (c.openElement name).1.mass = c.mass := by
  rw [openElement, mass_mk, mass_arena_add, mass_insertElement]

@[simp] theorem mass_openHtml (c : Construction) (tag : Tag) : (c.openHtml tag).mass = c.mass :=
  mass_openElement c (.html tag)

@[simp] theorem mass_insertVoid (c : Construction) (tag : Tag) : (c.insertVoid tag).mass = c.mass :=
  mass_insertElement c (.html tag)

@[simp] theorem mass_openRaw (c : Construction) (tag : Tag) (content : Content) :
    (c.openRaw tag content).mass = c.mass :=
  mass_openHtml c tag

@[simp] theorem mass_resetMode (c : Construction) : c.resetMode.mass = c.mass := rfl

end Construction

end PageHarvest.Html
