/-!
# Text with gaps

Bytes need not spell a text, and neither do escapes of half a surrogate pair.  A `Symbol` is a
character, or a gap where there is none.  `text?` gives the text without gaps, `lossy` fills the gaps
with the replacement character.
-/

namespace PageHarvest.Text

/-- A character, or nothing where a text is broken. -/
abbrev Symbol := Option Char

namespace Symbol

/-- A text as symbols. -/
def ofText (s : List Char) : List Symbol := s.map some

/-- The text, if it has no gap. -/
def text? : List Symbol → Option (List Char)
  | [] => some []
  | some c :: ss => (text? ss).map (c :: ·)
  | none :: _ => none

/-- The text with the replacement character in its gaps. -/
def lossy (ss : List Symbol) : List Char := ss.map (·.getD '\uFFFD')

@[simp] theorem ofText_nil : ofText [] = [] := rfl

@[simp] theorem ofText_cons (c : Char) (s : List Char) : ofText (c :: s) = some c :: ofText s := rfl

@[simp] theorem ofText_append (s t : List Char) : ofText (s ++ t) = ofText s ++ ofText t := by
  simp [ofText]

@[simp] theorem text?_ofText (s : List Char) : text? (ofText s) = some s := by
  induction s with
  | nil => rfl
  | cons c s ih => simp [text?, ih]

end Symbol

end PageHarvest.Text
