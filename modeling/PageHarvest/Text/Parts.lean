/-!
# Parts of a text

`cut` divides a text in two where a character of a kind first stands, `split` into all the parts
between such characters.
-/

namespace PageHarvest.Text

/-- The parts with `c` put in front of the first of them. -/
def attach (c : Char) : List (List Char) → List (List Char)
  | [] => [[c]]
  | w :: ws => (c :: w) :: ws

/-- A text cut where it begins to satisfy `p`. -/
def cut (p : Char → Bool) (s : List Char) : List Char × List Char :=
  (s.takeWhile (!p ·), s.dropWhile (!p ·))

/-- The parts of a text between the characters that satisfy `p`. -/
def split (p : Char → Bool) : List Char → List (List Char)
  | [] => [[]]
  | c :: s => if p c then [] :: split p s else attach c (split p s)

end PageHarvest.Text
