import PageHarvest.Text.Blank

/-!
# Repeated blocks

A page is read as a list of blocks of text.  `dropRepeats` keeps of each block of several words
only the first occurrence, and drops a block of one word when the last word kept before it is the
same.  Blank blocks vanish and kept blocks are trimmed.
-/

namespace PageHarvest.Page

open Text

/-- One left-to-right scan over the blocks: `seen` holds the blocks of several words met so far
and `last` the block of one word kept last. -/
def dropRepeatsFrom (collapseWords : Bool) (seen : List (List Char)) (last : Option (List Char)) :
    List (List Char) → List (List Char)
  | [] => []
  | b :: bs =>
    let block := trim b
    match words block with
    | [] => dropRepeatsFrom collapseWords seen last bs
    | [_] =>
      if collapseWords && last == some block then dropRepeatsFrom collapseWords seen last bs
      else block :: dropRepeatsFrom collapseWords seen (some block) bs
    | _ :: _ :: _ =>
      if seen.contains block then dropRepeatsFrom collapseWords seen last bs
      else block :: dropRepeatsFrom collapseWords (block :: seen) last bs

/-- The blocks without the repeated ones, in order of first occurrence.  With `collapseWords` a
one-word block goes when it echoes the last kept one-word block; without it all of them stay. -/
def dropRepeats (collapseWords : Bool) (blocks : List (List Char)) : List (List Char) :=
  dropRepeatsFrom collapseWords [] none blocks

end PageHarvest.Page
