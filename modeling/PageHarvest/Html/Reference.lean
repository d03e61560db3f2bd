import PageHarvest.Text.Blank
import PageHarvest.Text.Hex
import PageHarvest.Html.Reference.Names

/-!
# Character references

`decode` reads what follows an ampersand: a name from the table, of which the longest one counts,
or a number in decimal or hexadecimal digits.  What is no reference stands for the ampersand
itself.  `length_rest_decode_le` says that reading never goes backwards.
-/

namespace PageHarvest.Html.Reference

/-- Where a reference stands.  In an attribute a name without its semicolon does not count when a
letter, a digit or an equals sign follows. -/
inductive Place
  | text | attribute
  deriving DecidableEq

/-- What an ampersand and the text after it stand for. -/
structure Decoded where
  chars : List Char
  /-- The reference ends with a semicolon. -/
  closed : Bool
  rest : List Char

/-- The ampersand stands for itself. -/
def bare (s : List Char) : Decoded := ⟨['&'], false, s⟩

/-! ### Numbers -/

/-- The characters that the code points 0x80 to 0x9F stand for, from their use in an older
encoding; the others of the range stand for themselves. -/
def legacy : List (Nat × Nat) :=
  [(0x80, 0x20AC), (0x82, 0x201A), (0x83, 0x192), (0x84, 0x201E), (0x85, 0x2026), (0x86, 0x2020),
   (0x87, 0x2021), (0x88, 0x2C6), (0x89, 0x2030), (0x8A, 0x160), (0x8B, 0x2039), (0x8C, 0x152),
   (0x8E, 0x17D), (0x91, 0x2018), (0x92, 0x2019), (0x93, 0x201C), (0x94, 0x201D), (0x95, 0x2022),
   (0x96, 0x2013), (0x97, 0x2014), (0x98, 0x2DC), (0x99, 0x2122), (0x9A, 0x161), (0x9B, 0x203A),
   (0x9C, 0x153), (0x9E, 0x17E), (0x9F, 0x178)]

/-- The character with this number; zero, surrogates and numbers beyond the last code point give
the replacement character. -/
def ofNumber (n : Nat) : Char :=
  if n = 0 then '\uFFFD'
  else match legacy.lookup n with
    | some m => Char.ofNat m
    | none => if h : n.isValidChar then Char.ofNatAux n h else '\uFFFD'

/-- The text without the semicolon at its front, if there is one. -/
def dropSemicolon : List Char → List Char
  | ';' :: s => s
  | s => s

/-- The number at the front of `digits`, in the given base, as a reference; `s` is all that
follows the ampersand. -/
def decodeDigits (base : Nat) (isDigit : Char → Bool) (digits s : List Char) : Decoded :=
  match digits.takeWhile isDigit with
  | [] => bare s
  | ds =>
    let n := ds.foldl (fun n c => n * base + ((Text.Hex.value? c).map Fin.val).getD 0) 0
    let rest := digits.dropWhile isDigit
    ⟨[ofNumber n], rest.head? == some ';', dropSemicolon rest⟩

/-- A reference by number; `s` is all that follows the ampersand and `r` what follows its `#`. -/
def decodeNumber (r s : List Char) : Decoded :=
  match r with
  | 'x' :: ds => decodeDigits 16 Text.Hex.isDigit ds s
  | 'X' :: ds => decodeDigits 16 Text.Hex.isDigit ds s
  | ds => decodeDigits 10 Char.isDigit ds s

/-! ### Names -/

/-- The longest name of the table that stands at the front of the text. -/
def longestName (s : List Char) : Option Name :=
  match s with
  | [] => none
  | c :: _ =>
    (startingWith c).foldl (fun best n =>
      if n.spelling.toList.isPrefixOf s && best.all (·.spelling.length < n.spelling.length)
      then some n else best) none

/-- A reference by name. -/
def decodeName (place : Place) (s : List Char) : Decoded :=
  match longestName s with
  | none => bare s
  | some n =>
    let rest := s.drop n.spelling.length
    let closed := n.spelling.toList.getLast? == some ';'
    let runsOn := rest.head?.any fun c => c == '=' || c.isAlphanum
    if place == .attribute && !closed && runsOn then bare s
    else ⟨n.codes.map Char.ofNat, closed, rest⟩

/-- What the ampersand in front of `s` stands for. -/
def decode (place : Place) (s : List Char) : Decoded :=
  match s with
  | '#' :: r => decodeNumber r s
  | _ => decodeName place s

theorem length_dropSemicolon_le (s : List Char) : (dropSemicolon s).length ≤ s.length := by
  unfold dropSemicolon; split <;> simp

theorem length_rest_decodeDigits_le (base : Nat) (p : Char → Bool) (ds s : List Char)
    (h : ds.length ≤ s.length) : (decodeDigits base p ds s).rest.length ≤ s.length := by
  unfold decodeDigits
  split
  · exact Nat.le_refl _
  · exact Nat.le_trans (length_dropSemicolon_le _) (Nat.le_trans (Text.length_dropWhile_le _ _) h)

theorem length_rest_decode_le (place : Place) (s : List Char) :
    (decode place s).rest.length ≤ s.length := by
  unfold decode
  split
  · unfold decodeNumber
    split <;> apply length_rest_decodeDigits_le <;> simp <;> omega
  · unfold decodeName
    split
    · exact Nat.le_refl _
    · dsimp only
      split
      · exact Nat.le_refl _
      · simp

/-- The text of an attribute with its references replaced by what they stand for. -/
def expand : List Char → List Char
  | [] => []
  | c :: s =>
    if c = '&' then
      let d := decode .attribute s
      d.chars ++ expand d.rest
    else c :: expand s
termination_by s => s.length
decreasing_by
  · have := length_rest_decode_le .attribute s
    simp only [List.length_cons]; omega
  · simp

end PageHarvest.Html.Reference
