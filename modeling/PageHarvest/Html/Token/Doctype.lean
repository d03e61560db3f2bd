import PageHarvest.Html.Token.Tags

/-!
# The declaration of the document type

`scanDoctype` reads the declaration and keeps of it the one thing that the construction of a
document depends on: whether the page asks for the layout of old pages (`Doctype.oldLayout`).
-/

namespace PageHarvest.Html

/-- What a declaration of the document type says. -/
structure Doctype where
  name : List Char
  publicId : Option (List Char)
  systemId : Option (List Char)
  /-- The declaration is damaged. -/
  damaged : Bool

namespace Doctype

/-- Public identifiers of old pages, in lower case. -/
def oldPublicIds : List String :=
  ["-//w3o//dtd w3 html strict 3.0//en//", "-/w3c/dtd html 4.0 transitional/en", "html"]

/-- How the public identifiers of old pages begin, in lower case. -/
def oldPublicPrefixes : List String :=
  ["-//advasoft ltd//dtd html 3.0 aswedit + extensions//",
   "-//as//dtd html 3.0 aswedit + extensions//", "-//ietf//dtd html 2.0 level 1//",
   "-//ietf//dtd html 2.0 level 2//", "-//ietf//dtd html 2.0 strict level 1//",
   "-//ietf//dtd html 2.0 strict level 2//", "-//ietf//dtd html 2.0 strict//",
   "-//ietf//dtd html 2.0//", "-//ietf//dtd html 2.1e//", "-//ietf//dtd html 3.0//",
   "-//ietf//dtd html 3.2 final//", "-//ietf//dtd html 3.2//", "-//ietf//dtd html 3//",
   "-//ietf//dtd html level 0//", "-//ietf//dtd html level 1//", "-//ietf//dtd html level 2//",
   "-//ietf//dtd html level 3//", "-//ietf//dtd html strict level 0//",
   "-//ietf//dtd html strict level 1//", "-//ietf//dtd html strict level 2//",
   "-//ietf//dtd html strict level 3//", "-//ietf//dtd html strict//", "-//ietf//dtd html//",
   "-//metrius//dtd metrius presentational//", "-//microsoft//dtd internet explorer 2.0 html strict//",
   "-//microsoft//dtd internet explorer 2.0 html//", "-//microsoft//dtd internet explorer 2.0 tables//",
   "-//microsoft//dtd internet explorer 3.0 html strict//",
   "-//microsoft//dtd internet explorer 3.0 html//", "-//microsoft//dtd internet explorer 3.0 tables//",
   "-//netscape comm. corp.//dtd html//", "-//netscape comm. corp.//dtd strict html//",
   "-//o'reilly and associates//dtd html 2.0//", "-//o'reilly and associates//dtd html extended 1.0//",
   "-//o'reilly and associates//dtd html extended relaxed 1.0//",
   "-//softquad software//dtd hotmetal pro 6.0::19990601::extensions to html 4.0//",
   "-//softquad//dtd hotmetal pro 4.0::19971010::extensions to html 4.0//",
   "-//spyglass//dtd html 2.0 extended//", "-//sq//dtd html 2.0 hotmetal + extensions//",
   "-//sun microsystems corp.//dtd hotjava html//", "-//sun microsystems corp.//dtd hotjava strict html//",
   "-//w3c//dtd html 3 1995-03-24//", "-//w3c//dtd html 3.2 draft//", "-//w3c//dtd html 3.2 final//",
   "-//w3c//dtd html 3.2//", "-//w3c//dtd html 3.2s draft//", "-//w3c//dtd html 4.0 frameset//",
   "-//w3c//dtd html 4.0 transitional//", "-//w3c//dtd html experimental 19960712//",
   "-//w3c//dtd html experimental 970421//", "-//w3c//dtd w3 html//", "-//w3o//dtd w3 html 3.0//",
   "-//webtechs//dtd mozilla html 2.0//", "-//webtechs//dtd mozilla html//"]

/-- How the public identifiers begin that belong to old pages when no system identifier follows. -/
def bareOldPublicPrefixes : List String :=
  ["-//w3c//dtd html 4.01 frameset//", "-//w3c//dtd html 4.01 transitional//"]

/-- The system identifier of an old page. -/
def oldSystemId : String := "http://www.ibm.com/data/dtd/v11/ibmxhtml1-transitional.dtd"

/-- The page asks for the layout of old pages. -/
def oldLayout (d : Doctype) : Bool :=
  let publicId := d.publicId.map (·.map Char.toLower)
  let begins (p : String) : Bool := publicId.any (p.toList.isPrefixOf ·)
  d.damaged || d.name != "html".toList ||
    oldPublicIds.any (fun i => publicId == some i.toList) ||
    oldPublicPrefixes.any begins ||
    (d.systemId.isNone && bareOldPublicPrefixes.any begins) ||
    d.systemId.any (fun i => i.map Char.toLower == oldSystemId.toList)

end Doctype

/-- The text after the first closing bracket. -/
def afterBracket (s : List Char) : List Char :=
  (s.dropWhile (· != '>')).drop 1

/-- The text begins with the word, in any letter case; the word is in lower case. -/
def startsWithWord (word : String) (s : List Char) : Bool :=
  word.toList.isPrefixOf (s.map Char.toLower)

/-- A quoted identifier at the front of the text: its characters, whether its closing quote is
there, and the text after it.  An identifier cannot hold a closing bracket. -/
def scanIdentifier (quote : Char) (s : List Char) : List Char × Bool × List Char :=
  let id := s.takeWhile fun c => c != quote && c != '>'
  let after := s.dropWhile fun c => c != quote && c != '>'
  (id.map valueChar, after.head? == some quote, after.drop 1)

/-- The declaration from its system identifier on. -/
def scanSystemId (d : Doctype) (quote : Char) (s : List Char) : Doctype × List Char :=
  let (id, closed, after) := scanIdentifier quote s
  let d := { d with systemId := some id }
  if closed then
    match after.dropWhile isSpace with
    | '>' :: r => (d, r)
    | r => (d, afterBracket r)
  else ({ d with damaged := true }, after)

/-- The declaration after its public identifier. -/
def scanAfterPublicId (d : Doctype) (s : List Char) : Doctype × List Char :=
  match s.dropWhile isSpace with
  | '>' :: r => (d, r)
  | '"' :: r => scanSystemId d '"' r
  | '\'' :: r => scanSystemId d '\'' r
  | r => ({ d with damaged := true }, afterBracket r)

/-- The declaration from its public identifier on. -/
def scanPublicId (d : Doctype) (quote : Char) (s : List Char) : Doctype × List Char :=
  let (id, closed, after) := scanIdentifier quote s
  let d := { d with publicId := some id }
  if closed then scanAfterPublicId d after else ({ d with damaged := true }, after)

/-- The declaration after one of its keywords; `scan` reads on from the opening quote. -/
def scanAfterKeyword (d : Doctype) (scan : Doctype → Char → List Char → Doctype × List Char)
    (s : List Char) : Doctype × List Char :=
  match s.dropWhile isSpace with
  | '"' :: r => scan d '"' r
  | '\'' :: r => scan d '\'' r
  | r => ({ d with damaged := true }, afterBracket r)

/-- The declaration after its name. -/
def scanAfterName (d : Doctype) (s : List Char) : Doctype × List Char :=
  match s.dropWhile isSpace with
  | '>' :: r => (d, r)
  | r =>
    if startsWithWord "public" r then scanAfterKeyword d scanPublicId (r.drop 6)
    else if startsWithWord "system" r then scanAfterKeyword d scanSystemId (r.drop 6)
    else ({ d with damaged := true }, afterBracket r)

/-- The declaration whose keyword the text follows, and the text after the declaration. -/
def scanDoctype (s : List Char) : Doctype × List Char :=
  match s.dropWhile isSpace with
  | '>' :: r => (⟨[], none, none, true⟩, r)
  | r =>
    let ends (c : Char) : Bool := isSpace c || c == '>'
    scanAfterName ⟨(r.takeWhile (!ends ·)).map nameChar, none, none, false⟩ (r.dropWhile (!ends ·))

/-! ### What is left is no longer -/

theorem length_afterBracket_le (s : List Char) : (afterBracket s).length ≤ s.length := by
  have := Text.length_dropWhile_le (· != '>') s
  simp only [afterBracket, List.length_drop]; omega

theorem length_scanIdentifier_le (quote : Char) (s : List Char) :
    (scanIdentifier quote s).2.2.length ≤ s.length := by
  have := Text.length_dropWhile_le (fun c => c != quote && c != '>') s
  simp only [scanIdentifier, List.length_drop]; omega

/-- After skipping white space and one character. -/
theorem length_lt_of_dropWhile_eq_cons {p : Char → Bool} {c : Char} {s r : List Char}
    (h : s.dropWhile p = c :: r) : r.length < s.length := by
  have := Text.length_dropWhile_le p s
  rw [h, List.length_cons] at this; omega

theorem length_scanSystemId_le (d : Doctype) (quote : Char) (s : List Char) :
    (scanSystemId d quote s).2.length ≤ s.length := by
  have hi := length_scanIdentifier_le quote s
  unfold scanSystemId
  dsimp only
  split
  · split
    · next h => exact Nat.le_trans (Nat.le_of_lt (length_lt_of_dropWhile_eq_cons h)) hi
    · exact Nat.le_trans (length_afterBracket_le _)
        (Nat.le_trans (Text.length_dropWhile_le _ _) hi)
  · exact hi

theorem length_scanAfterPublicId_le (d : Doctype) (s : List Char) :
    (scanAfterPublicId d s).2.length ≤ s.length := by
  unfold scanAfterPublicId
  split
  · next h => exact Nat.le_of_lt (length_lt_of_dropWhile_eq_cons h)
  · next r h =>
    exact Nat.le_trans (length_scanSystemId_le d _ r) (Nat.le_of_lt (length_lt_of_dropWhile_eq_cons h))
  · next r h =>
    exact Nat.le_trans (length_scanSystemId_le d _ r) (Nat.le_of_lt (length_lt_of_dropWhile_eq_cons h))
  · exact Nat.le_trans (length_afterBracket_le _) (Text.length_dropWhile_le _ _)

theorem length_scanPublicId_le (d : Doctype) (quote : Char) (s : List Char) :
    (scanPublicId d quote s).2.length ≤ s.length := by
  have hi := length_scanIdentifier_le quote s
  unfold scanPublicId
  dsimp only
  split
  · exact Nat.le_trans (length_scanAfterPublicId_le _ _) hi
  · exact hi

theorem length_scanAfterKeyword_le (d : Doctype)
    (scan : Doctype → Char → List Char → Doctype × List Char)
    (hscan : ∀ d q s, (scan d q s).2.length ≤ s.length) (s : List Char) :
    (scanAfterKeyword d scan s).2.length ≤ s.length := by
  unfold scanAfterKeyword
  split
  · next r h =>
    exact Nat.le_trans (hscan d _ r) (Nat.le_of_lt (length_lt_of_dropWhile_eq_cons h))
  · next r h =>
    exact Nat.le_trans (hscan d _ r) (Nat.le_of_lt (length_lt_of_dropWhile_eq_cons h))
  · exact Nat.le_trans (length_afterBracket_le _) (Text.length_dropWhile_le _ _)

theorem length_scanAfterName_le (d : Doctype) (s : List Char) :
    (scanAfterName d s).2.length ≤ s.length := by
  have hd := Text.length_dropWhile_le isSpace s
  unfold scanAfterName
  split
  · next h => exact Nat.le_of_lt (length_lt_of_dropWhile_eq_cons h)
  · split
    · have := length_scanAfterKeyword_le d _ length_scanPublicId_le
        ((s.dropWhile isSpace).drop 6)
      rw [List.length_drop] at this; omega
    · split
      · have := length_scanAfterKeyword_le d _ length_scanSystemId_le
          ((s.dropWhile isSpace).drop 6)
        rw [List.length_drop] at this; omega
      · exact Nat.le_trans (length_afterBracket_le _) hd

theorem length_scanDoctype_le (s : List Char) : (scanDoctype s).2.length ≤ s.length := by
  have hd := Text.length_dropWhile_le isSpace s
  unfold scanDoctype
  split
  · next h => exact Nat.le_of_lt (length_lt_of_dropWhile_eq_cons h)
  · dsimp only
    exact Nat.le_trans (length_scanAfterName_le _ _)
      (Nat.le_trans (Text.length_dropWhile_le _ _) hd)

end PageHarvest.Html
