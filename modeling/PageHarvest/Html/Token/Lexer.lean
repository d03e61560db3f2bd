import PageHarvest.Html.Token.Doctype

/-!
# Cutting markup into tokens

`lex` takes the next piece of markup: a tag, a comment, a declaration, a character reference, or a
stretch of running text.  How markup is read depends on the element it is in (`Content`) and on
whether that element is foreign to HTML.  `length_rest_lex_le` says that each piece has at least
one character, which is why reading a document ends.
-/

namespace PageHarvest.Html

/-- Where the contents of a script stand with respect to comments in it: `commented` after the
start of a comment, `nested` after a start tag of a script in that comment.  The number counts the
dashes just read, up to two. -/
inductive ScriptPart
  | plain
  | commented (dashes : Nat)
  | nested (dashes : Nat)
  deriving DecidableEq, Repr

/-- How markup is read. -/
inductive Content
  | data
  /-- Text with character references, up to the end tag. -/
  | rcdata (tag : Tag)
  /-- Text up to the end tag. -/
  | rawText (tag : Tag)
  | script (part : ScriptPart)
  /-- Text up to the end of the markup. -/
  | plainText
  deriving DecidableEq, Repr

/-- A piece of markup: its tokens, how to read on, and the markup after it. -/
structure Lexed where
  tokens : List Token
  content : Content
  rest : List Char

/-! ### Byte order marks -/

/-- The text without a byte order mark at its front. -/
def dropMark : List Char → List Char
  | '\uFEFF' :: s => s
  | s => s

/-- The piece of a script; a byte order mark right after the end tag does not count. -/
def Lexed.pastMark (l : Lexed) : Lexed :=
  if l.content = .data then { l with rest := dropMark l.rest } else l

theorem length_dropMark_le (s : List Char) : (dropMark s).length ≤ s.length := by
  unfold dropMark
  split
  · exact Nat.le_succ _
  · exact Nat.le_refl _

theorem length_rest_pastMark_le (l : Lexed) : l.pastMark.rest.length ≤ l.rest.length := by
  unfold Lexed.pastMark
  split
  · exact length_dropMark_le _
  · exact Nat.le_refl _

/-! ### Comments and sections -/

/-- The text after the end of the comment that it is inside of. -/
def afterCommentText : List Char → List Char
  | '-' :: '-' :: '>' :: s => s
  | '-' :: '-' :: '!' :: '>' :: s => s
  | _ :: s => afterCommentText s
  | [] => []

/-- The text after the comment that has just begun. -/
def afterComment : List Char → List Char
  -- `<!-->` and `<!--->` are whole comments.
  | '>' :: s => s
  | '-' :: '>' :: s => s
  | s => afterCommentText s

/-- The characters of a section of character data, and the text after it. -/
def scanSection : List Char → List Char × List Char
  | ']' :: ']' :: '>' :: s => ([], s)
  | c :: s => let (cs, r) := scanSection s; (c :: cs, r)
  | [] => ([], [])

theorem length_afterCommentText_le (s : List Char) : (afterCommentText s).length ≤ s.length := by
  fun_induction afterCommentText s <;> simp_all <;> omega

theorem length_afterComment_le (s : List Char) : (afterComment s).length ≤ s.length := by
  unfold afterComment
  split
  · simp
  · simp; omega
  · exact length_afterCommentText_le s

theorem length_scanSection_le (s : List Char) : (scanSection s).2.length ≤ s.length := by
  fun_induction scanSection s <;> simp_all <;> omega

/-! ### Markup in running text -/

/-- The piece after `<!`. -/
def lexDeclaration (foreign : Bool) (s : List Char) : Lexed :=
  match s with
  | '-' :: '-' :: r => ⟨[.comment], .data, afterComment r⟩
  | _ =>
    if startsWithWord "doctype" s then
      let (d, r) := scanDoctype (s.drop 7)
      ⟨[.doctype d.oldLayout], .data, r⟩
    -- A section is one in a foreign element only; in HTML it is a comment like the rest.
    else if foreign && "[CDATA[".toList.isPrefixOf s then
      let (cs, r) := scanSection (s.drop 7)
      ⟨Token.ofChars cs, .data, r⟩
    else ⟨[.comment], .data, afterBracket s⟩

/-- The piece after `<`; a tag that the markup ends inside takes the rest with it. -/
def lexTag (foreign : Bool) (s : List Char) : Lexed :=
  match s with
  | [] => ⟨[.text ['<']], .data, []⟩
  | '!' :: r => lexDeclaration foreign r
  | '?' :: r => ⟨[.comment], .data, afterBracket r⟩
  | '/' :: [] => ⟨[.text ['<', '/']], .data, []⟩
  -- An end tag without a name stands for nothing.
  | '/' :: '>' :: r => ⟨[.malformed], .data, r⟩
  | '/' :: c :: r =>
    if c.isAlpha then
      match scanTag (c :: r) with
      | some (t, rest) => ⟨[.endTag t.tag], .data, rest⟩
      | none => ⟨[], .data, []⟩
    else ⟨[.comment], .data, afterBracket (c :: r)⟩
  | c :: r =>
    if c.isAlpha then
      match scanTag (c :: r) with
      | some (t, rest) => ⟨[.startTag t], .data, rest⟩
      | none => ⟨[], .data, []⟩
    else ⟨[.text ['<']], .data, s⟩

/-- The piece after `&`. -/
def lexReference (content : Content) (s : List Char) : Lexed :=
  let d := Reference.decode .text s
  let tokens := Token.ofChars d.chars
  -- An error is a token of its own: a newline that comes next then counts again.
  ⟨if d.closed then tokens else .malformed :: tokens, content, d.rest⟩

/-! ### Text up to an end tag -/

/-- The text after `<` is an end tag with this name; what follows the tag is given. -/
def scanEndTag (tag : Tag) (s : List Char) : Option (List Char) :=
  match s with
  | '/' :: r =>
    let name := r.takeWhile Char.isAlpha
    if (r.dropWhile Char.isAlpha).head?.any endsTagName && Tag.ofName (name.map Char.toLower) == tag
    then some (match scanTag r with
      | some (_, rest) => rest
      -- The markup ends inside of the tag.
      | none => [])
    else none
  | _ => none

/-- The piece after `<` in text that ends with the end tag. -/
def lexRaw (content : Content) (tag : Tag) (s : List Char) : Lexed :=
  match scanEndTag tag s with
  | some rest => ⟨[.endTag tag], .data, rest⟩
  | none => ⟨[.text ['<']], content, s⟩

/-! ### Scripts -/

/-- A word at the front of the text, up to and with the character that would end the name of a
tag: whether it is `script`, its characters, and the text after it.  Without such a character at
its end it is no word. -/
def scanScriptWord (s : List Char) : Bool × List Char × List Char :=
  let word := s.takeWhile Char.isAlpha
  match s.dropWhile Char.isAlpha with
  | c :: r =>
    if endsTagName c then (word.map Char.toLower == "script".toList, word ++ [c], r)
    else (false, word, c :: r)
  | [] => (false, word, [])

/-- The piece of a script that begins with `c`. -/
def lexScript (part : ScriptPart) (c : Char) (s : List Char) : Lexed :=
  match part with
  | .plain =>
    if c = '<' then
      if "!--".toList.isPrefixOf s then
        -- These dashes may be the ones at the end of the comment, as in `<!-->`.
        ⟨Token.ofChars ['<', '!', '-', '-'], .script (.commented 2), s.drop 3⟩
      else (lexRaw (.script .plain) .script s).pastMark
    else
      ⟨Token.ofChars ((c :: s.takeWhile (· != '<')).map valueChar), .script .plain,
        s.dropWhile (· != '<')⟩
  | .commented dashes =>
    let text : Lexed := ⟨Token.ofChars [valueChar c], .script (.commented 0), s⟩
    if c = '-' then { text with content := .script (.commented (min 2 (dashes + 1))) }
    else if c = '>' && dashes == 2 then { text with content := .script .plain }
    else if c = '<' then
      if s.head?.any Char.isAlpha then
        let (isScript, word, r) := scanScriptWord s
        ⟨Token.ofChars (c :: word), .script (if isScript then .nested 0 else .commented 0), r⟩
      else (lexRaw (.script (.commented 0)) .script s).pastMark
    else text
  | .nested dashes =>
    let text : Lexed := ⟨Token.ofChars [valueChar c], .script (.nested 0), s⟩
    if c = '-' then { text with content := .script (.nested (min 2 (dashes + 1))) }
    else if c = '>' && dashes == 2 then { text with content := .script .plain }
    else if c = '<' && s.head? == some '/' then
      let (isScript, word, r) := scanScriptWord (s.drop 1)
      ⟨Token.ofChars (c :: '/' :: word), .script (if isScript then .commented 0 else .nested 0), r⟩
    else text

/-- The piece of markup that begins with `c`. -/
def lex (content : Content) (foreign : Bool) (c : Char) (s : List Char) : Lexed :=
  match content with
  | .data =>
    if c = '<' then lexTag foreign s
    else if c = '&' then lexReference .data s
    else
      let p (d : Char) : Bool := d != '<' && d != '&'
      ⟨Token.ofChars (c :: s.takeWhile p), .data, s.dropWhile p⟩
  | .rcdata tag =>
    if c = '<' then lexRaw content tag s
    else if c = '&' then lexReference content s
    else
      let p (d : Char) : Bool := d != '<' && d != '&'
      ⟨Token.ofChars ((c :: s.takeWhile p).map valueChar), content, s.dropWhile p⟩
  | .rawText tag =>
    if c = '<' then lexRaw content tag s
    else
      ⟨Token.ofChars ((c :: s.takeWhile (· != '<')).map valueChar), content,
        s.dropWhile (· != '<')⟩
  | .script part => lexScript part c s
  | .plainText => ⟨Token.ofChars ((c :: s).map valueChar), .plainText, []⟩

/-! ### Each piece takes at least one character -/

theorem length_rest_lexDeclaration_le (foreign : Bool) (s : List Char) :
    (lexDeclaration foreign s).rest.length ≤ s.length := by
  unfold lexDeclaration
  split
  · next r => have := length_afterComment_le r; simp only [List.length_cons]; omega
  · split
    · have := length_scanDoctype_le (s.drop 7)
      rw [List.length_drop] at this
      dsimp only; omega
    · split
      · have := length_scanSection_le (s.drop 7)
        rw [List.length_drop] at this
        dsimp only; omega
      · exact length_afterBracket_le s

theorem length_rest_lexTag_le (foreign : Bool) (s : List Char) :
    (lexTag foreign s).rest.length ≤ s.length := by
  unfold lexTag
  split
  · simp
  · next r => have := length_rest_lexDeclaration_le foreign r; simp only [List.length_cons]; omega
  · next r => have := length_afterBracket_le r; simp only [List.length_cons]; omega
  · simp
  · simp; omega
  · next c r _ =>
    split
    · split
      · next h => have := length_rest_scanTag_lt h; simp only [List.length_cons] at *; omega
      · simp
    · have := length_afterBracket_le (c :: r); simp only [List.length_cons] at *; omega
  · next c r _ _ _ _ _ =>
    split
    · split
      · next h => have := length_rest_scanTag_lt h; simp only [List.length_cons] at *; omega
      · simp
    · exact Nat.le_refl _

theorem length_le_of_scanEndTag {tag : Tag} {s rest : List Char}
    (h : scanEndTag tag s = some rest) : rest.length ≤ s.length := by
  unfold scanEndTag at h
  split at h
  · next r =>
    dsimp only at h
    split at h
    · rw [Option.some.injEq] at h
      subst h
      split
      · next h => have := length_rest_scanTag_lt h; simp only [List.length_cons]; omega
      · simp
    · exact absurd h (by simp)
  · exact absurd h (by simp)

theorem length_rest_lexRaw_le (content : Content) (tag : Tag) (s : List Char) :
    (lexRaw content tag s).rest.length ≤ s.length := by
  unfold lexRaw
  split
  · next h => exact length_le_of_scanEndTag h
  · exact Nat.le_refl _

theorem length_scanScriptWord_le (s : List Char) : (scanScriptWord s).2.2.length ≤ s.length := by
  unfold scanScriptWord
  dsimp only
  split
  · next c r h =>
    have := length_lt_of_dropWhile_eq_cons h
    split <;> simp <;> omega
  · simp

theorem length_rest_lexScript_le (part : ScriptPart) (c : Char) (s : List Char) :
    (lexScript part c s).rest.length ≤ s.length := by
  have hw := length_scanScriptWord_le s
  have hw' := length_scanScriptWord_le (s.drop 1)
  rw [List.length_drop] at hw'
  unfold lexScript
  split
  · split
    · split
      · simp
      · exact Nat.le_trans (length_rest_pastMark_le _) (length_rest_lexRaw_le _ _ _)
    · exact Text.length_dropWhile_le _ _
  · dsimp only
    split
    · exact Nat.le_refl _
    · split
      · exact Nat.le_refl _
      · split
        · split
          · exact hw
          · exact Nat.le_trans (length_rest_pastMark_le _) (length_rest_lexRaw_le _ _ _)
        · exact Nat.le_refl _
  · dsimp only
    split
    · exact Nat.le_refl _
    · split
      · exact Nat.le_refl _
      · split
        · exact Nat.le_trans hw' (Nat.sub_le _ _)
        · exact Nat.le_refl _

theorem length_rest_lex_le (content : Content) (foreign : Bool) (c : Char) (s : List Char) :
    (lex content foreign c s).rest.length ≤ s.length := by
  unfold lex
  split
  · split
    · exact length_rest_lexTag_le foreign s
    · split
      · exact Reference.length_rest_decode_le .text s
      · exact Text.length_dropWhile_le _ _
  · split
    · exact length_rest_lexRaw_le _ _ _
    · split
      · exact Reference.length_rest_decode_le .text s
      · exact Text.length_dropWhile_le _ _
  · split
    · exact length_rest_lexRaw_le _ _ _
    · exact Text.length_dropWhile_le _ _
  · exact length_rest_lexScript_le _ _ _
  · exact Nat.zero_le _

end PageHarvest.Html
