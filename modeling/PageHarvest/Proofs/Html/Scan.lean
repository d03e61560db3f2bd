import PageHarvest.Html.Token.Lexer
import Mathlib.Data.List.TakeWhile

/-!
# What scanning leaves

A scan of a tag, of a declaration, of a comment or of a word in a script takes characters off the
front of a text and leaves the rest as it is: what is left is a suffix of the text.
-/

namespace PageHarvest.Html

variable {s r : List Char} {c : Char}

/-- What comes after the character at which skipping stopped. -/
theorem suffix_of_dropWhile_eq_cons {p : Char → Bool} (h : s.dropWhile p = c :: r) : r <:+ s :=
  (List.suffix_cons c r).trans (h ▸ List.dropWhile_suffix p)

/-! ### Tags -/

/-- The states of a tag, each of which takes one character off. -/
theorem TagScan.suffix_run {scan : TagScan} {as : List Attribute} {e : TagEnd}
    (h : run scan as s = some e) : e.rest <:+ s := by
  fun_induction run scan as s <;> grind [List.suffix_cons, List.IsSuffix.trans, List.suffix_refl]

/-- What is left behind a tag. -/
theorem suffix_of_scanTag {rest : List Char} {t : StartTag} (h : scanTag s = some (t, rest)) :
    rest <:+ s := by
  simp only [scanTag, Option.map_eq_some_iff, Prod.mk.injEq] at h
  obtain ⟨e, he, -, rfl⟩ := h
  exact (TagScan.suffix_run he).trans (List.dropWhile_suffix _)

/-! ### Declarations -/

theorem suffix_afterBracket (s : List Char) : afterBracket s <:+ s :=
  (List.drop_suffix _ _).trans (List.dropWhile_suffix _)

theorem suffix_scanIdentifier (quote : Char) (s : List Char) :
    (scanIdentifier quote s).2.2 <:+ s :=
  (List.drop_suffix _ _).trans (List.dropWhile_suffix _)

theorem suffix_scanSystemId (d : Doctype) (quote : Char) (s : List Char) :
    (scanSystemId d quote s).2 <:+ s := by
  have hi := suffix_scanIdentifier quote s
  unfold scanSystemId
  dsimp only
  -- The identifier may have no end, and then nothing is left to be looked at.
  split
  · split
    · next h => exact (suffix_of_dropWhile_eq_cons h).trans hi
    · exact ((suffix_afterBracket _).trans (List.dropWhile_suffix _)).trans hi
  · exact hi

theorem suffix_scanAfterPublicId (d : Doctype) (s : List Char) :
    (scanAfterPublicId d s).2 <:+ s := by
  unfold scanAfterPublicId
  split
  · next h => exact suffix_of_dropWhile_eq_cons h
  · next h => exact (suffix_scanSystemId d _ _).trans (suffix_of_dropWhile_eq_cons h)
  · next h => exact (suffix_scanSystemId d _ _).trans (suffix_of_dropWhile_eq_cons h)
  · exact (suffix_afterBracket _).trans (List.dropWhile_suffix _)

theorem suffix_scanPublicId (d : Doctype) (quote : Char) (s : List Char) :
    (scanPublicId d quote s).2 <:+ s := by
  have hi := suffix_scanIdentifier quote s
  unfold scanPublicId
  dsimp only
  split
  · exact (suffix_scanAfterPublicId _ _).trans hi
  · exact hi

/-- What is left behind a keyword, if this is so of the scan of the identifier after it. -/
theorem suffix_scanAfterKeyword (d : Doctype)
    (scan : Doctype → Char → List Char → Doctype × List Char)
    (hscan : ∀ d q s, (scan d q s).2 <:+ s) (s : List Char) :
    (scanAfterKeyword d scan s).2 <:+ s := by
  unfold scanAfterKeyword
  split
  · next h => exact (hscan d _ _).trans (suffix_of_dropWhile_eq_cons h)
  · next h => exact (hscan d _ _).trans (suffix_of_dropWhile_eq_cons h)
  · exact (suffix_afterBracket _).trans (List.dropWhile_suffix _)

theorem suffix_scanAfterName (d : Doctype) (s : List Char) : (scanAfterName d s).2 <:+ s := by
  have hd : s.dropWhile isSpace <:+ s := List.dropWhile_suffix _
  unfold scanAfterName
  split
  · next h => exact suffix_of_dropWhile_eq_cons h
  · split
    · exact ((suffix_scanAfterKeyword d _ suffix_scanPublicId _).trans (List.drop_suffix _ _)).trans
        hd
    · split
      · exact ((suffix_scanAfterKeyword d _ suffix_scanSystemId _).trans
          (List.drop_suffix _ _)).trans hd
      · exact (suffix_afterBracket _).trans hd

/-- What is left behind a document type, well formed or not. -/
theorem suffix_scanDoctype (s : List Char) : (scanDoctype s).2 <:+ s := by
  unfold scanDoctype
  split
  · next h => exact suffix_of_dropWhile_eq_cons h
  · exact ((suffix_scanAfterName _ _).trans (List.dropWhile_suffix _)).trans
      (List.dropWhile_suffix _)

/-! ### Comments, sections and scripts -/

theorem suffix_dropMark (s : List Char) : dropMark s <:+ s := by
  unfold dropMark
  split
  · exact List.suffix_cons _ _
  · exact List.suffix_rfl

/-- What is left behind a comment, which may also end with the text. -/
theorem suffix_afterCommentText (s : List Char) : afterCommentText s <:+ s := by
  fun_induction afterCommentText s with
  | case1 s => exact List.suffix_append ['-', '-', '>'] s
  | case2 s => exact List.suffix_append ['-', '-', '!', '>'] s
  | case3 c s _ _ ih => exact ih.trans (List.suffix_cons c s)
  | case4 => exact List.suffix_rfl

/-- Two ways of beginning a comment end it at once. -/
theorem suffix_afterComment (s : List Char) : afterComment s <:+ s := by
  unfold afterComment
  split
  · exact List.suffix_cons _ _
  · next s => exact List.suffix_append ['-', '>'] s
  · exact suffix_afterCommentText s

/-- A section of character data and the text after it stand in the text one after the other. -/
theorem sublist_scanSection (s : List Char) :
    ((scanSection s).1 ++ (scanSection s).2).Sublist s := by
  -- On the section: every character of it stays, and its end mark goes.
  fun_induction scanSection s with
  | case1 s => exact (List.suffix_append [']', ']', '>'] s).sublist
  | case2 c s _ cs r h ih =>
    rw [h] at ih
    exact ih.cons_cons c
  | case3 => exact List.Sublist.refl _

/-- What is left behind the end tag of a raw element. -/
theorem suffix_of_scanEndTag {tag : Tag} {rest : List Char} (h : scanEndTag tag s = some rest) :
    rest <:+ s := by
  unfold scanEndTag at h
  split at h
  -- The tag of this name has an end, or it takes up all the rest.
  · next r =>
    dsimp only at h
    split at h
    · rw [Option.some.injEq] at h
      subst h
      split
      · next h => exact (suffix_of_scanTag h).trans (List.suffix_cons _ _)
      · exact List.nil_suffix
    · exact absurd h (by simp)
  · exact absurd h (by simp)

/-- The word and the text after it are the text. -/
theorem scanScriptWord_append (s : List Char) :
    (scanScriptWord s).2.1 ++ (scanScriptWord s).2.2 = s := by
  unfold scanScriptWord
  dsimp only
  split
  · next c r h =>
    split
    · rw [List.append_assoc, List.singleton_append, ← h, List.takeWhile_append_dropWhile]
    · rw [← h, List.takeWhile_append_dropWhile]
  · next h =>
    have := List.takeWhile_append_dropWhile (l := s) (p := Char.isAlpha)
    rwa [h] at this

end PageHarvest.Html
