import PageHarvest.Proofs.Page.Settling

/-!
# The words of a page

Reading a page drops words that stand further to the front already, and no others: repeated blocks go
(`eraseDups_words_dropRepeats`), repeated phrases go (`Phrase.eraseDups_collapse`), and joining the
blocks leaves their words apart (`words_unwords_eq_flatMap`).  So each word of the page is left at
least once, and the order in which words first come up stays.  The main statement is
`words_normalizeOnce_thin`.
-/

namespace PageHarvest.Page

open Text

/-! ### Repeated blocks -/

/-- Of the blocks that are dropped each word stands further to the front, if that is so for the words
of the blocks that the scan keeps in mind. -/
theorem eraseDups_append_dropRepeatsFrom (collapseWords : Bool) (seen : List (List Char))
    (last : Option (List Char)) (bs u : List (List Char))
    (hseen : ∀ b ∈ seen, ∀ w ∈ words b, w ∈ u) (hlast : ∀ b ∈ last, ∀ w ∈ words b, w ∈ u) :
    (u ++ (dropRepeatsFrom collapseWords seen last bs).flatMap words).eraseDups
      = (u ++ bs.flatMap words).eraseDups := by
  induction bs generalizing seen last u with
  | nil => rfl
  | cons b bs ih =>
    rw [List.flatMap_cons, ← words_trim b]
    -- A block that is kept puts its words in front of the others.
    have hkept : ∀ seen' last', (∀ c ∈ seen', ∀ w ∈ words c, w ∈ u ++ words (trim b)) →
        (∀ c ∈ last', ∀ w ∈ words c, w ∈ u ++ words (trim b)) →
        (u ++ (trim b :: dropRepeatsFrom collapseWords seen' last' bs).flatMap words).eraseDups
          = (u ++ (words (trim b) ++ bs.flatMap words)).eraseDups := by
      intro seen' last' hseen' hlast'
      rw [List.flatMap_cons, ← List.append_assoc, ← List.append_assoc, ih _ _ _ hseen' hlast']
    have hdropped : (∀ w ∈ words (trim b), w ∈ u) →
        (u ++ (dropRepeatsFrom collapseWords seen last bs).flatMap words).eraseDups
          = (u ++ (words (trim b) ++ bs.flatMap words)).eraseDups := by
      intro hb
      rw [Phrase.eraseDups_append_append hb, ih _ _ _ hseen hlast]
    have hwords : ∀ w ∈ words (trim b), w ∈ u ++ words (trim b) := fun w => List.mem_append_right u
    have hseen' : ∀ c ∈ seen, ∀ w ∈ words c, w ∈ u ++ words (trim b) :=
      fun c hc w hw => List.mem_append_left _ (hseen c hc w hw)
    have hlast' : ∀ c ∈ last, ∀ w ∈ words c, w ∈ u ++ words (trim b) :=
      fun c hc w hw => List.mem_append_left _ (hlast c hc w hw)
    rw [dropRepeatsFrom]
    split
    · next hblank => exact hdropped (by simp [hblank])
    · next w hone =>
      split
      · next hecho =>
        simp only [Bool.and_eq_true, beq_iff_eq] at hecho
        exact hdropped (hlast _ hecho.2)
      · exact hkept _ _ hseen' (by simpa using hwords)
    · next hmany =>
      split
      · next hmet => exact hdropped (hseen _ (by simpa using hmet))
      · refine hkept _ _ ?_ hlast'
        rw [List.forall_mem_cons]
        exact ⟨hwords, hseen'⟩

theorem eraseDups_words_dropRepeats (collapseWords : Bool) (bs : List (List Char)) :
    ((dropRepeats collapseWords bs).flatMap words).eraseDups = (bs.flatMap words).eraseDups :=
  eraseDups_append_dropRepeatsFrom collapseWords [] none bs [] (by simp) (by simp)

/-! ### A reading -/

/-- The words that are read are those of the kept blocks, without repeated phrases. -/
theorem words_normalizeOnce (settings : Settings) (markup : List Char) :
    words (normalizeOnce settings markup) = Phrase.collapse settings.maxPhrase
      ((dropRepeats settings.collapseWords (blocks markup)).flatMap words) := by
  rw [normalizeOnce, words_unwords_collapse, words_squeeze, words_unwords_eq_flatMap]

theorem words_dropRepeats_sublist (collapseWords : Bool) (bs : List (List Char)) :
    ((dropRepeats collapseWords bs).flatMap words).Sublist (bs.flatMap words) := by
  have hsub := (dropRepeats_sublist collapseWords bs).flatMap words
  rwa [List.flatMap_map, List.flatMap_congr fun s _ => words_trim s] at hsub

/-- **No word is lost or made up.**  The words read off a page are words of its visible blocks, in
their order, and none of them is joined with another one; each word of the page is among them, and
the words come up for the first time in the order in which they do so on the page. -/
theorem words_normalizeOnce_thin (settings : Settings) (markup : List Char) :
    (words (normalizeOnce settings markup)).Sublist ((blocks markup).flatMap words) ∧
      (words (normalizeOnce settings markup)).eraseDups
        = ((blocks markup).flatMap words).eraseDups := by
  rw [words_normalizeOnce]
  constructor
  · exact (Phrase.collapse_sublist _ _).trans (words_dropRepeats_sublist _ _)
  · rw [Phrase.eraseDups_collapse, eraseDups_words_dropRepeats]

end PageHarvest.Page
