import PageHarvest.Proofs.Page.Settling
import PageHarvest.Proofs.Phrase.Copies

/-!
# The phrases of a text

What is said of collapsing tokens (`Phrase.isEcholess_collapse`, `Phrase.drops_collapse`,
`Phrase.collapse_copies`) holds of the words of a text, since joined words are found again: no phrase is
left standing twice (`echoes_gone`), nothing but copies of phrases is dropped (`only_copies_dropped`),
and of any number of copies one is left (`copies_become_one`).
-/

namespace PageHarvest.Page

open Text Relation

/-- Words with one space between neighbours, and no phrase of at most `bound` of them twice in a row. -/
structure IsCollapsed (bound : Nat) (text : List Char) : Prop where
  joined : unwords (words text) = text
  front : ∀ c ∈ text.head?, isBlank c = false
  back : ∀ c ∈ text.getLast?, isBlank c = false
  echoless : Phrase.IsEcholess bound (words text)

theorem isCollapsed_collapse (bound : Nat) (text : List Char) :
    IsCollapsed bound (unwords (Phrase.collapse bound (words text))) where
  joined := by rw [words_unwords_collapse]
  front := isBlank_head?_unwords fun _ hw => isWord_of_mem_collapse hw
  back := isBlank_getLast?_unwords fun _ hw => isWord_of_mem_collapse hw
  echoless := by
    rw [words_unwords_collapse]
    exact Phrase.isEcholess_collapse bound (words text)

/-- **No phrase is left standing twice**, neither where a text is collapsed nor in the text of a page. -/
theorem echoes_gone :
    (∀ bound text, IsCollapsed bound (unwords (Phrase.collapse bound (words text)))) ∧
      ∀ settings markup, IsCollapsed settings.maxPhrase (normalize settings markup) := by
  constructor
  · exact isCollapsed_collapse
  · intro settings markup
    -- However often the text is read, what is settled on is the result of a reading.
    obtain ⟨source, hsource⟩ := exists_normalize_eq settings markup
    rw [hsource]
    unfold normalizeOnce
    exact isCollapsed_collapse _ _

/-- **Nothing but copies is dropped.**  The words that are left come of those of the text by dropping,
step by step, one of two copies of a phrase that stand next to each other.  So the first and the last
word stay, and words that stand next to each other did so in the text. -/
theorem only_copies_dropped (bound : Nat) (text : List Char) :
    ReflTransGen (Phrase.Drops bound) (words text)
        (words (unwords (Phrase.collapse bound (words text)))) ∧
      (words (unwords (Phrase.collapse bound (words text)))).head? = (words text).head? ∧
      (words (unwords (Phrase.collapse bound (words text)))).getLast? = (words text).getLast? ∧
      Phrase.neighbours (words (unwords (Phrase.collapse bound (words text))))
        ⊆ Phrase.neighbours (words text) := by
  rw [words_unwords_collapse]
  refine ⟨Phrase.drops_collapse bound _, Phrase.head?_collapse bound _,
    Phrase.getLast?_collapse bound _, Phrase.neighbours_collapse_subset bound _⟩

/-- **Of any number of copies one is left**, if nothing stands twice within the phrase. -/
theorem copies_become_one {bound k : Nat} {phrase : List (List Char)} {text : List Char}
    (nonempty : 1 ≤ phrase.length) (short : phrase.length ≤ bound)
    (echoless : Phrase.IsEcholess bound phrase) (many : 1 ≤ k)
    (copied : words text = Phrase.copies k phrase) :
    unwords (Phrase.collapse bound (words text)) = unwords phrase := by
  rw [copied, Phrase.collapse_copies nonempty short echoless many]

/-- A phrase that begins and ends alike, five times. -/
private def refrain : List Char := "so far so so far so so far so so far so so far so".toList

/-- At most seven words are compared with the next seven, so that a scan takes two copies at a time
and one is left over. -/
theorem copies_become_one_refrain :
    unwords (Phrase.collapse 7 (words refrain)) = "so far so".toList := by
  have hleft : unwords (Phrase.collapse 7 (words refrain)) = unwords (words "so far so".toList) :=
    copies_become_one (k := 5) (by decide +kernel) (by decide +kernel) (by decide +kernel)
      (by decide) (by decide +kernel)
  rw [hleft]
  decide +kernel

end PageHarvest.Page
