import PageHarvest.Page.Text
import PageHarvest.Proofs.Html.Tree

/-!
# What stands below hidden elements

The blocks of a document are found by going through all of its nodes.  They are those that a walk down
its tree finds that turns back at hidden elements (`Html.Arena.visibleTexts_of_holds`), and so do not
depend on what stands below such an element, however deep and whatever it is (`hidden_never_shows`).
-/

namespace PageHarvest.Page

open Html

variable {a b : Arena} {t u : Node} {s r : List Char}

/-- Trees that are the same but for what stands below hidden elements show the same. -/
theorem visibleTexts_eq_of_bare (ha : a.Holds t) (hb : b.Holds u) (h : t.bare = u.bare) :
    a.visibleTexts = b.visibleTexts := by
  rw [Arena.visibleTexts_of_holds ha, Arena.visibleTexts_of_holds hb, ← Node.texts_bare t, h,
    Node.texts_bare]

theorem blocks_eq_of_bare (hs : (Arena.ofMarkup s).Holds t) (hr : (Arena.ofMarkup r).Holds u)
    (h : t.bare = u.bare) : blocks s = blocks r := by
  rw [blocks, blocks, visibleTexts_eq_of_bare hs hr h]

/-- **Hidden elements let nothing through.**  Every tree is the document of some arena, and whatever
tree the document of an arena is, its blocks are what is found by walking down that tree and turning
back at hidden elements.  Two documents whose trees are the same but for what stands below hidden
elements have the same blocks, and reading their markup gives the same text. -/
theorem hidden_never_shows :
    (∀ t : Node, ∃ a : Arena, a.Holds t) ∧
    (∀ (a : Arena) (t : Node), a.Holds t → trimmed a.visibleTexts = trimmed t.texts) ∧
    (∀ (a b : Arena) (t u : Node), a.Holds t → b.Holds u → t.bare = u.bare →
      trimmed a.visibleTexts = trimmed b.visibleTexts) ∧
    (∀ (settings : Settings) (s r : List Char) (t u : Node), (Arena.ofMarkup s).Holds t →
      (Arena.ofMarkup r).Holds u → t.bare = u.bare →
      blocks s = blocks r ∧ normalizeOnce settings s = normalizeOnce settings r) := by
  refine ⟨?_, ?_, ?_, ?_⟩
  · intro t
    exact ⟨Arena.ofTree t, Arena.holds_ofTree t⟩
  · intro a t ha
    rw [Arena.visibleTexts_of_holds ha]
  · intro a b t u ha hb h
    rw [visibleTexts_eq_of_bare ha hb h]
  · intro settings s r t u hs hr h
    have hblocks := blocks_eq_of_bare hs hr h
    exact ⟨hblocks, by rw [normalizeOnce, normalizeOnce, hblocks]⟩

/-- An element of a picture. -/
private def inPicture (tag : Tag) (children : List Node) : Node := .element ⟨.svg, tag⟩ children

/-- A page with a word and a picture, and with something in the style of the picture. -/
private def picturePage (inside : List Node) : Node :=
  .fragment [.element (.html .html) [.element (.html .head) [], .element (.html .body)
    [.element (.html .p) [.text "Rust".toList, inPicture .svg [inPicture .style inside]]]]]

/-- The style holds a script in a group, that is, one hidden element far below another. -/
private def scripted : Node :=
  picturePage [inPicture (.other ['g']) [inPicture .script [.text ['a']]]]

/-- The style holds text, and a paragraph in a description, which by itself would be shown. -/
private def described : Node :=
  picturePage [.text ['b'], inPicture .desc [.element (.html .p) [.text ['c']]]]

/-- Of both pages the word is shown and nothing else. -/
theorem hidden_never_shows_picture :
    trimmed (Arena.ofTree described).visibleTexts = ["Rust".toList] ∧
    trimmed (Arena.ofTree scripted).visibleTexts = trimmed (Arena.ofTree described).visibleTexts ∧
    blocks "<p>Rust<svg><style><g><script>a".toList
      = blocks "<p>Rust<svg><style>b<desc><p>c".toList ∧
    normalizeOnce {} "<p>Rust<svg><style><g><script>a".toList
      = normalizeOnce {} "<p>Rust<svg><style>b<desc><p>c".toList := by
  obtain ⟨-, hwalk, hdocuments, hpages⟩ := hidden_never_shows
  have hscripted := Arena.holds_ofTree scripted
  have hdescribed := Arena.holds_ofTree described
  -- Both pages are read from markup in which nothing is closed.
  have hs : Arena.ofMarkup "<p>Rust<svg><style><g><script>a".toList = Arena.ofTree scripted := by
    decide +kernel
  have hr : Arena.ofMarkup "<p>Rust<svg><style>b<desc><p>c".toList = Arena.ofTree described := by
    decide +kernel
  have hbare : scripted.bare = described.bare := rfl
  refine ⟨?_, hdocuments _ _ _ _ hscripted hdescribed hbare,
    hpages {} _ _ _ _ (hs ▸ hscripted) (hr ▸ hdescribed) hbare⟩
  rw [hwalk _ _ hdescribed]
  decide +kernel

end PageHarvest.Page
