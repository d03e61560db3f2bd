import PageHarvest.Page.Text
import PageHarvest.Proofs.Html.PlainText
import PageHarvest.Proofs.Phrase.Collapse

/-!
# When normalizing twice changes nothing

`normalize` stops as soon as reading its text as markup does not make it shorter, which is not the
same as leaving it unchanged.  `normalize_normalize_iff` says when it does: exactly when the text
stands for itself.  A reference that is as long as what it stands for (`normalize_reference_left`) shows
that it need not.

Reading a text never adds weight (`weight_normalizeOnce_le`), and takes some away unless the text
stands for itself (`weight_normalizeOnce_lt`); a text that stands for itself is the one that it is
read as (`normalizeOnce_of_isPlain`).
-/

namespace PageHarvest.Page

open Text Html

variable {s : List Char}

/-! ### Blocks -/

theorem dropRepeatsFrom_sublist (collapseWords : Bool) (seen : List (List Char))
    (last : Option (List Char)) (bs : List (List Char)) :
    (dropRepeatsFrom collapseWords seen last bs).Sublist (bs.map trim) := by
  induction bs generalizing seen last with
  | nil => exact List.Sublist.refl _
  | cons b bs ih =>
    rw [dropRepeatsFrom, List.map_cons]
    split
    · exact (ih _ _).cons _
    · split
      · exact (ih _ _).cons _
      · exact (ih _ _).cons_cons _
    · split
      · exact (ih _ _).cons _
      · exact (ih _ _).cons_cons _

/-- What is kept of blocks is among them, trimmed and in their order. -/
theorem dropRepeats_sublist (collapseWords : Bool) (bs : List (List Char)) :
    (dropRepeats collapseWords bs).Sublist (bs.map trim) :=
  dropRepeatsFrom_sublist collapseWords [] none bs

/-- A block alone is no repetition. -/
theorem dropRepeats_singleton (collapseWords : Bool) (h : words s ≠ []) :
    dropRepeats collapseWords [s] = [trim s] := by
  rw [← words_trim] at h
  rw [dropRepeats, dropRepeatsFrom]
  split
  · contradiction
  · simp [dropRepeatsFrom]
  · simp [dropRepeatsFrom]

theorem sum_weight_map_trim (texts : List (List Char)) :
    ((texts.map trim).map weight).sum = (texts.map weight).sum := by
  rw [List.map_map]
  congr 2
  funext s
  exact weight_trim s

theorem sum_weight_trimmed_le (texts : List (List Char)) :
    ((trimmed texts).map weight).sum ≤ (texts.map weight).sum := by
  rw [← sum_weight_map_trim texts]
  exact sum_map_le_of_sublist weight List.filter_sublist

/-! ### One reading -/

/-- What a document shows counts no more than its construction. -/
theorem sum_weight_visibleTexts_ofMarkup_le (markup : List Char) :
    ((Arena.ofMarkup markup).visibleTexts.map weight).sum
      ≤ (Construction.start.read .data (newlines (dropMark markup))).mass :=
  (Arena.sum_weight_visibleTexts_le _).trans (Nat.le_add_right _ _)

/-- Reading a document once gives no more than what it shows. -/
theorem weight_normalizeOnce_le_visible (settings : Settings) (markup : List Char) :
    weight (normalizeOnce settings markup)
      ≤ ((Arena.ofMarkup markup).visibleTexts.map weight).sum := by
  have hcollapse := sum_map_le_of_sublist weight (Phrase.collapse_sublist settings.maxPhrase
    (words (squeeze (unwords (dropRepeats settings.collapseWords (blocks markup))))))
  have hkept := sum_map_le_of_sublist weight
    (dropRepeats_sublist settings.collapseWords (blocks markup))
  rw [sum_weight_words, weight_squeeze, weight_unwords] at hcollapse
  rw [sum_weight_map_trim] at hkept
  rw [normalizeOnce, weight_unwords]
  exact (hcollapse.trans hkept).trans (sum_weight_trimmed_le _)

theorem weight_normalizeOnce_le_source (settings : Settings) (markup : List Char) :
    weight (normalizeOnce settings markup) ≤ weight (newlines (dropMark markup)) := by
  have hmass := Construction.mass_read_le .data Construction.start (newlines (dropMark markup))
  rw [Construction.mass_start, Nat.zero_add] at hmass
  calc weight (normalizeOnce settings markup)
      ≤ ((Arena.ofMarkup markup).visibleTexts.map weight).sum :=
        weight_normalizeOnce_le_visible settings markup
    _ ≤ (Construction.start.read .data (newlines (dropMark markup))).mass :=
        sum_weight_visibleTexts_ofMarkup_le markup
    _ ≤ weight (newlines (dropMark markup)) := hmass

/-- **Reading adds no weight.** -/
theorem weight_normalizeOnce_le (settings : Settings) (markup : List Char) :
    weight (normalizeOnce settings markup) ≤ weight markup :=
  (weight_normalizeOnce_le_source settings markup).trans
    ((weight_newlines_le _).trans (weight_le_of_suffix (suffix_dropMark markup)))

/-- **Reading text that does not stand for itself takes weight away.** -/
theorem weight_normalizeOnce_lt (settings : Settings) (hreturn : '\r' ∉ s)
    (h : isPlain s = false) : weight (normalizeOnce settings s) < weight s := by
  by_cases hmark : s.head? = some '\uFEFF'
  · exact (weight_normalizeOnce_le_source settings s).trans_lt
      ((weight_newlines_le _).trans_lt (weight_dropMark_lt hmark))
  · have halone : allStandAlone s = false := by
      simpa [isPlain, hmark] using h
    have hle := (weight_normalizeOnce_le_visible settings s).trans
      (sum_weight_visibleTexts_ofMarkup_le s)
    have hlt := (Construction.shows_start.read s).2 halone
    rw [dropMark_eq_self hmark, newlines_eq_self hreturn] at hle
    rw [weight_nil, Nat.zero_add] at hlt
    exact hle.trans_lt hlt

/-- The words of a document that shows one text. -/
theorem words_joined (collapseWords : Bool) (s : List Char) :
    words (squeeze (unwords (dropRepeats collapseWords (trimmed [s])))) = words s := by
  rw [words_squeeze]
  by_cases hs : words s = []
  · have htrim := trim_eq_nil_iff.2 hs
    have hblank : trimmed [s] = [] := by simp [trimmed, htrim]
    rw [hblank, hs]
    rfl
  · have htrim := mt trim_eq_nil_iff.1 hs
    have hone : trimmed [s] = [trim s] := by simp [trimmed, htrim]
    rw [hone, dropRepeats_singleton _ (by rwa [words_trim]), unwords_singleton, words_trim,
      words_trim]

/-- Text that stands for itself loses at most repeated phrases. -/
theorem normalizeOnce_of_isPlain (settings : Settings) (hreturn : '\r' ∉ s)
    (h : isPlain s = true) :
    normalizeOnce settings s = unwords (Phrase.collapse settings.maxPhrase (words s)) := by
  simp only [isPlain, Bool.and_eq_true, bne_iff_ne] at h
  obtain ⟨d, hshows, hread⟩ := (Construction.shows_start.read s).1 h.2
  have hblocks : blocks s = trimmed (d.feed .eof).arena.visibleTexts := by
    rw [blocks, Arena.ofMarkup, dropMark_eq_self h.1, newlines_eq_self hreturn, hread]
  rw [normalizeOnce, hblocks]
  rcases hshows.visibleTexts with ⟨htexts, hwords⟩ | ⟨text, htexts, hwords⟩
  · rw [List.nil_append] at hwords
    rw [htexts, hwords]
    rfl
  · rw [List.nil_append] at hwords
    rw [htexts, words_joined, hwords]

/-! ### All readings -/

/-- What is left of the words of a text by collapsing are words. -/
theorem isWord_of_mem_collapse {bound : Nat} {text w : List Char}
    (hw : w ∈ Phrase.collapse bound (words text)) : IsWord w :=
  isWord_of_mem_words ((Phrase.collapse_sublist bound (words text)).subset hw)

/-- The words that are left by collapsing are found again when they are joined. -/
theorem words_unwords_collapse (bound : Nat) (text : List Char) :
    words (unwords (Phrase.collapse bound (words text))) = Phrase.collapse bound (words text) :=
  words_unwords fun _ hw => isWord_of_mem_collapse hw

/-- A text that is the result of a reading has no repeated phrases and no other blanks than the
spaces between its words. -/
theorem unwords_collapse_normalizeOnce (settings : Settings) (markup : List Char) :
    unwords (Phrase.collapse settings.maxPhrase (words (normalizeOnce settings markup)))
      = normalizeOnce settings markup := by
  rw [normalizeOnce, words_unwords_collapse, Phrase.collapse_collapse]

theorem return_not_mem_normalizeOnce (settings : Settings) (markup : List Char) :
    '\r' ∉ normalizeOnce settings markup := by
  intro h
  rcases mem_unwords h with h | ⟨w, hw, h⟩
  · exact absurd h (by decide)
  · have hreturn := (isWord_of_mem_collapse hw).2 _ h
    exact absurd hreturn (by decide)

/-- What is settled on is the result of a reading. -/
theorem exists_settle_eq (settings : Settings) (text : List Char)
    (h : ∃ markup, text = normalizeOnce settings markup) :
    ∃ markup, settle settings text = normalizeOnce settings markup := by
  fun_induction settle settings text with
  | case1 text next hlt ih => exact ih ⟨text, rfl⟩
  | case2 text next hle => exact h

theorem exists_normalize_eq (settings : Settings) (markup : List Char) :
    ∃ source, normalize settings markup = normalizeOnce settings source :=
  exists_settle_eq settings _ ⟨markup, rfl⟩

theorem weight_settle_le (settings : Settings) (text : List Char) :
    weight (settle settings text) ≤ weight text := by
  fun_induction settle settings text with
  | case1 text next hlt ih => exact ih.trans (weight_normalizeOnce_le settings text)
  | case2 text next hle => exact Nat.le_refl _

theorem settle_of_fixed (settings : Settings) (h : normalizeOnce settings s = s) :
    settle settings s = s := by
  rw [settle, h, if_neg (Nat.lt_irrefl _)]

/-- **Normalizing twice changes nothing exactly if the text stands for itself.** -/
theorem normalize_normalize_iff (settings : Settings) (markup : List Char) :
    normalize settings (normalize settings markup) = normalize settings markup ↔
      isPlain (normalize settings markup) = true := by
  obtain ⟨source, hsource⟩ := exists_normalize_eq settings markup
  have hreturn := return_not_mem_normalizeOnce settings source
  rw [hsource]
  constructor
  · intro hfixed
    -- Weight that a reading has taken away does not come back with further ones.
    by_contra hplain
    rw [Bool.not_eq_true] at hplain
    have hlt := weight_normalizeOnce_lt settings hreturn hplain
    have hle := weight_settle_le settings (normalizeOnce settings (normalizeOnce settings source))
    rw [← normalize, hfixed] at hle
    omega
  · intro hplain
    have hfixed : normalizeOnce settings (normalizeOnce settings source)
        = normalizeOnce settings source := by
      rw [normalizeOnce_of_isPlain settings hreturn hplain, unwords_collapse_normalizeOnce]
    rw [normalize, hfixed, settle_of_fixed settings hfixed]

/-- A reference may be as long as what it stands for.  It is then left in the text, and normalizing
the text again replaces it. -/
theorem normalize_reference_left :
    normalize {} "&amp;nGt;".toList = "&nGt;".toList ∧
      normalize {} (normalize {} "&amp;nGt;".toList) ≠ normalize {} "&amp;nGt;".toList := by
  decide +kernel

end PageHarvest.Page
