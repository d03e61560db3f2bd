import PageHarvest.Proofs.Page.Settling

/-!
# Running text

A text without the two characters that can begin markup, without null characters and without byte
order marks is not touched by being read as markup: all that `normalize` does to it is to collapse
its repeated phrases and its blanks (`normalize_of_running`).  Line ends are made alike on the way,
which words do not show (`words_newlines`).
-/

namespace PageHarvest.Page

open Text Html

variable {c : Char} {s : List Char}

/-- The character begins no markup and is not dropped where a document is read. -/
def isRunning (c : Char) : Bool := c != '<' && c != '&' && c != '\x00' && c != '\uFEFF'

/-! ### Line ends -/

theorem mem_newlines (h : c ∈ newlines s) : c = '\n' ∨ c ∈ s := by
  fun_induction newlines s with
  | case1 s ih =>
    rcases List.mem_cons.1 h with rfl | h
    · exact .inl rfl
    · exact (ih h).imp_right fun h => List.mem_cons_of_mem _ (List.mem_cons_of_mem _ h)
  | case2 s _ ih =>
    rcases List.mem_cons.1 h with rfl | h
    · exact .inl rfl
    · exact (ih h).imp_right (List.mem_cons_of_mem _)
  | case3 d s _ _ ih =>
    rcases List.mem_cons.1 h with rfl | h
    · exact .inr List.mem_cons_self
    · exact (ih h).imp_right (List.mem_cons_of_mem _)
  | case4 => exact absurd h (by simp)

theorem return_not_mem_newlines (s : List Char) : '\r' ∉ newlines s := by
  fun_induction newlines s with
  | case1 s ih => simpa using ih
  | case2 s _ ih => simpa using ih
  | case3 c s _ hr ih =>
    have hc : '\r' ≠ c := fun h => hr h.symm
    simpa [hc] using ih
  | case4 => simp

/-- A text begins with a blank whichever way its line ends are written. -/
theorem head?_newlines (s : List Char) :
    (newlines s).head?.all isBlank = s.head?.all isBlank := by
  have hline : isBlank '\n' = isBlank '\r' := by decide
  fun_cases newlines s with
  | case1 s => exact hline
  | case2 s _ => exact hline
  | case3 c s _ _ => rfl
  | case4 => rfl

/-- Line ends stand between words, whichever way they are written. -/
theorem words_newlines (s : List Char) : words (newlines s) = words s := by
  have hnewline : isBlank '\n' = true := by decide
  have hreturn : isBlank '\r' = true := by decide
  fun_induction newlines s with
  -- A return with a line feed, a return alone, any other character, and the end.
  | case1 s ih =>
    rw [words_cons_of_isBlank hnewline, words_cons_of_isBlank hreturn,
      words_cons_of_isBlank hnewline, ih]
  | case2 s _ ih => rw [words_cons_of_isBlank hnewline, words_cons_of_isBlank hreturn, ih]
  | case3 c s _ _ ih => simp only [words, head?_newlines, ih]
  | case4 => rfl

/-! ### Running text stands for itself -/

theorem ne_of_isRunning (h : isRunning c = true) :
    c ≠ '<' ∧ c ≠ '&' ∧ c ≠ '\x00' ∧ c ≠ '\uFEFF' := by
  simpa [isRunning, and_assoc] using h

theorem isPlain_of_isRunning (h : ∀ c ∈ s, isRunning c = true) : isPlain s = true := by
  have halone : allStandAlone s = true := by
    induction s with
    | nil => rfl
    | cons c s ih =>
      rw [List.forall_mem_cons] at h
      obtain ⟨hbracket, hampersand, hnull, -⟩ := ne_of_isRunning h.1
      simp [allStandAlone, standsAlone, hbracket, hampersand, hnull, ih h.2]
  have hmark : s.head? ≠ some '\uFEFF' := by
    intro hs
    have hrunning := h _ (List.mem_of_mem_head? hs)
    exact absurd hrunning (by decide)
  simp [isPlain, halone, hmark]

/-- Reading a text that has no mark at its front makes its line ends alike first. -/
theorem normalizeOnce_newlines (settings : Settings) (h : s.head? ≠ some '\uFEFF') :
    normalizeOnce settings (newlines s) = normalizeOnce settings s := by
  have hhead : (newlines s).head? ≠ some '\uFEFF' := by
    fun_cases newlines s with
    | case1 s => simp
    | case2 s _ => simp
    | case3 c s _ _ => exact h
    | case4 => exact h
  have hsource : Arena.ofMarkup (newlines s) = Arena.ofMarkup s := by
    rw [Arena.ofMarkup, Arena.ofMarkup, dropMark_eq_self hhead, dropMark_eq_self h,
      newlines_eq_self (return_not_mem_newlines s)]
  rw [normalizeOnce, normalizeOnce, blocks, blocks, hsource]

/-- Running text read once, whatever its line ends are. -/
theorem normalizeOnce_of_isRunning (settings : Settings) (h : ∀ c ∈ s, isRunning c = true) :
    normalizeOnce settings s = unwords (Phrase.collapse settings.maxPhrase (words s)) := by
  -- Line ends come out as line feeds, which begin no markup either.
  have hlines : ∀ c ∈ newlines s, isRunning c = true := by
    intro c hc
    rcases mem_newlines hc with rfl | hc
    · decide
    · exact h c hc
  have hmark : s.head? ≠ some '\uFEFF' := by
    have hplain := isPlain_of_isRunning h
    simp only [isPlain, Bool.and_eq_true, bne_iff_ne] at hplain
    exact hplain.1
  rw [← normalizeOnce_newlines settings hmark,
    normalizeOnce_of_isPlain settings (return_not_mem_newlines s) (isPlain_of_isRunning hlines),
    words_newlines]

/-- What is left of running text is running text. -/
theorem isRunning_of_mem_normalizeOnce (settings : Settings) (h : ∀ c ∈ s, isRunning c = true) :
    ∀ c ∈ normalizeOnce settings s, isRunning c = true := by
  intro c hc
  rw [normalizeOnce_of_isRunning settings h] at hc
  rcases mem_unwords hc with rfl | ⟨w, hw, hc⟩
  · decide
  · exact h c (mem_of_mem_words ((Phrase.collapse_sublist _ _).subset hw) hc)

/-- **Running text.**  All that normalizing does to running text is to collapse its repeated phrases
and its blanks, and normalizing what comes of it changes nothing more. -/
theorem normalize_of_running (settings : Settings) (s : List Char) (hbracket : '<' ∉ s)
    (hampersand : '&' ∉ s) (hnull : '\x00' ∉ s) (hmark : '\uFEFF' ∉ s) :
    normalize settings s = unwords (Phrase.collapse settings.maxPhrase (words s)) ∧
      normalize settings (normalize settings s) = normalize settings s := by
  have hrunning : ∀ c ∈ s, isRunning c = true := by
    intro c hc
    have hne : ∀ d, d ∉ s → c ≠ d := fun d hd h => hd (h ▸ hc)
    simp [isRunning, hne _ hbracket, hne _ hampersand, hne _ hnull, hne _ hmark]
  have honce := normalizeOnce_of_isRunning settings hrunning
  -- What one reading leaves has neither markup nor echoes, so that another one changes nothing.
  have hfixed : normalizeOnce settings (normalizeOnce settings s) = normalizeOnce settings s := by
    rw [normalizeOnce_of_isRunning settings (isRunning_of_mem_normalizeOnce settings hrunning),
      unwords_collapse_normalizeOnce]
  have hsettled : normalize settings s = normalizeOnce settings s := settle_of_fixed settings hfixed
  refine ⟨hsettled.trans honce, ?_⟩
  rw [hsettled, normalize, hfixed, settle_of_fixed settings hfixed]

/-- Two kinds of line ends, a blank that markup does not take for white space, and a phrase that stands
there twice. -/
private def mixedLines : List Char := "\r\n\u00A0Rust jobs\rRust  jobs ".toList

/-- The phrase is left once, and that is left as it is. -/
theorem normalize_of_running_lines : normalize {} mixedLines = "Rust jobs".toList ∧
    normalize {} "Rust jobs".toList = "Rust jobs".toList := by
  obtain ⟨honce, htwice⟩ := normalize_of_running {} mixedLines (by decide) (by decide) (by decide)
    (by decide)
  have hcollapsed : unwords (Phrase.collapse 20 (words mixedLines)) = "Rust jobs".toList := by
    decide +kernel
  rw [hcollapsed] at honce
  rw [honce] at htwice
  exact ⟨honce, htwice⟩

end PageHarvest.Page
