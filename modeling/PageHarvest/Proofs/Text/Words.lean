import PageHarvest.Text.Blank
import Mathlib.Data.List.TakeWhile

/-!
# Words

Everything about `words` follows from `words_append_cons`: a text falls apart at a blank.  Joined
words are found again (`words_unwords`), and neither squeezing nor trimming a text touches its words.
-/

namespace PageHarvest.Text

variable {c : Char} {s t w : List Char} {ws : List (List Char)}

/-- A word is not empty and has no blank. -/
def IsWord (w : List Char) : Prop := w ≠ [] ∧ ∀ c ∈ w, isBlank c = false

theorem attach_append (c : Char) (h : ws ≠ []) (vs : List (List Char)) :
    attach c (ws ++ vs) = attach c ws ++ vs := by
  cases ws with
  | nil => exact absurd rfl h
  | cons w ws => rfl

/-- A character in front of a blank is a word of its own. -/
theorem words_cons_of_head (hc : isBlank c = false) (h : s.head?.all isBlank = true) :
    words (c :: s) = [c] :: words s := by
  simp [words, hc, h]

/-- A character in front of a word becomes part of it. -/
theorem words_cons_of_not_head (hc : isBlank c = false) (h : s.head?.all isBlank = false) :
    words (c :: s) = attach c (words s) := by
  simp [words, hc, h]

theorem words_ne_nil_of_head (h : s.head?.all isBlank = false) : words s ≠ [] := by
  cases s with
  | nil => exact absurd h (by simp)
  | cons c s => exact words_cons_ne_nil (by simpa using h) s

/-- **A text falls apart at a blank.** -/
theorem words_append_cons (hc : isBlank c = true) (s t : List Char) :
    words (s ++ c :: t) = words s ++ words t := by
  induction s with
  | nil => exact words_cons_of_isBlank hc t
  | cons d s ih =>
    rw [List.cons_append]
    cases hd : isBlank d with
    | true => rw [words_cons_of_isBlank hd, words_cons_of_isBlank hd, ih]
    | false =>
      -- Whether `d` stands alone shows in `s`, or in the blank after it if `s` is empty.
      have hhead : (s ++ c :: t).head?.all isBlank = s.head?.all isBlank := by
        cases s with
        | nil => simp [hc]
        | cons e s => rfl
      cases h : s.head?.all isBlank with
      | true =>
        rw [words_cons_of_head hd (hhead.trans h), words_cons_of_head hd h, ih, List.cons_append]
      | false =>
        rw [words_cons_of_not_head hd (hhead.trans h), words_cons_of_not_head hd h, ih,
          attach_append d (words_ne_nil_of_head h)]

/-- Blanks at the end do not matter. -/
theorem words_append_of_blank (h : ∀ c ∈ t, isBlank c = true) (s : List Char) :
    words (s ++ t) = words s := by
  cases t with
  | nil => rw [List.append_nil]
  | cons c t =>
    rw [List.forall_mem_cons] at h
    rw [words_append_cons h.1, words_eq_nil_iff.2 h.2, List.append_nil]

/-- Blanks at the front do not matter. -/
theorem words_blank_append (h : ∀ c ∈ t, isBlank c = true) (s : List Char) :
    words (t ++ s) = words s := by
  induction t with
  | nil => rfl
  | cons c t ih =>
    rw [List.forall_mem_cons] at h
    rw [List.cons_append, words_cons_of_isBlank h.1, ih h.2]

/-- A word has no word but itself. -/
theorem words_of_isWord (h : IsWord w) : words w = [w] := by
  obtain ⟨hne, hb⟩ := h
  induction w with
  | nil => exact absurd rfl hne
  | cons c w ih =>
    rw [List.forall_mem_cons] at hb
    cases w with
    | nil => exact words_cons_of_head hb.1 rfl
    | cons d w =>
      rw [words_cons_of_not_head hb.1 (by simpa using hb.2 d List.mem_cons_self),
        ih (by simp) hb.2]
      rfl

/-- **The words of a text are words.** -/
theorem isWord_of_mem_words (h : w ∈ words s) : IsWord w := by
  induction s generalizing w with
  | nil => exact absurd h (by simp)
  | cons c s ih =>
    cases hc : isBlank c with
    | true => exact ih (words_cons_of_isBlank hc s ▸ h)
    | false =>
      cases hs : s.head?.all isBlank with
      | true =>
        rw [words_cons_of_head hc hs, List.mem_cons] at h
        rcases h with rfl | h
        · exact ⟨by simp, by simpa using hc⟩
        · exact ih h
      | false =>
        -- The character goes to the front of the first word.
        rw [words_cons_of_not_head hc hs] at h
        obtain ⟨v, vs, hvs⟩ := List.exists_cons_of_ne_nil (words_ne_nil_of_head hs)
        rw [hvs, attach, List.mem_cons] at h
        rcases h with rfl | h
        · obtain ⟨-, hv⟩ := ih (hvs ▸ List.mem_cons_self)
          exact ⟨by simp, List.forall_mem_cons.2 ⟨hc, hv⟩⟩
        · exact ih (hvs ▸ List.mem_cons_of_mem _ h)

/-- Words are made of characters of the text. -/
theorem mem_of_mem_words (hw : w ∈ words s) (hc : c ∈ w) : c ∈ s := by
  induction s generalizing w with
  | nil => exact absurd hw (by simp)
  | cons d s ih =>
    cases hd : isBlank d with
    | true => exact List.mem_cons_of_mem d (ih (words_cons_of_isBlank hd s ▸ hw) hc)
    | false =>
      cases hs : s.head?.all isBlank with
      | true =>
        rw [words_cons_of_head hd hs, List.mem_cons] at hw
        rcases hw with rfl | hw
        · obtain rfl := List.mem_singleton.1 hc
          exact List.mem_cons_self
        · exact List.mem_cons_of_mem d (ih hw hc)
      | false =>
        rw [words_cons_of_not_head hd hs] at hw
        -- The character becomes part of the first word; of the others the rest of the text has
        -- enough to say.
        obtain ⟨v, vs, hvs⟩ := List.exists_cons_of_ne_nil (words_ne_nil_of_head hs)
        rw [hvs, attach, List.mem_cons] at hw
        rcases hw with rfl | hw
        · rcases List.mem_cons.1 hc with rfl | hc
          · exact List.mem_cons_self
          · exact List.mem_cons_of_mem d (ih (hvs ▸ List.mem_cons_self) hc)
        · exact List.mem_cons_of_mem d (ih (hvs ▸ List.mem_cons_of_mem v hw) hc)

/-! ### Joined words -/

theorem isBlank_space : isBlank ' ' = true := by decide

theorem unwords_cons (w : List Char) (h : ws ≠ []) :
    unwords (w :: ws) = w ++ ' ' :: unwords ws := by
  cases ws with
  | nil => exact absurd rfl h
  | cons v ws => rfl

/-- **Joined words are found again.** -/
theorem words_unwords (h : ∀ w ∈ ws, IsWord w) : words (unwords ws) = ws := by
  induction ws with
  | nil => rfl
  | cons w ws ih =>
    rw [List.forall_mem_cons] at h
    cases ws with
    | nil => exact words_of_isWord h.1
    -- The space between two words is where the text falls apart.
    | cons v ws =>
      rw [unwords_cons w (by simp), words_append_cons isBlank_space, ih h.2, words_of_isWord h.1]
      rfl

/-- Texts joined by spaces have the words of each of them, one after the other. -/
theorem words_unwords_eq_flatMap (ss : List (List Char)) :
    words (unwords ss) = ss.flatMap words := by
  induction ss with
  | nil => rfl
  | cons s ss ih =>
    cases ss with
    | nil => simp
    | cons t ss =>
      rw [unwords_cons s (by simp), words_append_cons isBlank_space, ih]
      rfl

theorem words_squeeze (s : List Char) : words (squeeze s) = words s :=
  words_unwords fun _ h => isWord_of_mem_words h

/-- Joined words have no character but theirs and the space. -/
theorem mem_unwords (h : c ∈ unwords ws) : c = ' ' ∨ ∃ w ∈ ws, c ∈ w := by
  induction ws with
  | nil => exact absurd h (by simp)
  | cons w ws ih =>
    cases ws with
    | nil => exact .inr ⟨w, List.mem_cons_self, h⟩
    | cons v ws =>
      rw [unwords_cons w (by simp), List.mem_append, List.mem_cons] at h
      rcases h with h | h | h
      · exact .inr ⟨w, List.mem_cons_self, h⟩
      · exact .inl h
      · rcases ih h with h | ⟨u, hu, hc⟩
        · exact .inl h
        · exact .inr ⟨u, List.mem_cons_of_mem _ hu, hc⟩

/-- Joined words begin with a word. -/
theorem isBlank_head?_unwords (h : ∀ w ∈ ws, IsWord w) :
    ∀ c ∈ (unwords ws).head?, isBlank c = false := by
  intro c hc
  cases ws with
  | nil => exact absurd hc (by simp)
  | cons w ws =>
    obtain ⟨hne, hb⟩ := h w List.mem_cons_self
    obtain ⟨d, w, rfl⟩ := List.exists_cons_of_ne_nil hne
    have hd : (unwords ((d :: w) :: ws)).head? = some d := by
      cases ws with
      | nil => rfl
      | cons v ws => rfl
    obtain rfl := Option.some.inj (hd.symm.trans hc)
    exact hb d List.mem_cons_self

/-- Joined words end with a word. -/
theorem isBlank_getLast?_unwords (h : ∀ w ∈ ws, IsWord w) :
    ∀ c ∈ (unwords ws).getLast?, isBlank c = false := by
  induction ws with
  | nil => simp
  | cons w ws ih =>
    rw [List.forall_mem_cons] at h
    intro c hc
    cases ws with
    | nil => exact h.1.2 c (List.mem_of_getLast? hc)
    | cons v ws =>
      -- The rest has a word, and so is not empty.
      obtain ⟨d, r, hrest⟩ : ∃ d r, unwords (v :: ws) = d :: r := by
        apply List.exists_cons_of_ne_nil
        intro hnil
        have hwords := words_unwords h.2
        rw [hnil] at hwords
        exact absurd hwords (by simp)
      have hlast : (unwords (w :: v :: ws)).getLast? = (unwords (v :: ws)).getLast? := by
        rw [unwords_cons w (by simp), hrest, List.getLast?_append, List.getLast?_cons_cons,
          List.getLast?_cons, Option.some_or]
      exact ih h.2 c (hlast ▸ hc)

/-! ### Trimmed texts -/

theorem words_trimLeft (s : List Char) : words (trimLeft s) = words s := by
  induction s with
  | nil => rfl
  | cons c s ih =>
    rw [trimLeft, List.dropWhile_cons]
    split
    · next hc => rw [words_cons_of_isBlank hc, ← trimLeft, ih]
    · rfl

/-- What is trimmed off the end is blank. -/
theorem exists_trimRight (s : List Char) :
    ∃ t, s = trimRight s ++ t ∧ ∀ c ∈ t, isBlank c = true := by
  refine ⟨(s.reverse.takeWhile isBlank).reverse, ?_, ?_⟩
  · rw [trimRight, ← List.reverse_append, List.takeWhile_append_dropWhile, List.reverse_reverse]
  · intro c hc
    exact List.mem_takeWhile_imp (List.mem_reverse.1 hc)

theorem words_trim (s : List Char) : words (trim s) = words s := by
  obtain ⟨t, ht, hb⟩ := exists_trimRight (trimLeft s)
  rw [trim, ← words_append_of_blank hb, ← ht, words_trimLeft]

theorem trim_eq_nil_iff : trim s = [] ↔ words s = [] := by
  rw [← words_trim s]
  constructor
  · intro h
    rw [h, words_nil]
  · intro h
    by_contra hne
    -- What is left of a text by trimming begins with a character that is not blank.
    have hblank := words_eq_nil_iff.1 h
    obtain ⟨t, ht, hb⟩ := exists_trimRight (trimLeft s)
    obtain ⟨c, u, hu⟩ := List.exists_cons_of_ne_nil hne
    have hleft : trimLeft s = c :: (u ++ t) := by
      rw [ht, ← trim, hu, List.cons_append]
    have hc : isBlank c = false := by
      have := List.head?_dropWhile_not isBlank s
      rw [← trimLeft, hleft] at this
      simpa using this
    rw [hu] at hblank
    rw [hblank c List.mem_cons_self] at hc
    exact absurd hc (by simp)

/-- A trimmed text does not begin with a blank. -/
theorem isBlank_head?_trim (s : List Char) : ∀ c ∈ (trim s).head?, isBlank c = false := by
  intro c hc
  obtain ⟨t, ht, -⟩ := exists_trimRight (trimLeft s)
  have hleft : (trimLeft s).head? = some c := by
    rw [ht, ← trim, List.head?_append, hc, Option.some_or]
  have hnot := List.head?_dropWhile_not isBlank s
  rw [← trimLeft, hleft] at hnot
  simpa using hnot

/-- A trimmed text does not end with a blank. -/
theorem isBlank_getLast?_trim (s : List Char) : ∀ c ∈ (trim s).getLast?, isBlank c = false := by
  intro c hc
  rw [trim, trimRight, List.getLast?_reverse] at hc
  have hnot := List.head?_dropWhile_not isBlank (trimLeft s).reverse
  rw [hc] at hnot
  simpa using hnot

theorem trim_trim (s : List Char) : trim (trim s) = trim s :=
  trim_eq_self (isBlank_head?_trim s) (isBlank_getLast?_trim s)

/-- Texts that are the same when trimmed have the same words. -/
theorem words_of_trim (h : trim s = trim t) : words s = words t := by
  rw [← words_trim s, h, words_trim]

end PageHarvest.Text
