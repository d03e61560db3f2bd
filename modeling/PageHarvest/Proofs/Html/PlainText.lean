import PageHarvest.Proofs.Html.Construction
import PageHarvest.Proofs.Html.Visible

/-!
# Reading running text

Text that stands for itself is read into one text in the body, but for the blanks at its front.
`Shows.read` follows it piece by piece: as long as each piece stands for itself the document is the
one of `bodyWith`, and at the first that does not, the document has become lighter than the markup.
-/

namespace PageHarvest.Html

open Text

variable {s : List Char}

/-! ### Line ends and byte order marks -/

/-- Line ends are blanks however they are written, so that making them alike takes no text away. -/
theorem weight_newlines_le (s : List Char) : weight (newlines s) ≤ weight s := by
  have hreturn : weightOf '\r' = 0 := by decide
  have hnewline : weightOf '\n' = 0 := by decide
  -- A line end of two characters, of one, and any other character.
  fun_induction newlines s with
  | case1 s ih => simp only [weight_cons]; omega
  | case2 s _ ih => simp only [weight_cons]; omega
  | case3 c s _ _ ih => simp only [weight_cons]; omega
  | case4 => exact Nat.le_refl _

/-- Without a carriage return all line ends are alike already. -/
theorem newlines_eq_self (h : '\r' ∉ s) : newlines s = s := by
  fun_induction newlines s with
  | case1 s ih => exact absurd List.mem_cons_self h
  | case2 s _ ih => exact absurd List.mem_cons_self h
  | case3 c s _ _ ih => rw [ih fun hs => h (List.mem_cons_of_mem c hs)]
  | case4 => rfl

theorem dropMark_eq_self (h : s.head? ≠ some '\uFEFF') : dropMark s = s := by
  unfold dropMark
  split
  · exact absurd rfl h
  · rfl

/-- A byte order mark weighs something, and is dropped. -/
theorem weight_dropMark_lt (h : s.head? = some '\uFEFF') : weight (dropMark s) < weight s := by
  obtain ⟨r, rfl⟩ := List.head?_eq_some_iff.1 h
  have hpos : 0 < weightOf '\uFEFF' := by decide
  rw [dropMark, weight_cons]
  omega

end PageHarvest.Html

namespace PageHarvest.Html.Construction

open Text

variable {c : Construction} {s u : List Char}

/-- The document with one text, in its body. -/
def bodyWith (pieces : List (List Char)) : Construction where
  arena := ⟨#[
    { kind := .document, ends := some (1, 1) },
    { kind := .element (.html .html), parent := some 0, ends := some (2, 3) },
    { kind := .element (.html .head), parent := some 1, next := some 3 },
    { kind := .element (.html .body), parent := some 1, previous := some 2, ends := some (4, 4) },
    { kind := .text pieces, parent := some 3 }]⟩
  mode := .inBody
  returnMode := .initial
  templateModes := []
  stack := [⟨3, .html .body⟩, ⟨1, .html .html⟩]
  formatting := []
  tableText := []
  head := some 2
  form := none
  oldLayout := true
  framesetOk := false
  skipNewline := false
  fostering := false
  content := none

/-- Only running text has been read, and it is shown but for the blanks at its front. -/
inductive Shows : Construction → List Char → Prop
  | nothing {u : List Char} (hu : ∀ c ∈ u, isBlank c = true) : Shows start u
  | text {u : List Char} (hu : ∀ c ∈ u, isBlank c = true) (pieces : List (List Char)) :
    Shows (bodyWith pieces) (u ++ pieces.reverse.flatten)

theorem shows_start : Shows start [] := .nothing (by simp)

theorem Shows.content (h : Shows c u) : c.content = none := by
  cases h <;> rfl

/-- All of the text that was read counts, but for blanks at its front, which count nothing. -/
theorem Shows.mass (h : Shows c u) : c.mass = weight u := by
  cases h with
  | nothing hu => rw [mass_start, weight_of_blank hu]
  | text hu pieces =>
    rw [weight_append, weight_of_blank hu, weight_flatten, List.map_reverse, List.sum_reverse]
    simp [Construction.mass, Arena.mass, bodyWith, Kind.mass]

/-! ### Tokens of running text -/

/-- White space of markup is blank. -/
theorem isBlank_of_isSpace {c : Char} (h : isSpace c = true) : isBlank c = true := by
  simp only [isSpace, Bool.or_eq_true, beq_iff_eq] at h
  rcases h with (((rfl | rfl) | rfl) | rfl) | rfl <;> decide

/-- White space is dispatched as it is, unless a newline at its front does not count. -/
theorem feed_space (h : c.skipNewline = false) (cs : List Char) :
    c.feed (.space cs) = { c with skipNewline := false }.dispatch (.space cs) := by
  unfold feed
  dsimp only
  split
  · contradiction
  · contradiction
  · rw [h, if_neg Bool.false_ne_true]
  · rfl

/-- One more token of running text goes to the end of the text, or is dropped before the body. -/
theorem Shows.feed (h : Shows c u) {t : Token} (ht : t.IsRun) :
    Shows (c.feed t) (u ++ t.chars) := by
  cases t with
  | malformed =>
    rw [show Token.malformed.chars = [] from rfl, List.append_nil]
    cases h with
    | nothing hu => exact .nothing hu
    | text hu pieces => exact .text hu pieces
  | space cs =>
    cases h with
    | nothing hu =>
      -- Before the body white space is dropped.
      rw [feed_space rfl]
      refine .nothing fun d hd => ?_
      rcases List.mem_append.1 hd with hd | hd
      · exact hu d hd
      · exact isBlank_of_isSpace (ht d hd)
    | text hu pieces =>
      rw [feed_space rfl, List.append_assoc]
      have := Shows.text hu (cs :: pieces)
      rw [List.reverse_cons, List.flatten_concat] at this
      exact this
  | text cs =>
    cases h with
    | nothing hu =>
      -- The first other text opens the root, the head and the body on its way in.
      have := Shows.text hu [cs]
      rw [List.reverse_singleton, List.flatten_singleton] at this
      exact this
    | text hu pieces =>
      have := Shows.text hu (cs :: pieces)
      rw [List.reverse_cons, List.flatten_concat, ← List.append_assoc] at this
      exact this
  -- Tags, comments and the end of the markup are no running text.
  | _ => exact ht.elim

/-- Tokens of running text, one after the other. -/
theorem Shows.feedAll (h : Shows c u) {ts : List Token} (hts : ∀ t ∈ ts, t.IsRun) :
    Shows (ts.foldl Construction.feed c) (u ++ ts.flatMap Token.chars) := by
  induction ts generalizing c u with
  | nil => simpa using h
  | cons t ts ih =>
    rw [List.forall_mem_cons] at hts
    rw [List.foldl_cons, List.flatMap_cons, ← List.append_assoc]
    exact ih (h.feed hts.1) hts.2

/-- The end of the markup leaves the text as it is. -/
theorem Shows.visibleTexts (h : Shows c u) :
    ((c.feed .eof).arena.visibleTexts = [] ∧ words u = []) ∨
    ∃ text, (c.feed .eof).arena.visibleTexts = [text] ∧ words text = words u := by
  cases h with
  | nothing hu => exact .inl ⟨by decide, words_eq_nil_iff.2 hu⟩
  | text hu pieces => exact .inr ⟨pieces.reverse.flatten, rfl, (words_blank_append hu _).symm⟩

/-! ### Running text -/

/-- **Reading running text.**  Text that stands for itself is shown; any other becomes lighter. -/
theorem Shows.read (h : Shows c u) (s : List Char) :
    (allStandAlone s = true → ∃ d, Shows d (u ++ s) ∧ c.read .data s = d.feed .eof) ∧
    (allStandAlone s = false → (c.read .data s).mass < weight u + weight s) := by
  -- The induction is on the length, as a piece may take any number of characters off the front.
  induction hn : s.length using Nat.strong_induction_on generalizing c u s with
  | _ n ih =>
    subst hn
    cases s with
    | nil =>
      refine ⟨fun _ => ⟨c, by rwa [List.append_nil], ?_⟩, by simp [allStandAlone]⟩
      rw [Construction.read]
    | cons char s =>
      have hcontent : { c with content := none } = c := by
        cases h <;> rfl
      rw [Construction.read]
      rw [hcontent]
      have hspec := lex_data_spec c.isForeign char s
      generalize lex .data c.isForeign char s = piece at hspec ⊢
      rcases hspec with ⟨v, hcopies⟩ | ⟨halone, hlt⟩
      · -- The piece is shown as it is, and the rest is read with it in front.
        obtain ⟨tokens, content, rest⟩ := piece
        obtain ⟨hsplit, hv, rfl, hruns, hchars, halone⟩ := hcopies
        dsimp only at hsplit hruns hchars halone
        have hnext := h.feedAll hruns
        rw [hchars] at hnext
        rw [hnext.content, Option.getD_none, halone, hsplit, weight_append, ← List.append_assoc,
          ← Nat.add_assoc, ← weight_append]
        have hshorter : rest.length < (char :: s).length := by
          have := List.length_pos_iff.2 hv
          rw [hsplit, List.length_append]
          omega
        exact ih _ hshorter hnext rest rfl
      · -- The piece is lighter than what it was cut off, and reading on does not make up for that.
        refine ⟨by simp [halone], fun _ => ?_⟩
        have hfeed := mass_feedAll_le c piece.tokens
        have hread := fun content =>
          mass_read_le content (piece.tokens.foldl Construction.feed c) piece.rest
        rw [Lexed.weight] at hlt
        rw [weight_cons, ← h.mass]
        exact (hread _).trans_lt (by omega)

end PageHarvest.Html.Construction
