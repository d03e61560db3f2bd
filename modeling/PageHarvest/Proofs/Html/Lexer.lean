import PageHarvest.Html.Token.Plain
import PageHarvest.Proofs.Html.Reference
import PageHarvest.Proofs.Html.Scan

/-!
# The weight of pieces of markup

Cutting off a piece of markup adds no weight (`weight_lex_le`), and takes some away unless the piece
is text that stands for itself (`lex_data_spec`).
-/

namespace PageHarvest.Html

open Text

variable {s t : List Char} {c : Char}

/-! ### Tokens -/

/-- What a token counts.  A null character counts as the one that may take its place. -/
def Token.weight : Token → Nat
  | null => weightOf '\uFFFD'
  | space cs => Text.weight cs
  | text cs => Text.weight cs
  | _ => 0

/-- What the tokens and the rest of a piece count. -/
def Lexed.weight (l : Lexed) : Nat := (l.tokens.map Token.weight).sum + Text.weight l.rest

theorem sum_weight_glue (c : Char) (ts : List Token) :
    ((Token.glue c ts).map Token.weight).sum
      = (if c = '\x00' then weightOf '\uFFFD' else weightOf c) + (ts.map Token.weight).sum := by
  unfold Token.glue
  split
  · rfl
  · split
    · split
      · simp [Token.weight, Nat.add_assoc]
      · simp [Token.weight]
    · split
      · simp [Token.weight, Nat.add_assoc]
      · simp [Token.weight]

/-- Running text loses weight as tokens where it has null characters, and only there. -/
theorem sum_weight_ofChars (s : List Char) :
    ((Token.ofChars s).map Token.weight).sum + s.count '\x00' = weight s := by
  -- What may take the place of a null character has three bytes, and that character counts four.
  have hnull : weightOf '\uFFFD' + 1 = weightOf '\x00' := by decide
  induction s with
  | nil => rfl
  | cons c s ih =>
    rw [Token.ofChars, List.foldr_cons, sum_weight_glue, ← Token.ofChars, weight_cons,
      List.count_cons]
    by_cases hc : c = '\x00'
    · subst hc
      simp only [if_true, beq_self_eq_true]
      omega
    · simp only [if_neg hc, beq_iff_eq]
      omega

theorem sum_weight_ofChars_le (s : List Char) :
    ((Token.ofChars s).map Token.weight).sum ≤ weight s := by
  have := sum_weight_ofChars s
  omega

theorem weight_map_valueChar_le (s : List Char) : weight (s.map valueChar) ≤ weight s := by
  have hnull : weightOf '\uFFFD' ≤ weightOf '\x00' := by decide
  induction s with
  | nil => exact Nat.le_refl _
  | cons c s ih =>
    rw [List.map_cons, weight_cons, weight_cons, valueChar]
    split
    · next h =>
      subst h
      omega
    · omega

/-! ### Pieces -/

/-- A piece without text. -/
theorem weight_le_of_textless {l : Lexed} (ht : (l.tokens.map Token.weight).sum = 0)
    (hr : l.rest <:+ s) : l.weight ≤ weight s := by
  rw [Lexed.weight, ht, Nat.zero_add]
  exact weight_le_of_suffix hr

theorem weight_lexDeclaration_le (foreign : Bool) (s : List Char) :
    (lexDeclaration foreign s).weight ≤ weight s := by
  unfold lexDeclaration
  split
  · next r =>
    exact weight_le_of_textless rfl
      ((suffix_afterComment r).trans (List.suffix_append ['-', '-'] r))
  · split
    · exact weight_le_of_textless rfl ((suffix_scanDoctype _).trans (List.drop_suffix _ _))
    · split
      · have hsub := (sublist_scanSection (s.drop 7)).trans (List.drop_sublist 7 s)
        have hle := weight_le_of_sublist hsub
        have htok := sum_weight_ofChars_le (scanSection (s.drop 7)).1
        rw [weight_append] at hle
        dsimp only [Lexed.weight]
        omega
      · exact weight_le_of_textless rfl (suffix_afterBracket s)

/-- A bracket that begins nothing is text, and so is a slash after it that ends the markup. -/
theorem lexTag_of_bare (foreign : Bool) (h : isBareBracket s = true) :
    ∃ u v, s = u ++ v ∧ (∀ d ∈ u, d = '/') ∧
      lexTag foreign s = ⟨[.text ('<' :: u)], .data, v⟩ := by
  unfold isBareBracket at h
  split at h
  · exact ⟨[], [], rfl, by simp, rfl⟩
  · exact ⟨['/'], [], rfl, by simp, rfl⟩
  · next d r hslash =>
    refine ⟨[], d :: r, rfl, by simp, ?_⟩
    simp only [Bool.not_eq_true', Bool.or_eq_false_iff, beq_eq_false_iff_ne] at h
    obtain ⟨⟨⟨hbang, hquery⟩, hslash'⟩, halpha⟩ := h
    simp [lexTag, hslash', halpha]

/-- A bracket that begins a tag, a comment or a declaration is lost. -/
theorem weight_lexTag_le (foreign : Bool) (h : isBareBracket s = false) :
    (lexTag foreign s).weight ≤ weight s := by
  unfold lexTag
  split
  · exact absurd h (by simp [isBareBracket])
  · next r =>
    exact (weight_lexDeclaration_le foreign r).trans (weight_le_of_suffix (List.suffix_cons '!' r))
  · next r =>
    exact weight_le_of_textless rfl ((suffix_afterBracket r).trans (List.suffix_cons '?' r))
  · exact absurd h (by simp [isBareBracket])
  · next r => exact weight_le_of_textless rfl (List.suffix_append ['/', '>'] r)
  · next c r _ =>
    split
    · split
      · next h =>
        exact weight_le_of_textless rfl ((suffix_of_scanTag h).trans (List.suffix_cons '/' _))
      · exact weight_le_of_textless rfl List.nil_suffix
    · exact weight_le_of_textless rfl ((suffix_afterBracket _).trans (List.suffix_cons '/' _))
  · next c r hbang hquery hend _ hslash =>
    split
    · split
      · next h => exact weight_le_of_textless rfl (suffix_of_scanTag h)
      · exact weight_le_of_textless rfl List.nil_suffix
    · next halpha =>
      -- What is left are texts before which a bracket begins nothing.
      have hc : c ≠ '/' := by
        intro he
        cases r with
        | nil => exact hend he rfl
        | cons d r => exact hslash d r he rfl
      have hbare : isBareBracket (c :: r) = true := by
        simp only [Bool.not_eq_true] at halpha
        simp [isBareBracket, hc, show c ≠ '!' from hbang, show c ≠ '?' from hquery, halpha]
      rw [h] at hbare
      exact absurd hbare (by simp)

/-- The piece after an ampersand is what the ampersand stands for. -/
theorem weight_lexReference_le (content : Content) (s : List Char) :
    (lexReference content s).weight
      ≤ weight (Reference.decode .text s).chars + weight (Reference.decode .text s).rest := by
  have htok := sum_weight_ofChars_le (Reference.decode .text s).chars
  have hmalformed : Token.malformed.weight = 0 := rfl
  unfold lexReference Lexed.weight
  dsimp only
  split
  · omega
  · rw [List.map_cons, List.sum_cons, hmalformed]
    omega

theorem lexReference_of_bare (content : Content) (h : isBareAmpersand s = true) :
    ∃ tokens, (tokens = [.text ['&']] ∨ tokens = [.malformed, .text ['&']]) ∧
      lexReference content s = ⟨tokens, content, s⟩ := by
  simp only [isBareAmpersand, Bool.and_eq_true, beq_iff_eq] at h
  refine ⟨(lexReference content s).tokens, ?_, ?_⟩
  · unfold lexReference
    dsimp only
    rw [h.1]
    split
    · exact .inl rfl
    · exact .inr rfl
  · unfold lexReference
    dsimp only
    rw [h.2]

/-- An ampersand that begins a reference weighs something. -/
theorem weight_lexReference_lt (content : Content) (h : isBareAmpersand s = false) :
    (lexReference content s).weight < weightOf '&' + weight s := by
  have hle := weight_lexReference_le content s
  rcases Reference.decode_spec .text s with hbare | hlt
  · refine absurd h ?_
    simp [isBareAmpersand, hbare, Reference.bare]
  · omega

theorem weight_lexRaw_le (content : Content) (tag : Tag) (s : List Char) :
    (lexRaw content tag s).weight ≤ weightOf '<' + weight s := by
  unfold lexRaw
  split
  · next rest h => exact (weight_le_of_textless rfl (suffix_of_scanEndTag h)).trans (by omega)
  · exact Nat.le_refl _

theorem weight_pastMark_le (l : Lexed) : l.pastMark.weight ≤ l.weight := by
  unfold Lexed.pastMark
  split
  · have := weight_le_of_suffix (suffix_dropMark l.rest)
    unfold Lexed.weight
    dsimp only
    omega
  · exact Nat.le_refl _

/-- Characters taken off the front as they are. -/
theorem weight_verbatim_le (content : Content) {u v : List Char} (h : u ++ v = c :: s) :
    Lexed.weight ⟨Token.ofChars u, content, v⟩ ≤ weightOf c + weight s := by
  rw [← weight_cons, ← h, weight_append]
  exact Nat.add_le_add_right (sum_weight_ofChars_le u) _

/-- A stretch of text in which null characters are replaced. -/
theorem weight_stretch_le (p : Char → Bool) (content : Content) (c : Char) (s : List Char) :
    Lexed.weight ⟨Token.ofChars ((c :: s.takeWhile p).map valueChar), content, s.dropWhile p⟩
      ≤ weightOf c + weight s := by
  have htok := sum_weight_ofChars_le ((c :: s.takeWhile p).map valueChar)
  have hvalue := weight_map_valueChar_le (c :: s.takeWhile p)
  have hsplit : weight s = weight (s.takeWhile p) + weight (s.dropWhile p) := by
    rw [← weight_append, List.takeWhile_append_dropWhile]
  rw [weight_cons] at hvalue
  unfold Lexed.weight
  dsimp only
  omega

theorem weight_lexScript_le (part : ScriptPart) (c : Char) (s : List Char) :
    (lexScript part c s).weight ≤ weightOf c + weight s := by
  -- One character of a script, whatever comes next.
  have hone : ∀ content, Lexed.weight ⟨Token.ofChars [valueChar c], content, s⟩
      ≤ weightOf c + weight s := by
    intro content
    have htok := sum_weight_ofChars_le [valueChar c]
    have hvalue := weight_map_valueChar_le [c]
    rw [List.map_singleton, weight_cons, weight_nil, weight_cons, weight_nil] at hvalue
    rw [weight_cons, weight_nil] at htok
    unfold Lexed.weight
    dsimp only
    omega
  unfold lexScript
  split
  · split
    · next hc =>
      subst hc
      split
      · next hdashes =>
        obtain ⟨r, rfl⟩ := List.isPrefixOf_iff_prefix.1 hdashes
        exact weight_verbatim_le _ rfl
      · exact (weight_pastMark_le _).trans (weight_lexRaw_le _ _ _)
    · exact weight_stretch_le _ _ c s
  · dsimp only
    split
    · exact hone _
    · split
      · exact hone _
      · split
        · next hc =>
          subst hc
          split
          · exact weight_verbatim_le _ (by rw [List.cons_append, scanScriptWord_append])
          · exact (weight_pastMark_le _).trans (weight_lexRaw_le _ _ _)
        · exact hone _
  · dsimp only
    split
    · exact hone _
    · split
      · exact hone _
      · split
        · next h =>
          simp only [Bool.and_eq_true, decide_eq_true_eq, beq_iff_eq] at h
          obtain ⟨rfl, hslash⟩ := h
          obtain ⟨r, rfl⟩ := List.head?_eq_some_iff.1 hslash
          exact weight_verbatim_le _ (by simp [scanScriptWord_append])
        · exact hone _

/-- **Cutting off a piece adds no weight.** -/
theorem weight_lex_le (content : Content) (foreign : Bool) (c : Char) (s : List Char) :
    (lex content foreign c s).weight ≤ weightOf c + weight s := by
  unfold lex
  split
  · split
    · next hc =>
      subst hc
      cases h : isBareBracket s with
      | true =>
        obtain ⟨u, v, rfl, -, hlex⟩ := lexTag_of_bare foreign h
        have htext : (Token.text ('<' :: u)).weight = weightOf '<' + weight u := weight_cons '<' u
        rw [hlex, Lexed.weight, List.map_singleton, List.sum_singleton, htext, weight_append]
        dsimp only
        omega
      | false =>
        have := weight_lexTag_le foreign h
        omega
    · split
      · next hc =>
        subst hc
        exact (weight_lexReference_le _ s).trans (Reference.weight_decode_le .text s)
      · exact weight_verbatim_le _ (by rw [List.cons_append, List.takeWhile_append_dropWhile])
  · split
    · next hc =>
      subst hc
      exact weight_lexRaw_le _ _ s
    · split
      · next hc =>
        subst hc
        exact (weight_lexReference_le _ s).trans (Reference.weight_decode_le .text s)
      · exact weight_stretch_le _ _ c s
  · split
    · next hc =>
      subst hc
      exact weight_lexRaw_le _ _ s
    · exact weight_stretch_le _ _ c s
  · exact weight_lexScript_le _ c s
  · have htok := sum_weight_ofChars_le ((c :: s).map valueChar)
    have hvalue := weight_map_valueChar_le (c :: s)
    rw [weight_cons] at hvalue
    unfold Lexed.weight
    dsimp only
    rw [weight_nil]
    omega

/-! ### Running text -/

/-- A token of running text without null characters. -/
def Token.IsRun : Token → Prop
  | space cs => ∀ c ∈ cs, isSpace c = true
  | text cs => cs ≠ [] ∧ ∀ c ∈ cs, isSpace c = false
  | malformed => True
  | _ => False

theorem isRun_of_mem_ofChars {t : Token} (hs : '\x00' ∉ s) (ht : t ∈ Token.ofChars s) :
    t.IsRun := by
  induction s generalizing t with
  | nil => exact absurd ht (by simp [Token.ofChars])
  | cons c s ih =>
    rw [List.mem_cons, not_or] at hs
    rw [Token.ofChars, List.foldr_cons, ← Token.ofChars] at ht
    unfold Token.glue at ht
    rw [if_neg (Ne.symm hs.1)] at ht
    split at ht
    · next hc =>
      split at ht
      · next cs ts h =>
        have hfirst : (Token.space cs).IsRun := ih hs.2 (h ▸ List.mem_cons_self)
        rcases List.mem_cons.1 ht with rfl | ht
        · exact List.forall_mem_cons.2 ⟨hc, hfirst⟩
        · exact ih hs.2 (h ▸ List.mem_cons_of_mem _ ht)
      · rcases List.mem_cons.1 ht with rfl | ht
        · exact List.forall_mem_cons.2 ⟨hc, by simp⟩
        · exact ih hs.2 ht
    · next hc =>
      simp only [Bool.not_eq_true] at hc
      split at ht
      · next cs ts h =>
        have hfirst : (Token.text cs).IsRun := ih hs.2 (h ▸ List.mem_cons_self)
        rcases List.mem_cons.1 ht with rfl | ht
        · exact ⟨by simp, List.forall_mem_cons.2 ⟨hc, hfirst.2⟩⟩
        · exact ih hs.2 (h ▸ List.mem_cons_of_mem _ ht)
      · rcases List.mem_cons.1 ht with rfl | ht
        · exact ⟨by simp, List.forall_mem_cons.2 ⟨hc, by simp⟩⟩
        · exact ih hs.2 ht

/-- Characters that never begin any markup. -/
theorem allStandAlone_append {u : List Char} (hu : ∀ c ∈ u, isDelicate c = false) (v : List Char) :
    allStandAlone (u ++ v) = allStandAlone v := by
  induction u with
  | nil => rfl
  | cons c u ih =>
    rw [List.forall_mem_cons] at hu
    have hc := hu.1
    simp only [isDelicate, Bool.or_eq_false_iff, beq_eq_false_iff_ne] at hc
    have halone : standsAlone c (u ++ v) = true := by
      simp [standsAlone, hc.1.1, hc.1.2, hc.2]
    rw [List.cons_append, allStandAlone, halone, ih hu.2, Bool.true_and]

/-- A null character never stands for itself. -/
theorem allStandAlone_of_null (h : '\x00' ∈ s) : allStandAlone s = false := by
  induction s with
  | nil => exact absurd h (by simp)
  | cons c s ih =>
    rw [allStandAlone]
    rcases List.mem_cons.1 h with rfl | h
    · rw [show standsAlone '\x00' s = false by simp [standsAlone], Bool.false_and]
    · rw [ih h, Bool.and_false]

/-- A piece that shows the front part `u` of the text as it is, so that the text stands for itself
exactly if what is left does. -/
structure Lexed.Copies (l : Lexed) (s u : List Char) : Prop where
  split : s = u ++ l.rest
  nonempty : u ≠ []
  content : l.content = .data
  runs : ∀ t ∈ l.tokens, t.IsRun
  chars : l.tokens.flatMap Token.chars = u
  alone : allStandAlone s = allStandAlone l.rest

theorem lexTag_spec (foreign : Bool) (s : List Char) :
    (∃ u, (lexTag foreign s).Copies ('<' :: s) u) ∨
    (allStandAlone ('<' :: s) = false ∧ (lexTag foreign s).weight < weightOf '<' + weight s) := by
  rw [allStandAlone, show standsAlone '<' s = isBareBracket s from rfl]
  cases h : isBareBracket s with
  | true =>
    obtain ⟨u, v, rfl, hu, hlex⟩ := lexTag_of_bare foreign h
    rw [hlex]
    refine .inl ⟨'<' :: u, rfl, by simp, rfl, ?_, ?_, ?_⟩
    · refine List.forall_mem_singleton.2 ⟨by simp, List.forall_mem_cons.2 ⟨by decide, ?_⟩⟩
      intro d hd
      rw [hu d hd]
      decide
    · simp [Token.chars]
    · rw [allStandAlone, show standsAlone '<' (u ++ v) = isBareBracket (u ++ v) from rfl, h,
        Bool.true_and]
      exact allStandAlone_append (fun d hd => by rw [hu d hd]; decide) v
  | false =>
    have hle := weight_lexTag_le foreign h
    have hpos : 0 < weightOf '<' := by decide
    exact .inr ⟨rfl, by omega⟩

theorem lexReference_spec (s : List Char) :
    (∃ u, (lexReference .data s).Copies ('&' :: s) u) ∨
    (allStandAlone ('&' :: s) = false ∧
      (lexReference .data s).weight < weightOf '&' + weight s) := by
  have halone : allStandAlone ('&' :: s) = (isBareAmpersand s && allStandAlone s) := rfl
  cases h : isBareAmpersand s with
  | true =>
    have hrun : (Token.text ['&']).IsRun := ⟨by simp, List.forall_mem_singleton.2 (by decide)⟩
    obtain ⟨tokens, htokens, hlex⟩ := lexReference_of_bare .data h
    rw [hlex]
    refine .inl ⟨['&'], rfl, by simp, rfl, ?_, ?_, by rw [halone, h, Bool.true_and]⟩
    · rcases htokens with rfl | rfl
      · simpa using hrun
      · simpa using ⟨trivial, hrun⟩
    · rcases htokens with rfl | rfl <;> rfl
  | false => exact .inr ⟨by rw [halone, h, Bool.false_and], weight_lexReference_lt .data h⟩

/-- A stretch up to the next bracket or ampersand: only null characters do not stand for themselves
in it. -/
theorem stretch_spec {c : Char} (hbracket : c ≠ '<') (hampersand : c ≠ '&') (s : List Char) :
    let p (d : Char) : Bool := d != '<' && d != '&'
    let l : Lexed := ⟨Token.ofChars (c :: s.takeWhile p), .data, s.dropWhile p⟩
    (∃ u, l.Copies (c :: s) u) ∨
    (allStandAlone (c :: s) = false ∧ l.weight < weightOf c + weight s) := by
  intro p l
  have hsplit : c :: s = (c :: s.takeWhile p) ++ s.dropWhile p := by
    rw [List.cons_append, List.takeWhile_append_dropWhile]
  by_cases hnull : '\x00' ∈ c :: s.takeWhile p
  · refine .inr ⟨allStandAlone_of_null (hsplit ▸ List.mem_append_left _ hnull), ?_⟩
    have htok := sum_weight_ofChars (c :: s.takeWhile p)
    have hcount := List.count_pos_iff.2 hnull
    rw [← weight_cons, hsplit, weight_append]
    show ((Token.ofChars (c :: s.takeWhile p)).map Token.weight).sum + weight (s.dropWhile p) < _
    omega
  · refine .inl ⟨c :: s.takeWhile p, hsplit, by simp, rfl,
      fun t ht => isRun_of_mem_ofChars hnull ht, Token.chars_ofChars _, ?_⟩
    rw [hsplit]
    refine allStandAlone_append (fun d hd => ?_) _
    have hd0 : d ≠ '\x00' := fun he => hnull (he ▸ hd)
    rcases List.mem_cons.1 hd with rfl | hd
    · simp [isDelicate, hbracket, hampersand, hd0]
    · have := List.mem_takeWhile_imp hd
      simp only [p, Bool.and_eq_true, bne_iff_ne] at this
      simp [isDelicate, this.1, this.2, hd0]

/-- **The next piece of running markup.**  It is text that stands for itself, or it weighs less than
the markup that it is cut off. -/
theorem lex_data_spec (foreign : Bool) (c : Char) (s : List Char) :
    (∃ u, (lex .data foreign c s).Copies (c :: s) u) ∨
    (allStandAlone (c :: s) = false ∧
      (lex .data foreign c s).weight < weightOf c + weight s) := by
  unfold lex
  dsimp only
  split
  · next hc =>
    subst hc
    exact lexTag_spec foreign s
  · next hbracket =>
    split
    · next hc =>
      subst hc
      exact lexReference_spec s
    · next hampersand => exact stretch_spec hbracket hampersand s

end PageHarvest.Html
