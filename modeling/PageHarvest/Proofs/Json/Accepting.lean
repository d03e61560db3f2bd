import PageHarvest.Proofs.Json.Fields
import PageHarvest.Proofs.Json.Reading

/-!
# Reading only what is given

Whatever the readers accept is given by the symbols that they take (`isGiven_of_read`): numbers
(`of_readNumber`), strings, by way of their pieces (`isPieces_of_readPieces`, `IsPieces.isGivenString`),
and then values, items and members at once, by induction on the depth.  With the other direction, a
value is read exactly if it is given (`read?_eq_some_iff`); in a text, exactly if the text is a way of
writing it (`ofText?_eq_some_iff`).
-/

namespace PageHarvest.Json

open Text

variable {s r : List Symbol}

/-! ### Blanks -/

theorem exists_skipBlanks (s : List Symbol) :
    ∃ b, IsBlanks b ∧ s = Symbol.ofText b ++ skipBlanks s := by
  fun_induction skipBlanks s with
  | case1 c s h ih =>
    obtain ⟨b, hb, hs⟩ := ih
    refine ⟨c :: b, List.forall_mem_cons.2 ⟨h, hb⟩, ?_⟩
    rw [Symbol.ofText_cons, List.cons_append, ← hs]
  | case2 c s h => exact ⟨[], List.forall_mem_nil _, rfl⟩
  | case3 s h => exact ⟨[], List.forall_mem_nil _, rfl⟩

/-! ### Numbers -/

theorem of_takeDigits (s : List Symbol) :
    (∀ c ∈ (takeDigits s).1, c.isDigit = true) ∧
      s = Symbol.ofText (takeDigits s).1 ++ (takeDigits s).2 := by
  fun_induction takeDigits s with
  | case1 c s h ds r hr ih =>
    rw [hr] at ih
    refine ⟨List.forall_mem_cons.2 ⟨h, ih.1⟩, ?_⟩
    rw [Symbol.ofText_cons, List.cons_append, ← ih.2]
  | case2 c s h => exact ⟨List.forall_mem_nil _, rfl⟩
  | case3 s h => exact ⟨List.forall_mem_nil _, rfl⟩

theorem of_readDigits {before w : List Char} (h : readDigits before s = some (w, r)) :
    ∃ ds, IsDigits ds ∧ w = before ++ ds ∧ s = Symbol.ofText ds ++ r := by
  obtain ⟨hdigits, hs⟩ := of_takeDigits s
  rw [readDigits] at h
  rcases htake : takeDigits s with ⟨_ | ⟨d, ds⟩, r'⟩
  · rw [htake] at h
    exact absurd h (by simp)
  · rw [htake] at h hdigits hs
    obtain ⟨rfl, rfl⟩ := Prod.mk.inj (Option.some.inj h)
    exact ⟨d :: ds, ⟨List.cons_ne_nil d ds, hdigits⟩, rfl, hs⟩

/-- A whole part that is read begins with a zero only if it is one. -/
theorem of_readWhole {w : List Char} (h : readWhole s = some (w, r)) :
    IsWhole w ∧ s = Symbol.ofText w ++ r := by
  rw [readWhole.eq_def] at h
  split at h
  · obtain ⟨rfl, rfl⟩ := Prod.mk.inj (Option.some.inj h)
    exact ⟨.zero, rfl⟩
  · next hzero =>
    obtain ⟨ds, digits, hw, rfl⟩ := of_readDigits h
    rw [List.nil_append] at hw
    subst hw
    refine ⟨.digits digits ?_, rfl⟩
    intro hhead
    obtain ⟨t, rfl⟩ : ∃ t, w = '0' :: t := List.head?_eq_some_iff.1 hhead
    exact hzero _ rfl

theorem of_readFraction {w : List Char} (h : readFraction s = some (w, r)) :
    IsFraction w ∧ s = Symbol.ofText w ++ r := by
  rw [readFraction.eq_def] at h
  split at h
  · obtain ⟨ds, digits, rfl, rfl⟩ := of_readDigits h
    exact ⟨.digits digits, rfl⟩
  · obtain ⟨rfl, rfl⟩ := Prod.mk.inj (Option.some.inj h)
    exact ⟨.absent, rfl⟩

theorem of_readExponent {w : List Char} (h : readExponent s = some (w, r)) :
    IsExponent w ∧ s = Symbol.ofText w ++ r := by
  rw [readExponent.eq_def] at h
  split at h
  · split at h
    · next hmark =>
      split at h
      · obtain ⟨ds, digits, rfl, rfl⟩ := of_readDigits h
        exact ⟨.digits hmark (.inr (.inl rfl)) digits, rfl⟩
      · obtain ⟨ds, digits, rfl, rfl⟩ := of_readDigits h
        exact ⟨.digits hmark (.inr (.inr rfl)) digits, rfl⟩
      · obtain ⟨ds, digits, rfl, rfl⟩ := of_readDigits h
        exact ⟨.digits hmark (.inl rfl) digits, rfl⟩
    · obtain ⟨rfl, rfl⟩ := Prod.mk.inj (Option.some.inj h)
      exact ⟨.absent, rfl⟩
  · obtain ⟨rfl, rfl⟩ := Prod.mk.inj (Option.some.inj h)
    exact ⟨.absent, rfl⟩

/-- The three parts of a number, after a sign or none. -/
theorem of_parts {sign whole fraction exponent : List Char} {s₁ s₂ : List Symbol}
    (hsign : sign = [] ∨ sign = ['-']) (hwhole : readWhole s = some (whole, s₁))
    (hfraction : readFraction s₁ = some (fraction, s₂))
    (hexponent : readExponent s₂ = some (exponent, r)) :
    IsNumber (sign ++ whole ++ fraction ++ exponent) ∧
      Symbol.ofText sign ++ s = Symbol.ofText (sign ++ whole ++ fraction ++ exponent) ++ r := by
  obtain ⟨iswhole, rfl⟩ := of_readWhole hwhole
  obtain ⟨isfraction, rfl⟩ := of_readFraction hfraction
  obtain ⟨isexponent, rfl⟩ := of_readExponent hexponent
  rw [List.append_assoc, List.append_assoc]
  refine ⟨.parts hsign iswhole isfraction isexponent, ?_⟩
  simp only [Symbol.ofText_append, List.append_assoc]

/-- **Whatever is read as a number is one.** -/
theorem of_readNumber {ds : List Char} (h : readNumber s = some (ds, r)) :
    IsNumber ds ∧ s = Symbol.ofText ds ++ r := by
  rw [readNumber.eq_def] at h
  dsimp only at h
  split at h
  · simp only [Option.bind_eq_bind, Option.bind_eq_some_iff, Prod.exists] at h
    obtain ⟨whole, s₁, hwhole, fraction, s₂, hfraction, exponent, s₃, hexponent, heq⟩ := h
    obtain ⟨rfl, rfl⟩ := Prod.mk.inj (Option.some.inj heq)
    exact of_parts (.inr rfl) hwhole hfraction hexponent
  · simp only [Option.bind_eq_bind, Option.bind_eq_some_iff, Prod.exists] at h
    obtain ⟨whole, s₁, hwhole, fraction, s₂, hfraction, exponent, s₃, hexponent, heq⟩ := h
    obtain ⟨rfl, rfl⟩ := Prod.mk.inj (Option.some.inj heq)
    exact of_parts (.inl rfl) hwhole hfraction hexponent

/-! ### Strings -/

/-- The pieces of a string are found in these symbols. -/
inductive IsPieces : List Piece → List Symbol → Prop
  | nil : IsPieces [] []
  | plain {c : Char} {ps : List Piece} {s : List Symbol} (visible : 0x20 ≤ c.toNat)
    (ne_quote : c ≠ '"') (ne_backslash : c ≠ '\\') (rest : IsPieces ps s) :
    IsPieces (.symbol (some c) :: ps) (some c :: s)
  | escape {c e : Char} {ps : List Piece} {s : List Symbol} (escaped : escaped? e = some c)
    (rest : IsPieces ps s) : IsPieces (.symbol (some c) :: ps) (some '\\' :: some e :: s)
  | unit {n : Nat} {ds : List Char} {ps : List Piece} {s : List Symbol} (unit : IsUnit n ds)
    (rest : IsPieces ps s) : IsPieces (.unit n :: ps) (Symbol.ofText (unitEscape ds) ++ s)
  | gap {ps : List Piece} {s : List Symbol} (rest : IsPieces ps s) :
    IsPieces (.symbol none :: ps) (none :: s)

/-- Symbols without gaps are those of a text. -/
theorem text?_eq_some_iff {t : List Char} : Symbol.text? s = some t ↔ s = Symbol.ofText t := by
  constructor
  · intro h
    induction s generalizing t with
    | nil => rw [← Option.some.inj h, Symbol.ofText_nil]
    | cons c s ih =>
      cases c with
      | none => exact absurd h (by simp [Symbol.text?])
      | some c =>
        obtain ⟨u, hu, rfl⟩ := Option.map_eq_some_iff.1 h
        rw [ih hu, Symbol.ofText_cons]
  · rintro rfl
    exact Symbol.text?_ofText t

theorem of_unit? {a b c d : Symbol} {n : Nat} (h : unit? [a, b, c, d] = some n) :
    ∃ ds, IsUnit n ds ∧ [a, b, c, d] = Symbol.ofText ds := by
  rw [unit?, Option.map_bind, Option.bind_eq_some_iff] at h
  obtain ⟨ds, hds, hn⟩ := h
  have heq := text?_eq_some_iff.1 hds
  refine ⟨ds, ⟨?_, hn⟩, heq⟩
  simpa [Symbol.ofText] using (congrArg List.length heq).symm

/-- The pieces that are read are found before the closing quote. -/
theorem isPieces_of_readPieces {ps : List Piece} (h : readPieces s = some (ps, r)) :
    ∃ u, IsPieces ps u ∧ s = u ++ some '"' :: r := by
  -- On the reader; its cases are the ways of writing a piece and those of breaking off.
  fun_induction readPieces s generalizing ps with
  | case1 => exact absurd h (by simp)
  | case2 s =>
    obtain ⟨rfl, rfl⟩ := Prod.mk.inj (Option.some.inj h)
    exact ⟨[], .nil, rfl⟩
  | case3 a b c d s ih =>
    simp only [Option.bind_eq_bind, Option.bind_eq_some_iff, Prod.exists] at h
    obtain ⟨n, hn, ps, r, hs, heq⟩ := h
    obtain ⟨rfl, rfl⟩ := Prod.mk.inj (Option.some.inj heq)
    obtain ⟨u, hu, rfl⟩ := ih hs
    obtain ⟨ds, hds, heq⟩ := of_unit? hn
    refine ⟨_, .unit hds hu, ?_⟩
    rw [unitEscape, Symbol.ofText_cons, Symbol.ofText_cons, ← heq]
    rfl
  | case4 e s hne ih =>
    simp only [Option.bind_eq_bind, Option.bind_eq_some_iff, Prod.exists] at h
    obtain ⟨c, hc, ps, r, hs, heq⟩ := h
    obtain ⟨rfl, rfl⟩ := Prod.mk.inj (Option.some.inj heq)
    obtain ⟨u, hu, rfl⟩ := ih hs
    exact ⟨_, .escape hc hu, rfl⟩
  | case5 => exact absurd h (by simp)
  | case6 => exact absurd h (by simp)
  | case7 c s hquote _ _ hbackslash hvisible ih =>
    simp only [Option.bind_eq_bind, Option.bind_eq_some_iff, Prod.exists] at h
    obtain ⟨ps, r, hs, heq⟩ := h
    obtain ⟨rfl, rfl⟩ := Prod.mk.inj (Option.some.inj heq)
    obtain ⟨u, hu, rfl⟩ := ih hs
    exact ⟨_, .plain (by omega) hquote hbackslash hu, rfl⟩
  | case8 s ih =>
    simp only [Option.bind_eq_bind, Option.bind_eq_some_iff, Prod.exists] at h
    obtain ⟨ps, r, hs, heq⟩ := h
    obtain ⟨rfl, rfl⟩ := Prod.mk.inj (Option.some.inj heq)
    obtain ⟨u, hu, rfl⟩ := ih hs
    exact ⟨_, .gap hu, rfl⟩

/-- Where the escape of a unit stands, this unit is the first piece. -/
theorem IsPieces.exists_unit {ps : List Piece} {n : Nat} {ds : List Char} (h : IsPieces ps s)
    (hunit : IsUnit n ds) (hs : Symbol.ofText (unitEscape ds) <+: s) : ∃ ps', ps = .unit n :: ps' := by
  rw [unitEscape, Symbol.ofText_cons, Symbol.ofText_cons] at hs
  cases h with
  | nil => exact absurd hs (by simp)
  | plain visible ne_quote ne_backslash rest =>
    rw [List.cons_prefix_cons] at hs
    exact absurd (Option.some.inj hs.1).symm ne_backslash
  | @escape c e ps s escaped rest =>
    rw [List.cons_prefix_cons, List.cons_prefix_cons] at hs
    obtain rfl : 'u' = e := Option.some.inj hs.2.1
    exact absurd escaped (by simp [escaped?])
  -- Both escapes have four digits, so that one in front of the other is the other.
  | @unit n' ds' ps s unit rest =>
    rw [unitEscape, Symbol.ofText_cons, Symbol.ofText_cons, List.cons_append, List.cons_append,
      List.cons_prefix_cons, List.cons_prefix_cons] at hs
    have hlen : (Symbol.ofText ds).length = (Symbol.ofText ds').length := by
      simp [Symbol.ofText, hunit.1, unit.1]
    have hbegins := List.prefix_of_prefix_length_le hs.2.2 (List.prefix_append _ s)
      (Nat.le_of_eq hlen)
    obtain rfl : ds = ds' := ofText_injective (hbegins.eq_of_length hlen)
    obtain rfl : n = n' := Option.some.inj (hunit.2.symm.trans unit.2)
    exact ⟨ps, rfl⟩
  | gap rest =>
    rw [List.cons_prefix_cons] at hs
    exact absurd hs.1 (by simp)

/-- A string is given by a text at the front, before which more text can be put. -/
theorem IsGivenString.exists_front {ss : List Symbol} (h : IsGivenString ss s) :
    ∃ ss₀ t, IsSpelled ss₀ t ∧ Symbol.ofText t <+: s ∧ ∀ x w, IsSpelled (x :: ss₀) (w ++ t) →
      IsGivenString (x :: ss) (Symbol.ofText w ++ s) := by
  cases h with
  | @text _ t spelled =>
    refine ⟨ss, t, spelled, List.prefix_rfl, ?_⟩
    intro x w hw
    rw [← Symbol.ofText_append]
    exact .text hw
  | @gap ss₀ ss' s t spelled rest =>
    refine ⟨ss₀, t, spelled, List.prefix_append _ _, ?_⟩
    intro x w hw
    rw [← List.append_assoc, ← Symbol.ofText_append]
    exact .gap hw rest

/-- Four digits of base 16 make a number of two bytes. -/
theorem lt_of_isUnit {n : Nat} {ds : List Char} (h : IsUnit n ds) : n < 0x10000 := by
  obtain ⟨a, b, c, d, rfl⟩ := h.exists_digits
  obtain ⟨-, h⟩ := h
  simp only [Option.map_eq_some_iff, List.mapM_cons, List.mapM_nil, Option.bind_eq_bind,
    Option.bind_eq_some_iff, Option.pure_def, Option.some.injEq] at h
  obtain ⟨vs, ⟨v₁, -, _, ⟨v₂, -, _, ⟨v₃, -, _, ⟨v₄, -, _, rfl, rfl⟩, rfl⟩, rfl⟩, rfl⟩, rfl⟩ := h
  have hn : Hex.ofDigits [v₁, v₂, v₃, v₄] = 16 * (16 * (16 * (16 * 0 + v₁) + v₂) + v₃) + v₄ := rfl
  omega

/-- A unit that names no character is half of a pair. -/
theorem half_of_unitChar? {n : Nat} (hn : n < 0x10000) (h : unitChar? n = none) :
    IsLead n ∨ IsTrail n := by
  have hinvalid : ¬(n < 0xD800 ∨ 0xDFFF < n ∧ n < 0x110000) := by
    intro hvalid
    rw [unitChar?, dif_pos hvalid] at h
    exact Option.some_ne_none _ h
  by_cases hlead : n < 0xDC00
  · exact .inl ⟨by omega, hlead⟩
  · exact .inr ⟨by omega, by omega⟩

/-- The character that a unit names has its number. -/
theorem eq_of_unitChar? {n : Nat} {c : Char} (h : unitChar? n = some c) : c.toNat = n := by
  by_cases hvalid : n.isValidChar
  · rw [unitChar?, dif_pos hvalid] at h
    rw [← Option.some.inj h]
    rfl
  · rw [unitChar?, dif_neg hvalid] at h
    exact absurd h (by simp)

/-- A unit without its partner behind it. -/
theorem IsGivenString.unit {ss : List Symbol} {n : Nat} {ds : List Char} (h : IsGivenString ss s)
    (unit : IsUnit n ds)
    (alone : IsLead n → ∀ m es, IsUnit m es → IsTrail m → ¬Symbol.ofText (unitEscape es) <+: s) :
    IsGivenString (unitChar? n :: ss) (Symbol.ofText (unitEscape ds) ++ s) := by
  obtain ⟨ss₀, t, spelled, hfront, hcons⟩ := h.exists_front
  apply hcons
  cases hchar : unitChar? n with
  | some c => exact .unit (eq_of_unitChar? hchar ▸ unit) spelled
  | none =>
    refine .half unit (half_of_unitChar? (lt_of_isUnit unit) hchar) ?_ spelled
    rintro lead ⟨m, es, hes, trail, hbegins⟩
    exact alone lead m es hes trail ((hbegins.map some).trans hfront)

/-- Pieces that are found in some symbols give the string that they are joined to. -/
theorem IsPieces.isGivenString {ps : List Piece} (h : IsPieces ps s) :
    IsGivenString (joinUnits ps) s := by
  -- On the joining, which looks at two pieces at a time.
  fun_induction joinUnits ps generalizing s with
  | case1 =>
    cases h
    exact .text .nil
  | case2 c ps ih =>
    cases h with
    | plain visible ne_quote ne_backslash rest =>
      obtain ⟨ss₀, t, spelled, -, hcons⟩ := (ih rest).exists_front
      exact hcons _ [_] (.plain visible ne_quote ne_backslash spelled)
    | escape escaped rest =>
      obtain ⟨ss₀, t, spelled, -, hcons⟩ := (ih rest).exists_front
      exact hcons _ ['\\', _] (.escape escaped spelled)
    | gap rest => exact .gap .nil (ih rest)
  | case3 m n ps hpair ih =>
    cases h with
    | @unit _ ds _ _ first rest =>
      cases rest with
      | @unit _ es _ _ second rest =>
        obtain ⟨ss₀, t, spelled, -, hcons⟩ := (ih rest).exists_front
        have hgiven := hcons _ (unitEscape ds ++ unitEscape es) (by
          rw [List.append_assoc]
          exact .pair first second ⟨hpair.1, hpair.2.1⟩ ⟨hpair.2.2.1, hpair.2.2.2⟩ spelled)
        rw [Symbol.ofText_append, List.append_assoc] at hgiven
        exact hgiven
  -- Two units that are no pair: the second one is what the first would need behind it.
  | case4 n m ps hpair ih =>
    cases h with
    | unit unit rest =>
      refine (ih rest).unit unit ?_
      intro lead m' es hes trail hbegins
      obtain ⟨ps', heq⟩ := rest.exists_unit hes hbegins
      obtain rfl : m = m' := Piece.unit.inj (List.cons.inj heq).1
      exact hpair ⟨lead.1, lead.2, trail.1, trail.2⟩
  -- No unit comes behind this one, and so no escape of one does.
  | case5 n ps hlast ih =>
    cases h with
    | unit unit rest =>
      refine (ih rest).unit unit ?_
      intro lead m es hes trail hbegins
      obtain ⟨ps', heq⟩ := rest.exists_unit hes hbegins
      exact hlast m ps' heq

/-- **Whatever is read as a string is given by the symbols up to the quote.** -/
theorem of_readString {ss : List Symbol} (h : readString s = some (ss, r)) :
    ∃ u, IsGivenString ss u ∧ s = u ++ some '"' :: r := by
  obtain ⟨⟨ps, r⟩, hread, heq⟩ := Option.map_eq_some_iff.1 h
  obtain ⟨rfl, rfl⟩ := Prod.mk.inj heq
  obtain ⟨u, hpieces, rfl⟩ := isPieces_of_readPieces hread
  exact ⟨u, hpieces.isGivenString, rfl⟩

/-! ### Values -/

section

variable {vs : List Value} {ms : List (List Symbol × Value)} {b : List Char}

theorem isBlanks_append {b b' : List Char} (h : IsBlanks b) (h' : IsBlanks b') :
    IsBlanks (b ++ b') := by
  intro c hc
  rcases List.mem_append.1 hc with hc | hc
  · exact h c hc
  · exact h' c hc

/-- More blanks can stand before the first item. -/
theorem isGiven_items_blanks (hb : IsBlanks b) (h : (Part.items vs).IsGiven s) :
    (Part.items vs).IsGiven (Symbol.ofText b ++ s) := by
  cases h with
  | lastItem before after item =>
    rw [← List.append_assoc, ← Symbol.ofText_append]
    exact .lastItem (isBlanks_append hb before) after item
  | item before after item rest =>
    rw [← List.append_assoc, ← Symbol.ofText_append]
    exact .item (isBlanks_append hb before) after item rest

theorem isGiven_members_blanks (hb : IsBlanks b) (h : (Part.members ms).IsGiven s) :
    (Part.members ms).IsGiven (Symbol.ofText b ++ s) := by
  cases h with
  | lastMember before beforeColon afterColon after name item =>
    rw [← List.append_assoc, ← Symbol.ofText_append]
    exact .lastMember (isBlanks_append hb before) beforeColon afterColon after name item
  | member before beforeColon afterColon after name item rest =>
    rw [← List.append_assoc, ← Symbol.ofText_append]
    exact .member (isBlanks_append hb before) beforeColon afterColon after name item rest

end

/-- A word that is read stands there letter by letter. -/
theorem of_readWord {word : String} {v w : Value} (h : readWord word v s = some (w, r)) :
    w = v ∧ s = Symbol.ofText word.toList ++ r := by
  rw [readWord, Option.ite_none_right_eq_some] at h
  obtain ⟨hbegins, heq⟩ := h
  obtain ⟨rfl, rfl⟩ := Prod.mk.inj (Option.some.inj heq)
  refine ⟨rfl, ?_⟩
  exact (List.prefix_iff_eq_append.1 (List.isPrefixOf_iff_prefix.1 hbegins)).symm

/-- What the readers take at a depth is given by what they take: a value after blanks, items and
members. -/
structure ReadsGiven (n : Nat) : Prop where
  value : ∀ {s v r}, readValue n s = some (v, r) →
    ∃ b t, IsBlanks b ∧ (Part.value v).IsGiven t ∧ s = Symbol.ofText b ++ (t ++ r)
  items : ∀ {s vs r}, readItems n s = some (vs, r) → ∃ t, (Part.items vs).IsGiven t ∧ s = t ++ r
  members : ∀ {s ms r}, readMembers n s = some (ms, r) →
    ∃ t, (Part.members ms).IsGiven t ∧ s = t ++ r

variable {n : Nat}

/-- A value without blanks in front, one depth further. -/
theorem ReadsGiven.exists_value (h : ReadsGiven n) {v : Value}
    (hv : readValue (n + 1) s = some (v, r)) :
    ∃ t, (Part.value v).IsGiven t ∧ skipBlanks s = t ++ r := by
  rw [readValue] at hv
  -- One case for each symbol that a value may begin with, and numbers for all that is left.
  split at hv
  · next u hu =>
    rw [hu]
    obtain ⟨⟨ss, r⟩, hread, heq⟩ := Option.map_eq_some_iff.1 hv
    obtain ⟨rfl, rfl⟩ := Prod.mk.inj heq
    obtain ⟨t, ht, rfl⟩ := of_readString hread
    exact ⟨_, .string ht, by simp⟩
  · next u hu =>
    rw [hu]
    obtain ⟨b, hb, hblanks⟩ := exists_skipBlanks u
    split at hv
    · next w hw =>
      obtain ⟨rfl, rfl⟩ := Prod.mk.inj (Option.some.inj hv)
      rw [hblanks, hw]
      exact ⟨_, .emptyArray hb, by simp⟩
    · obtain ⟨⟨vs, r⟩, hread, heq⟩ := Option.map_eq_some_iff.1 hv
      obtain ⟨rfl, rfl⟩ := Prod.mk.inj heq
      obtain ⟨t, ht, hrest⟩ := h.items hread
      rw [hblanks, hrest]
      exact ⟨_, .array (isGiven_items_blanks hb ht), by simp⟩
  · next u hu =>
    rw [hu]
    obtain ⟨b, hb, hblanks⟩ := exists_skipBlanks u
    split at hv
    · next w hw =>
      obtain ⟨rfl, rfl⟩ := Prod.mk.inj (Option.some.inj hv)
      rw [hblanks, hw]
      exact ⟨_, .emptyObject hb, by simp⟩
    · obtain ⟨⟨ms, r⟩, hread, heq⟩ := Option.map_eq_some_iff.1 hv
      obtain ⟨rfl, rfl⟩ := Prod.mk.inj heq
      obtain ⟨t, ht, hrest⟩ := h.members hread
      rw [hblanks, hrest]
      exact ⟨_, .object (isGiven_members_blanks hb ht), by simp⟩
  · next u hu =>
    rw [hu]
    obtain ⟨rfl, rfl⟩ := of_readWord hv
    exact ⟨_, .null, rfl⟩
  · next u hu =>
    rw [hu]
    obtain ⟨rfl, rfl⟩ := of_readWord hv
    exact ⟨_, .yes, rfl⟩
  · next u hu =>
    rw [hu]
    obtain ⟨rfl, rfl⟩ := of_readWord hv
    exact ⟨_, .no, rfl⟩
  · obtain ⟨⟨ds, r⟩, hread, heq⟩ := Option.map_eq_some_iff.1 hv
    obtain ⟨rfl, rfl⟩ := Prod.mk.inj heq
    obtain ⟨hnumber, hs⟩ := of_readNumber hread
    exact ⟨_, .number hnumber, hs⟩

/-- Items, one depth further. -/
theorem ReadsGiven.exists_items (h : ReadsGiven n) {vs : List Value}
    (hvs : readItems (n + 1) s = some (vs, r)) : ∃ t, (Part.items vs).IsGiven t ∧ s = t ++ r := by
  rw [readItems, Option.bind_eq_bind, Option.bind_eq_some_iff] at hvs
  obtain ⟨⟨v, u⟩, hv, hrest⟩ := hvs
  obtain ⟨b, t, hb, ht, rfl⟩ := h.value hv
  obtain ⟨b', hb', hblanks⟩ := exists_skipBlanks u
  dsimp only at hrest
  split at hrest
  · next w hw =>
    obtain ⟨⟨vs, r⟩, hread, heq⟩ := Option.map_eq_some_iff.1 hrest
    obtain ⟨rfl, rfl⟩ := Prod.mk.inj heq
    obtain ⟨t', ht', rfl⟩ := h.items hread
    rw [hblanks, hw]
    exact ⟨_, .item hb hb' ht ht', by simp⟩
  · next w hw =>
    obtain ⟨rfl, rfl⟩ := Prod.mk.inj (Option.some.inj hrest)
    rw [hblanks, hw]
    exact ⟨_, .lastItem hb hb' ht, by simp⟩
  · exact absurd hrest (by simp)

/-- Members, one depth further. -/
theorem ReadsGiven.exists_members (h : ReadsGiven n) {ms : List (List Symbol × Value)}
    (hms : readMembers (n + 1) s = some (ms, r)) :
    ∃ t, (Part.members ms).IsGiven t ∧ s = t ++ r := by
  -- There are four places for blanks, numbered in their order.
  obtain ⟨b₁, hb₁, hblanks₁⟩ := exists_skipBlanks s
  rw [readMembers] at hms
  split at hms
  · next s₁ hs₁ =>
    rw [Option.bind_eq_bind, Option.bind_eq_some_iff] at hms
    obtain ⟨⟨k, s₂⟩, hk, hms⟩ := hms
    obtain ⟨name, hname, rfl⟩ := of_readString hk
    obtain ⟨b₂, hb₂, hblanks₂⟩ := exists_skipBlanks s₂
    dsimp only at hms
    split at hms
    · next s₃ hs₃ =>
      rw [Option.bind_eq_bind, Option.bind_eq_some_iff] at hms
      obtain ⟨⟨v, s₄⟩, hv, hms⟩ := hms
      obtain ⟨b₃, t, hb₃, ht, rfl⟩ := h.value hv
      obtain ⟨b₄, hb₄, hblanks₄⟩ := exists_skipBlanks s₄
      dsimp only at hms
      rw [hblanks₁, hs₁, hblanks₂, hs₃, hblanks₄]
      split at hms
      · next s₅ hs₅ =>
        obtain ⟨⟨ms, r⟩, hread, heq⟩ := Option.map_eq_some_iff.1 hms
        obtain ⟨rfl, rfl⟩ := Prod.mk.inj heq
        obtain ⟨t', ht', rfl⟩ := h.members hread
        rw [hs₅]
        exact ⟨_, .member hb₁ hb₂ hb₃ hb₄ hname ht ht', by simp⟩
      · next s₅ hs₅ =>
        obtain ⟨rfl, rfl⟩ := Prod.mk.inj (Option.some.inj hms)
        rw [hs₅]
        exact ⟨_, .lastMember hb₁ hb₂ hb₃ hb₄ hname ht, by simp⟩
      · exact absurd hms (by simp)
    · exact absurd hms (by simp)
  · exact absurd hms (by simp)

/-- **The readers take nothing but what is given.** -/
theorem readsGiven (n : Nat) : ReadsGiven n := by
  -- On the depth. Nothing is read at depth zero.
  induction n with
  | zero =>
    exact ⟨fun h => absurd h (by simp [readValue]), fun h => absurd h (by simp [readItems]),
      fun h => absurd h (by simp [readMembers])⟩
  | succ n ih =>
    refine ⟨?_, ih.exists_items, ih.exists_members⟩
    intro s v r hv
    obtain ⟨b, hb, hblanks⟩ := exists_skipBlanks s
    obtain ⟨t, ht, hrest⟩ := ih.exists_value hv
    exact ⟨b, t, hb, ht, by rw [← hrest, ← hblanks]⟩

/-- **A value is read exactly if it is given.** -/
theorem read?_eq_some_iff {v : Value} : Value.read? s = some v ↔ v.IsGivenBy s := by
  constructor
  · intro h
    rw [Value.read?] at h
    split at h
    · next w r hread =>
      rw [Option.ite_none_right_eq_some] at h
      obtain ⟨hrest, heq⟩ := h
      obtain rfl := Option.some.inj heq
      obtain ⟨b, t, hb, ht, rfl⟩ := (readsGiven _).value hread
      obtain ⟨b', hb', hblanks⟩ := exists_skipBlanks r
      rw [List.isEmpty_iff.1 hrest, List.append_nil] at hblanks
      exact ⟨b, t, b', hb, ht, hb', by rw [← hblanks]⟩
    · exact absurd h (by simp)
  · exact read?_of_isGivenBy

/-! ### Texts -/

/-- The characters of some symbols. -/
def characters (s : List Symbol) : List Char := s.filterMap id

@[simp] theorem characters_nil : characters [] = [] := rfl

@[simp] theorem characters_cons (c : Char) (s : List Symbol) :
    characters (some c :: s) = c :: characters s := rfl

@[simp] theorem characters_append (s r : List Symbol) :
    characters (s ++ r) = characters s ++ characters r :=
  List.filterMap_append

@[simp] theorem characters_ofText (t : List Char) : characters (Symbol.ofText t) = t := by
  simp [characters, Symbol.ofText, List.filterMap_map]

/-- A string without gaps is spelled by its characters. -/
theorem isSpelled_of_isGivenString {ss : List Symbol} (h : IsGivenString ss s) (hs : none ∉ s) :
    IsSpelled ss (characters s) := by
  cases h with
  | text spelled =>
    rw [characters_ofText]
    exact spelled
  | gap spelled rest => exact absurd (List.mem_append_right _ List.mem_cons_self) hs

/-- What is given by symbols without gaps is written in their characters. -/
theorem isWritten_of_isGiven {p : Part} (h : p.IsGiven s) (hs : none ∉ s) :
    p.IsWritten (characters s) := by
  induction h with
  | null => exact .null
  | yes => exact .yes
  | no => exact .no
  | number number =>
    rw [characters_ofText]
    exact .number number
  | string given =>
    have hspelled := isSpelled_of_isGivenString given fun h => hs (by simp [h])
    simpa using Part.IsWritten.string hspelled
  | emptyArray blanks => simpa using Part.IsWritten.emptyArray blanks
  | array items ih => exact .array (ih fun h => hs (by simp [h]))
  | emptyObject blanks => simpa using Part.IsWritten.emptyObject blanks
  | object members ih => exact .object (ih fun h => hs (by simp [h]))
  | lastItem before after item ih =>
    have hitem := ih fun h => hs (by simp [h])
    simpa using Part.IsWritten.lastItem before after hitem
  | item before after item rest ihv ih =>
    have hitem := ihv fun h => hs (by simp [h])
    have hrest := ih fun h => hs (by simp [h])
    simpa using Part.IsWritten.item before after hitem hrest
  | lastMember before beforeColon afterColon after name item ih =>
    have hname := isSpelled_of_isGivenString name fun h => hs (by simp [h])
    have hitem := ih fun h => hs (by simp [h])
    simpa using Part.IsWritten.lastMember before beforeColon afterColon after hname hitem
  | member before beforeColon afterColon after name item rest ihv ih =>
    have hname := isSpelled_of_isGivenString name fun h => hs (by simp [h])
    have hitem := ihv fun h => hs (by simp [h])
    have hrest := ih fun h => hs (by simp [h])
    simpa using Part.IsWritten.member before beforeColon afterColon after hname hitem hrest

theorem none_not_mem_ofText (t : List Char) : none ∉ Symbol.ofText t := by
  simp [Symbol.ofText]

/-- The symbols of a text give a value exactly if the text is a way of writing it. -/
theorem isGivenBy_ofText_iff {v : Value} {t : List Char} :
    v.IsGivenBy (Symbol.ofText t) ↔ v.IsWrittenAs t := by
  constructor
  · rintro ⟨b, u, b', before, given, after, ht⟩
    have hgaps : none ∉ u := by
      intro h
      exact none_not_mem_ofText t (by simp [ht, h])
    refine ⟨b, characters u, b', before, isWritten_of_isGiven given hgaps, after, ?_⟩
    -- Taking the characters gives back the text on both sides.
    have hcharacters := congrArg characters ht
    simpa using hcharacters
  · exact isGivenBy_of_isWrittenAs

/-- **A text denotes a value exactly if it is a way of writing it.** -/
theorem ofText?_eq_some_iff {v : Value} {t : List Char} :
    Value.ofText? t = some v ↔ v.IsWrittenAs t := by
  rw [Value.ofText?, read?_eq_some_iff, isGivenBy_ofText_iff]

end PageHarvest.Json
