import PageHarvest.Json.Gaps

/-!
# Reading what is written

Each way of giving a value by symbols is read as that value (`read?_of_isGivenBy`), and so is each way of
writing it in a text (`ofText?_of_isWrittenAs`).  The parts are read one after the other, each with the
symbols after it left over: numbers (`readNumber_append`), strings (`readString_append`), and then
values, items and members at once (`isReadFrom_of_isGiven`), by induction on how they are given.  The
depth that the readers are allowed covers the number of symbols.
-/

namespace PageHarvest.Json

open Text

variable {r : List Symbol}

/-! ### Blanks -/

/-- Blanks at the front are passed over. -/
theorem skipBlanks_append {b : List Char} (h : IsBlanks b) (r : List Symbol) :
    skipBlanks (Symbol.ofText b ++ r) = skipBlanks r := by
  induction b with
  | nil => rfl
  | cons c b ih =>
    rw [Symbol.ofText_cons, List.cons_append, skipBlanks, if_pos (h c List.mem_cons_self)]
    exact ih fun d hd => h d (List.mem_cons_of_mem c hd)

theorem skipBlanks_cons {c : Char} (h : isBlank c = false) (r : List Symbol) :
    skipBlanks (some c :: r) = some c :: r := by
  rw [skipBlanks, if_neg (by simp [h])]

theorem skipBlanks_skipBlanks (r : List Symbol) : skipBlanks (skipBlanks r) = skipBlanks r := by
  fun_induction skipBlanks r with
  | case1 c r h ih => exact ih
  | case2 c r h => exact skipBlanks_cons (by simpa using h) r
  | case3 r h =>
    rw [skipBlanks]
    exact h

/-! ### Numbers -/

/-- The symbols do not go on with one of these characters. -/
def StopsAt (p : Char → Prop) (r : List Symbol) : Prop := ∀ c, r.head? = some (some c) → ¬p c

theorem StopsAt.cons {p : Char → Prop} {c : Char} (h : ¬p c) (r : List Symbol) :
    StopsAt p (some c :: r) := by
  intro d hd
  obtain rfl : c = d := by simpa using hd
  exact h

theorem StopsAt.mono {p q : Char → Prop} (h : StopsAt q r) (hpq : ∀ c, p c → q c) :
    StopsAt p r :=
  fun c hc hp => h c hc (hpq c hp)

/-- Digits are taken up to where they stop. -/
theorem takeDigits_append {ds : List Char} (h : ∀ c ∈ ds, c.isDigit = true)
    (hr : StopsAt (·.isDigit = true) r) :
    takeDigits (Symbol.ofText ds ++ r) = (ds, r) := by
  induction ds with
  | nil =>
    rw [Symbol.ofText_nil, List.nil_append, takeDigits.eq_def]
    split
    · next c s =>
      rw [if_neg (hr c rfl)]
    · rfl
  | cons c ds ih =>
    rw [List.forall_mem_cons] at h
    rw [Symbol.ofText_cons, List.cons_append, takeDigits, if_pos h.1, ih h.2]

/-- Digits are read, where there is one at least. -/
theorem readDigits_append {ds : List Char} (h : IsDigits ds) (hr : StopsAt (·.isDigit = true) r)
    (before : List Char) :
    readDigits before (Symbol.ofText ds ++ r) = some (before ++ ds, r) := by
  rw [readDigits, takeDigits_append h.2 hr]
  cases ds with
  | nil => exact absurd rfl h.1
  | cons c ds => rfl

/-- A whole part is read; after a zero it goes no further. -/
theorem readWhole_append {ds : List Char} (h : IsWhole ds) (hr : StopsAt (·.isDigit = true) r) :
    readWhole (Symbol.ofText ds ++ r) = some (ds, r) := by
  cases h with
  -- After a zero the whole part is over, whatever comes next.
  | zero => rfl
  | digits digits nonzero =>
    have hread := readDigits_append digits hr []
    cases ds with
    | nil => exact absurd rfl digits.1
    | cons d ds =>
      have hd : d ≠ '0' := by simpa using nonzero
      rw [Symbol.ofText_cons, List.cons_append] at hread ⊢
      rw [readWhole.eq_def]
      split
      · next heq => simp [hd] at heq
      · exact hread

/-- The characters that a number can go on with after its whole part. -/
def GoesOn (c : Char) : Prop := c.isDigit = true ∨ c = '.' ∨ c = 'e' ∨ c = 'E'

/-- A fraction is read, or its absence. -/
theorem readFraction_append {ds : List Char} (h : IsFraction ds)
    (hr : StopsAt (fun c => c.isDigit = true ∨ c = '.') r) :
    readFraction (Symbol.ofText ds ++ r) = some (ds, r) := by
  cases h with
  | absent =>
    rw [Symbol.ofText_nil, List.nil_append, readFraction.eq_def]
    split
    · exact absurd (.inr rfl) (hr '.' rfl)
    · rfl
  | digits digits => exact readDigits_append digits (hr.mono fun c hc => .inl hc) ['.']

/-- An exponent is read, with a sign or without, or its absence. -/
theorem readExponent_append {ds : List Char} (h : IsExponent ds) (hr : StopsAt GoesOn r) :
    readExponent (Symbol.ofText ds ++ r) = some (ds, r) := by
  cases h with
  | absent =>
    rw [Symbol.ofText_nil, List.nil_append, readExponent.eq_def]
    split
    · next c s =>
      rw [if_neg]
      exact fun hc => hr c rfl (.inr (.inr hc))
    · rfl
  | @digits mark sign ds mark_eq sign_eq digits =>
    have hread := readDigits_append digits (hr.mono fun c hc => .inl hc)
    rw [Symbol.ofText_cons, List.cons_append, Symbol.ofText_append, List.append_assoc,
      readExponent.eq_def]
    dsimp only
    rw [if_pos mark_eq]
    rcases sign_eq with rfl | rfl | rfl
    · -- Without a sign, the first digit is neither of them.
      cases ds with
      | nil => exact absurd rfl digits.1
      | cons d ds =>
        have hd : d.isDigit = true := digits.2 d List.mem_cons_self
        split
        · next heq =>
          obtain rfl : d = '+' := by simpa using congrArg List.head? heq
          exact absurd hd (by decide)
        · next heq =>
          obtain rfl : d = '-' := by simpa using congrArg List.head? heq
          exact absurd hd (by decide)
        · exact hread [mark]
    · exact hread [mark, '+']
    · exact hread [mark, '-']

/-- The fraction is over where the exponent begins. -/
theorem stopsAt_exponent {ds : List Char} (h : IsExponent ds) (hr : StopsAt GoesOn r) :
    StopsAt (fun c => c.isDigit = true ∨ c = '.') (Symbol.ofText ds ++ r) := by
  cases h with
  | absent => exact hr.mono fun c hc => by rcases hc with hc | rfl <;> simp [GoesOn, *]
  | digits mark_eq sign_eq digits =>
    refine .cons ?_ _
    rcases mark_eq with rfl | rfl <;> decide

/-- The whole part is over where the fraction begins. -/
theorem stopsAt_fraction {ds : List Char} (h : IsFraction ds)
    (hr : StopsAt (fun c => c.isDigit = true ∨ c = '.') r) :
    StopsAt (·.isDigit = true) (Symbol.ofText ds ++ r) := by
  cases h with
  | absent => exact hr.mono fun c hc => .inl hc
  | digits digits => exact .cons (by decide) _

/-- A whole part begins with a digit. -/
theorem head?_whole {ds : List Char} (h : IsWhole ds) : ∃ d ∈ ds.head?, d.isDigit = true := by
  cases h with
  | zero => exact ⟨'0', rfl, rfl⟩
  | digits digits nonzero =>
    cases ds with
    | nil => exact absurd rfl digits.1
    | cons d ds => exact ⟨d, rfl, digits.2 d List.mem_cons_self⟩

/-- A number begins with a digit or with a sign. -/
theorem exists_head_of_isNumber {ds : List Char} (h : IsNumber ds) :
    ∃ c t, ds = c :: t ∧ (c.isDigit = true ∨ c = '-') := by
  obtain ⟨sign_eq, whole, -, -⟩ := h
  rcases sign_eq with rfl | rfl
  · obtain ⟨d, hd, hdigit⟩ := head?_whole whole
    obtain ⟨t, rfl⟩ : ∃ t, _ = d :: t := List.head?_eq_some_iff.1 hd
    exact ⟨d, _, rfl, .inl hdigit⟩
  · exact ⟨'-', _, rfl, .inr rfl⟩

/-- **A number is read**, where nothing follows that it could go on with. -/
theorem readNumber_append {ds : List Char} (h : IsNumber ds) (hr : StopsAt GoesOn r) :
    readNumber (Symbol.ofText ds ++ r) = some (ds, r) := by
  obtain @⟨sign, ds, es, fs, sign_eq, whole, fraction, exponent⟩ := h
  -- From the back, as each part has to stop where the next one begins.
  have hexponent := readExponent_append exponent hr
  have hstop := stopsAt_exponent exponent hr
  have hfraction := readFraction_append fraction hstop
  have hwhole := readWhole_append whole (stopsAt_fraction fraction hstop)
  simp only [Symbol.ofText_append, List.append_assoc]
  rcases sign_eq with rfl | rfl
  · -- Without a sign, the number begins with the first digit of the whole part.
    obtain ⟨d, hd, hdigit⟩ := head?_whole whole
    obtain ⟨t, rfl⟩ : ∃ t, ds = d :: t := List.head?_eq_some_iff.1 hd
    rw [Symbol.ofText_nil, List.nil_append, readNumber]
    · simp only [hwhole, hfraction, hexponent, Option.bind_eq_bind, Option.bind_some,
        List.nil_append, List.append_assoc]
    · intro s heq
      obtain rfl : d = '-' := by simpa using congrArg List.head? heq
      exact absurd hdigit (by decide)
  · rw [Symbol.ofText_cons, Symbol.ofText_nil, List.cons_append, List.nil_append, readNumber]
    simp only [hwhole, hfraction, hexponent, Option.bind_eq_bind, Option.bind_some,
      List.append_assoc]

/-! ### Strings -/

theorem unit?_ofText {n : Nat} {ds : List Char} (h : IsUnit n ds) :
    unit? (Symbol.ofText ds) = some n := by
  rw [unit?, Symbol.text?_ofText]
  exact h.2

/-- The four digits of a unit one by one. -/
theorem IsUnit.exists_digits {n : Nat} {ds : List Char} (h : IsUnit n ds) :
    ∃ a b c d, ds = [a, b, c, d] := by
  obtain ⟨hlen, -⟩ := h
  match ds, hlen with
  | [a, b, c, d], _ => exact ⟨a, b, c, d, rfl⟩

/-- The escape of a unit. -/
theorem readPieces_unitEscape {n : Nat} {ds : List Char} (h : IsUnit n ds) {s : List Symbol}
    {ps : List Piece} (hs : readPieces s = some (ps, r)) :
    readPieces (Symbol.ofText (unitEscape ds) ++ s) = some (.unit n :: ps, r) := by
  have hunit := unit?_ofText h
  obtain ⟨a, b, c, d, rfl⟩ := h.exists_digits
  simp only [unitEscape, Symbol.ofText_cons, Symbol.ofText_nil, List.cons_append, List.nil_append]
    at hunit ⊢
  rw [readPieces]
  simp only [hunit, hs, Option.bind_eq_bind, Option.bind_some]

/-- A character that stands for itself. -/
theorem readPieces_plain {c : Char} (hv : 0x20 ≤ c.toNat) (hq : c ≠ '"') (hb : c ≠ '\\')
    {s : List Symbol} {ps : List Piece} (hs : readPieces s = some (ps, r)) :
    readPieces (some c :: s) = some (.symbol (some c) :: ps, r) := by
  rw [readPieces.eq_def]
  split
  · next heq => simp at heq
  · next heq => simp [hq] at heq
  · next heq => simp [hb] at heq
  · next heq => simp [hb] at heq
  · next heq => simp [hb] at heq
  · next heq =>
    obtain ⟨rfl, rfl⟩ : c = _ ∧ s = _ := by simpa using heq
    rw [if_neg (by omega), hs]
    rfl
  · next heq => simp at heq

/-- A short escape. -/
theorem readPieces_escape {c e : Char} (h : escaped? e = some c) {s : List Symbol}
    {ps : List Piece} (hs : readPieces s = some (ps, r)) :
    readPieces (some '\\' :: some e :: s) = some (.symbol (some c) :: ps, r) := by
  -- A unit has an escape of its own, which would come first.
  have he : e ≠ 'u' := by
    rintro rfl
    have hnone : escaped? 'u' = none := by decide
    rw [hnone] at h
    exact absurd h (by simp)
  rw [readPieces]
  · simp only [h, hs, Option.bind_eq_bind, Option.bind_some]
  · intro a b c d t _ hu
    exact he hu

theorem joinUnits_symbol (s : Symbol) (ps : List Piece) :
    joinUnits (.symbol s :: ps) = s :: joinUnits ps := by
  rw [joinUnits]

/-- A unit that is not followed by its partner stands alone. -/
theorem joinUnits_unit {n : Nat} {ps : List Piece}
    (h : IsLead n → ∀ m ps', ps = .unit m :: ps' → ¬IsTrail m) :
    joinUnits (.unit n :: ps) = unitChar? n :: joinUnits ps := by
  rw [joinUnits.eq_def]
  split
  · next heq => simp at heq
  · next heq => simp at heq
  · next n' m ps' heq =>
    obtain ⟨rfl, rfl⟩ : n = n' ∧ ps = .unit m :: ps' := by simpa using heq
    rw [if_neg]
    rintro ⟨h₁, h₂, h₃, h₄⟩
    exact h ⟨h₁, h₂⟩ m ps' rfl ⟨h₃, h₄⟩
  · next n' ps' _ heq =>
    obtain ⟨rfl, rfl⟩ : n = n' ∧ ps = ps' := by simpa using heq
    rfl

/-- The two halves of a pair make one character. -/
theorem joinUnits_pair {m n : Nat} (hm : IsLead m) (hn : IsTrail n) (ps : List Piece) :
    joinUnits (.unit m :: .unit n :: ps) = some (pairChar m n) :: joinUnits ps := by
  rw [joinUnits, if_pos ⟨hm.1, hm.2, hn.1, hn.2⟩]
  rfl

theorem unitChar?_toNat (c : Char) : unitChar? c.toNat = some c := by
  have hvalid : c.toNat.isValidChar := c.valid
  rw [unitChar?, dif_pos hvalid]
  rfl

/-- No character has the number of half a pair. -/
theorem not_isHalf_toNat (c : Char) : ¬(IsLead c.toNat ∨ IsTrail c.toNat) := by
  have hvalid : c.toNat < 0xD800 ∨ 0xDFFF < c.toNat ∧ c.toNat < 0x110000 := c.valid
  rintro (⟨hl, hu⟩ | ⟨hl, hu⟩) <;> omega

/-- Half a pair is no character. -/
theorem unitChar?_of_half {n : Nat} (h : IsLead n ∨ IsTrail n) : unitChar? n = none := by
  rw [unitChar?, dif_neg]
  rintro (hn | ⟨hn, -⟩)
  · rcases h with ⟨h, -⟩ | ⟨h, -⟩ <;> omega
  · rcases h with ⟨-, h⟩ | ⟨-, h⟩ <;> omega

/-- The parts of a string as it is written, before other parts that do not begin with a unit.  The first
part is a unit only if its escape stands there. -/
theorem exists_readPieces_append {ss s : List Symbol} {t : List Char} {qs : List Piece}
    (h : IsSpelled ss t) (hs : readPieces s = some (qs, r)) (hqs : ∀ m qs', qs ≠ .unit m :: qs') :
    ∃ ps, readPieces (Symbol.ofText t ++ s) = some (ps, r) ∧ joinUnits ps = ss ++ joinUnits qs ∧
      ∀ m ps', ps = .unit m :: ps' → ∃ ds, IsUnit m ds ∧ unitEscape ds <+: t := by
  -- On the spelling, one case for each way of writing a symbol; only the last one looks ahead.
  induction h with
  | nil => exact ⟨qs, hs, rfl, fun m ps' h => absurd h (hqs m ps')⟩
  | @plain c ss t visible ne_quote ne_backslash rest ih =>
    obtain ⟨ps, hread, hjoin, -⟩ := ih
    refine ⟨_, readPieces_plain visible ne_quote ne_backslash hread, ?_, fun m ps' h => by simp at h⟩
    rw [joinUnits_symbol, hjoin, List.cons_append]
  | @escape c e ss t escaped rest ih =>
    obtain ⟨ps, hread, hjoin, -⟩ := ih
    refine ⟨_, readPieces_escape escaped hread, ?_, fun m ps' h => by simp at h⟩
    rw [joinUnits_symbol, hjoin, List.cons_append]
  | @unit c ds ss t unit rest ih =>
    obtain ⟨ps, hread, hjoin, -⟩ := ih
    refine ⟨.unit c.toNat :: ps, ?_, ?_, ?_⟩
    · rw [Symbol.ofText_append, List.append_assoc]
      exact readPieces_unitEscape unit hread
    · rw [joinUnits_unit fun h => absurd (.inl h) (not_isHalf_toNat c), unitChar?_toNat, hjoin,
        List.cons_append]
    · rintro m ps' heq
      obtain ⟨rfl, rfl⟩ : c.toNat = m ∧ ps = ps' := by simpa using heq
      exact ⟨ds, unit, List.prefix_append _ _⟩
  | @pair m n ds es ss t first second lead trail rest ih =>
    obtain ⟨ps, hread, hjoin, -⟩ := ih
    refine ⟨.unit m :: .unit n :: ps, ?_, ?_, ?_⟩
    · rw [Symbol.ofText_append, Symbol.ofText_append, List.append_assoc, List.append_assoc]
      exact readPieces_unitEscape first (readPieces_unitEscape second hread)
    · rw [joinUnits_pair lead trail, hjoin, List.cons_append]
    · rintro m' ps' heq
      obtain ⟨rfl, -⟩ : m = m' ∧ _ := by simpa using heq
      exact ⟨ds, first, List.prefix_append _ _⟩
  | @half n ds ss t unit lead_or_trail alone rest ih =>
    obtain ⟨ps, hread, hjoin, hfirst⟩ := ih
    refine ⟨.unit n :: ps, ?_, ?_, ?_⟩
    · rw [Symbol.ofText_append, List.append_assoc]
      exact readPieces_unitEscape unit hread
    · rw [joinUnits_unit, unitChar?_of_half lead_or_trail, hjoin, List.cons_append]
      -- A partner would have been read where its escape stands.
      intro lead m ps' heq trail
      obtain ⟨es, hes, hprefix⟩ := hfirst m ps' heq
      exact alone lead ⟨m, es, hes, trail, hprefix⟩
    · rintro m ps' heq
      obtain ⟨rfl, rfl⟩ : n = m ∧ ps = ps' := by simpa using heq
      exact ⟨ds, unit, List.prefix_append _ _⟩

theorem readPieces_gap {s : List Symbol} {ps : List Piece} (hs : readPieces s = some (ps, r)) :
    readPieces (none :: s) = some (.symbol none :: ps, r) := by
  simp only [readPieces, hs, Option.bind_eq_bind, Option.bind_some]

/-- The parts of a string with gaps, up to its closing quote. -/
theorem exists_readPieces_given {ss s : List Symbol} (h : IsGivenString ss s) (r : List Symbol) :
    ∃ ps, readPieces (s ++ some '"' :: r) = some (ps, r) ∧ joinUnits ps = ss := by
  induction h with
  | text spelled =>
    obtain ⟨ps, hread, hjoin, -⟩ := exists_readPieces_append spelled (s := some '"' :: r) rfl (by simp)
    exact ⟨ps, hread, by rw [hjoin, joinUnits, List.append_nil]⟩
  | gap spelled rest ih =>
    obtain ⟨qs, hqs, rfl⟩ := ih
    obtain ⟨ps, hread, hjoin, -⟩ := exists_readPieces_append spelled (readPieces_gap hqs) (by simp)
    refine ⟨ps, ?_, by rw [hjoin, joinUnits_symbol]⟩
    rw [List.append_assoc]
    exact hread

/-- **A string is read**, up to its closing quote. -/
theorem readString_append {ss s : List Symbol} (h : IsGivenString ss s) (r : List Symbol) :
    readString (s ++ some '"' :: r) = some (ss, r) := by
  obtain ⟨ps, hread, rfl⟩ := exists_readPieces_given h r
  rw [readString, hread]
  rfl

/-! ### Values -/

/-- The symbols after a value: it cannot go on with them. -/
def Ends (r : List Symbol) : Prop :=
  ∀ c, r.head? = some (some c) → isBlank c = true ∨ c = ',' ∨ c = ']' ∨ c = '\x7d'

theorem ends_nil : Ends [] := by
  intro c h
  simp at h

theorem ends_cons {c : Char} (h : isBlank c = true ∨ c = ',' ∨ c = ']' ∨ c = '\x7d')
    (r : List Symbol) : Ends (some c :: r) := by
  intro d hd
  obtain rfl : c = d := by simpa using hd
  exact h

theorem ends_append {b : List Char} (h : IsBlanks b) (hr : Ends r) :
    Ends (Symbol.ofText b ++ r) := by
  cases b with
  | nil => exact hr
  | cons c b => exact ends_cons (.inl (h c List.mem_cons_self)) _

/-- What can follow a value is not taken for a part of a number. -/
theorem Ends.stopsAt (h : Ends r) : StopsAt GoesOn r := by
  intro c hc
  rcases h c hc with hb | rfl | rfl | rfl
  · simp only [isBlank, Bool.or_eq_true, beq_iff_eq] at hb
    rcases hb with ((rfl | rfl) | rfl) | rfl <;> (rw [GoesOn]; decide)
  · rw [GoesOn]; decide
  · rw [GoesOn]; decide
  · rw [GoesOn]; decide

/-- The character may be the first one of a value. -/
def Opens (c : Char) : Prop :=
  c ∈ ['n', 't', 'f', '"', '[', '\x7b', '-'] ∨ c.isDigit = true

/-- No value begins with a blank. -/
theorem isBlank_of_opens {c : Char} (h : Opens c) : isBlank c = false := by
  cases hb : isBlank c with
  | false => rfl
  | true =>
    simp only [isBlank, Bool.or_eq_true, beq_iff_eq] at hb
    rcases hb with ((rfl | rfl) | rfl) | rfl <;> exact absurd h (by rw [Opens]; decide)

/-- The first symbol of a value is a character with which a value may begin. -/
theorem exists_head_of_isGiven {v : Value} {s : List Symbol} (h : (Part.value v).IsGiven s) :
    ∃ c u, s = some c :: u ∧ Opens c := by
  cases h with
  | null | yes | no | string | emptyArray | array | emptyObject | object =>
    exact ⟨_, _, rfl, .inl (by decide)⟩
  | number number =>
    obtain ⟨c, u, rfl, hc | rfl⟩ := exists_head_of_isNumber number
    · exact ⟨c, _, rfl, .inr hc⟩
    · exact ⟨_, _, rfl, .inl (by decide)⟩

/-- No blanks stand at the beginning of a value. -/
theorem skipBlanks_of_isGiven {v : Value} {s : List Symbol} (h : (Part.value v).IsGiven s)
    (r : List Symbol) : skipBlanks (s ++ r) = s ++ r := by
  obtain ⟨c, u, rfl, hc⟩ := exists_head_of_isGiven h
  exact skipBlanks_cons (isBlank_of_opens hc) _

theorem readWord_append (word : String) (v : Value) (r : List Symbol) :
    readWord word v (Symbol.ofText word.toList ++ r) = some (v, r) := by
  rw [readWord]
  simp

/-- Blanks before a value do not matter to its reader. -/
theorem readValue_skipBlanks (n : Nat) (s : List Symbol) :
    readValue n (skipBlanks s) = readValue n s := by
  cases n with
  | zero => rw [readValue, readValue]
  | succ n => rw [readValue, readValue, skipBlanks_skipBlanks]

theorem readItems_skipBlanks (n : Nat) (s : List Symbol) :
    readItems n (skipBlanks s) = readItems n s := by
  cases n with
  | zero => rw [readItems, readItems]
  | succ n => rw [readItems, readItems, readValue_skipBlanks]

theorem readMembers_skipBlanks (n : Nat) (s : List Symbol) :
    readMembers n (skipBlanks s) = readMembers n s := by
  cases n with
  | zero => rw [readMembers, readMembers]
  | succ n => rw [readMembers, readMembers, skipBlanks_skipBlanks]

/-- The part is read from symbols by its reader, which is allowed the depth `n`, whatever comes after
them. -/
def Part.IsReadFrom (n : Nat) (s : List Symbol) : Part → Prop
  | value v => ∀ r, Ends r → readValue n (s ++ r) = some (v, r)
  | items vs => ∀ r, readItems n (s ++ r) = some (vs, r)
  | members ms => ∀ r, readMembers n (s ++ r) = some (ms, r)

/-- A number is what is read if nothing else begins like this. -/
theorem readValue_number {n : Nat} {c : Char} {s : List Symbol} (h : c.isDigit = true ∨ c = '-') :
    readValue (n + 1) (some c :: s)
      = (readNumber (some c :: s)).map fun (ds, r) => (.number ds, r) := by
  have hopens : Opens c := by
    rcases h with h | rfl
    · exact .inr h
    · exact .inl (by decide)
  rw [readValue, skipBlanks_cons (isBlank_of_opens hopens)]
  -- What would make `c` another character than a digit or a minus ends each of the other branches.
  split
  all_goals first
    | rfl
    | next heq =>
      obtain ⟨rfl, -⟩ : c = _ ∧ s = _ := by simpa using heq
      exact absurd h (by decide)

/-- An array that is not closed at once has items. -/
theorem readValue_array {n : Nat} {s : List Symbol} (h : ∀ r, skipBlanks s ≠ some ']' :: r) :
    readValue (n + 1) (some '[' :: s) = (readItems n s).map fun (vs, r) => (.array vs, r) := by
  have hblank : isBlank '[' = false := by decide
  simp only [readValue, skipBlanks_cons hblank]
  rw [readItems_skipBlanks]

/-- An object that is not closed at once has members. -/
theorem readValue_object {n : Nat} {s : List Symbol} (h : ∀ r, skipBlanks s ≠ some '\x7d' :: r) :
    readValue (n + 1) (some '\x7b' :: s) = (readMembers n s).map fun (ms, r) => (.object ms, r) := by
  have hblank : isBlank '\x7b' = false := by decide
  simp only [readValue, skipBlanks_cons hblank]
  rw [readMembers_skipBlanks]

/-- The first item of an array begins as a value does, so that the array is not taken for an empty
one. -/
theorem skipBlanks_items {vs : List Value} {s : List Symbol} (h : (Part.items vs).IsGiven s)
    (r u : List Symbol) : skipBlanks (s ++ r) ≠ some ']' :: u := by
  have hopen : ∀ {v : Value} {b : List Char} {s w : List Symbol}, IsBlanks b →
      (Part.value v).IsGiven s → skipBlanks (Symbol.ofText b ++ (s ++ w) ++ r) ≠ some ']' :: u := by
    intro v b s w before item heq
    rw [List.append_assoc, List.append_assoc, skipBlanks_append before,
      skipBlanks_of_isGiven item] at heq
    obtain ⟨c, u, rfl, hc⟩ := exists_head_of_isGiven item
    obtain rfl : c = ']' := by simpa using congrArg List.head? heq
    exact absurd hc (by rw [Opens]; decide)
  cases h with
  | lastItem before after item => exact hopen before item
  | item before after item rest => exact hopen before item

/-- The first member of an object begins with a quote, so that the object is not taken for an empty
one. -/
theorem skipBlanks_members {ms : List (List Symbol × Value)} {s : List Symbol}
    (h : (Part.members ms).IsGiven s) (r u : List Symbol) :
    skipBlanks (s ++ r) ≠ some '\x7d' :: u := by
  have hopen : ∀ {b : List Char} {w : List Symbol}, IsBlanks b →
      skipBlanks (Symbol.ofText b ++ some '"' :: w ++ r) ≠ some '\x7d' :: u := by
    intro b w before heq
    rw [List.append_assoc, skipBlanks_append before] at heq
    exact absurd (congrArg List.head? heq) (by simp [skipBlanks, isBlank])
  cases h with
  | lastMember before => exact hopen before
  | member before => exact hopen before

theorem readValue_blanks {b : List Char} (h : IsBlanks b) (n : Nat) (s : List Symbol) :
    readValue n (Symbol.ofText b ++ s) = readValue n s := by
  rw [← readValue_skipBlanks, skipBlanks_append h, readValue_skipBlanks]

/-- An item between blanks, up to the mark after it. -/
theorem readItem_append {n : Nat} {v : Value} {s : List Symbol} {b b' : List Char} {c : Char}
    (before : IsBlanks b) (after : IsBlanks b') (hc : c = ',' ∨ c = ']' ∨ c = '\x7d')
    (item : (Part.value v).IsReadFrom n s) (r : List Symbol) :
    readValue n (Symbol.ofText b ++ (s ++ (Symbol.ofText b' ++ some c :: r)))
      = some (v, Symbol.ofText b' ++ some c :: r) := by
  rw [readValue_blanks before]
  exact item _ (ends_append after (ends_cons (.inr hc) r))

/-! ### Each part from its own parts -/

theorem isReadFrom_number {ds : List Char} (number : IsNumber ds) (n : Nat) :
    (Part.value (.number ds)).IsReadFrom (n + 1) (Symbol.ofText ds) := by
  obtain ⟨c, u, rfl, hc⟩ := exists_head_of_isNumber number
  intro r hr
  have hread := readNumber_append number hr.stopsAt
  rw [Symbol.ofText_cons, List.cons_append] at hread ⊢
  rw [readValue_number hc, hread]
  rfl

theorem isReadFrom_string {ss s : List Symbol} (given : IsGivenString ss s) (n : Nat) :
    (Part.value (.string ss)).IsReadFrom (n + 1) (some '"' :: (s ++ [some '"'])) := by
  have hquote : isBlank '"' = false := by decide
  intro r hr
  simp only [List.append_assoc, List.cons_append, List.nil_append]
  simp only [readValue, skipBlanks_cons hquote, readString_append given, Option.map_some]

theorem isReadFrom_emptyArray {b : List Char} (blanks : IsBlanks b) (n : Nat) :
    (Part.value (.array [])).IsReadFrom (n + 1) (some '[' :: (Symbol.ofText b ++ [some ']'])) := by
  have hopen : isBlank '[' = false := by decide
  have hclose : isBlank ']' = false := by decide
  intro r hr
  simp only [List.append_assoc, List.cons_append, List.nil_append]
  simp only [readValue, skipBlanks_cons hopen, skipBlanks_append blanks, skipBlanks_cons hclose]

theorem isReadFrom_array {vs : List Value} {s : List Symbol} {n : Nat}
    (items : (Part.items vs).IsGiven s) (h : (Part.items vs).IsReadFrom n s) :
    (Part.value (.array vs)).IsReadFrom (n + 1) (some '[' :: s) := by
  intro r hr
  rw [List.cons_append, readValue_array (skipBlanks_items items r), h r]
  rfl

theorem isReadFrom_emptyObject {b : List Char} (blanks : IsBlanks b) (n : Nat) :
    (Part.value (.object [])).IsReadFrom (n + 1)
      (some '\x7b' :: (Symbol.ofText b ++ [some '\x7d'])) := by
  have hopen : isBlank '\x7b' = false := by decide
  have hclose : isBlank '\x7d' = false := by decide
  intro r hr
  simp only [List.append_assoc, List.cons_append, List.nil_append]
  simp only [readValue, skipBlanks_cons hopen, skipBlanks_append blanks, skipBlanks_cons hclose]

theorem isReadFrom_object {ms : List (List Symbol × Value)} {s : List Symbol} {n : Nat}
    (members : (Part.members ms).IsGiven s) (h : (Part.members ms).IsReadFrom n s) :
    (Part.value (.object ms)).IsReadFrom (n + 1) (some '\x7b' :: s) := by
  intro r hr
  rw [List.cons_append, readValue_object (skipBlanks_members members r), h r]
  rfl

section

variable {n : Nat} {v : Value} {vs : List Value} {k : List Symbol}
  {ms : List (List Symbol × Value)} {s u w : List Symbol} {b b' b₁ b₂ b₃ b₄ : List Char}

theorem isReadFrom_lastItem (before : IsBlanks b) (after : IsBlanks b')
    (item : (Part.value v).IsReadFrom n s) :
    (Part.items [v]).IsReadFrom (n + 1)
      (Symbol.ofText b ++ (s ++ (Symbol.ofText b' ++ [some ']']))) := by
  have hclose : isBlank ']' = false := by decide
  intro r
  have hread := readItem_append before after (c := ']') (by simp) item r
  simp only [List.append_assoc, List.cons_append, List.nil_append]
  simp only [readItems, hread, Option.bind_eq_bind, Option.bind_some, skipBlanks_append after,
    skipBlanks_cons hclose]

/-- An item with a comma after it, and the items after the comma. -/
theorem isReadFrom_item (before : IsBlanks b) (after : IsBlanks b')
    (item : (Part.value v).IsReadFrom n s) (rest : (Part.items vs).IsReadFrom n u) :
    (Part.items (v :: vs)).IsReadFrom (n + 1)
      (Symbol.ofText b ++ (s ++ (Symbol.ofText b' ++ some ',' :: u))) := by
  have hcomma : isBlank ',' = false := by decide
  intro r
  have hread := readItem_append before after (c := ',') (by simp) item (u ++ r)
  have hrest := rest r
  simp only [List.append_assoc, List.cons_append]
  simp only [readItems, hread, hrest, Option.bind_eq_bind, Option.bind_some, Option.map_some,
    skipBlanks_append after, skipBlanks_cons hcomma]

/-- The last member of an object, with blanks in all four places. -/
theorem isReadFrom_lastMember (before : IsBlanks b₁) (beforeColon : IsBlanks b₂)
    (afterColon : IsBlanks b₃) (after : IsBlanks b₄) (name : IsGivenString k s)
    (item : (Part.value v).IsReadFrom n u) :
    (Part.members [(k, v)]).IsReadFrom (n + 1)
      (Symbol.ofText b₁ ++ some '"' :: (s ++ some '"' :: (Symbol.ofText b₂ ++ some ':' ::
        (Symbol.ofText b₃ ++ (u ++ (Symbol.ofText b₄ ++ [some '\x7d'])))))) := by
  have hquote : isBlank '"' = false := by decide
  have hcolon : isBlank ':' = false := by decide
  have hclose : isBlank '\x7d' = false := by decide
  intro r
  have hread := readItem_append afterColon after (c := '\x7d') (by simp) item r
  simp only [List.append_assoc, List.cons_append, List.nil_append]
  simp only [readMembers, skipBlanks_append before, skipBlanks_cons hquote,
    readString_append name, skipBlanks_append beforeColon, skipBlanks_cons hcolon, hread,
    Option.bind_eq_bind, Option.bind_some, skipBlanks_append after, skipBlanks_cons hclose]

/-- A member with a comma after it, and the members after the comma. -/
theorem isReadFrom_member (before : IsBlanks b₁) (beforeColon : IsBlanks b₂)
    (afterColon : IsBlanks b₃) (after : IsBlanks b₄) (name : IsGivenString k s)
    (item : (Part.value v).IsReadFrom n u) (rest : (Part.members ms).IsReadFrom n w) :
    (Part.members ((k, v) :: ms)).IsReadFrom (n + 1)
      (Symbol.ofText b₁ ++ some '"' :: (s ++ some '"' :: (Symbol.ofText b₂ ++ some ':' ::
        (Symbol.ofText b₃ ++ (u ++ (Symbol.ofText b₄ ++ some ',' :: w)))))) := by
  have hquote : isBlank '"' = false := by decide
  have hcolon : isBlank ':' = false := by decide
  have hcomma : isBlank ',' = false := by decide
  intro r
  have hread := readItem_append afterColon after (c := ',') (by simp) item (w ++ r)
  have hrest := rest r
  simp only [List.append_assoc, List.cons_append]
  simp only [readMembers, skipBlanks_append before, skipBlanks_cons hquote,
    readString_append name, skipBlanks_append beforeColon, skipBlanks_cons hcolon, hread, hrest,
    Option.bind_eq_bind, Option.bind_some, Option.map_some, skipBlanks_append after,
    skipBlanks_cons hcomma]

end

/-- Nothing is given by no symbols at all. -/
theorem length_pos_of_isGiven {p : Part} {s : List Symbol} (h : p.IsGiven s) : 0 < s.length := by
  cases h with
  | number number =>
    obtain ⟨c, u, rfl, -⟩ := exists_head_of_isNumber number
    exact Nat.succ_pos _
  | lastItem | item | lastMember | member =>
    simp only [List.length_append, List.length_cons]
    omega
  | _ => exact Nat.succ_pos _

/-- Whatever is given is read, at a depth that its length is enough for. -/
theorem isReadFrom_of_isGiven {p : Part} {s : List Symbol} (h : p.IsGiven s) {n : Nat}
    (hn : s.length ≤ n + 1) : p.IsReadFrom (n + 1) s := by
  -- Each part of what is given is shorter, but not empty.
  have hinner : ∀ {q : Part} {u : List Symbol} {n : Nat}, q.IsGiven u → u.length ≤ n →
      (∀ {m}, u.length ≤ m + 1 → q.IsReadFrom (m + 1) u) → q.IsReadFrom n u := by
    intro q u n hu hlen ih
    have hpos : 0 < u.length := length_pos_of_isGiven hu
    obtain ⟨m, rfl⟩ : ∃ m, n = m + 1 := Nat.exists_eq_succ_of_ne_zero (by omega)
    exact ih hlen
  induction h generalizing n with
  | null => exact fun r hr => readWord_append "ull" .null r
  | yes => exact fun r hr => readWord_append "rue" (.bool true) r
  | no => exact fun r hr => readWord_append "alse" (.bool false) r
  | number number => exact isReadFrom_number number n
  | string given => exact isReadFrom_string given n
  | emptyArray blanks => exact isReadFrom_emptyArray blanks n
  | array items ih =>
    simp only [List.length_cons, Nat.add_le_add_iff_right] at hn
    exact isReadFrom_array items (hinner items hn ih)
  | emptyObject blanks => exact isReadFrom_emptyObject blanks n
  | object members ih =>
    simp only [List.length_cons, Nat.add_le_add_iff_right] at hn
    exact isReadFrom_object members (hinner members hn ih)
  | lastItem before after item ih =>
    simp only [List.length_append, List.length_cons, List.length_nil] at hn
    exact isReadFrom_lastItem before after (hinner item (by omega) ih)
  | item before after item rest ihv ih =>
    simp only [List.length_append, List.length_cons] at hn
    exact isReadFrom_item before after (hinner item (by omega) ihv) (hinner rest (by omega) ih)
  | lastMember before beforeColon afterColon after name item ih =>
    simp only [List.length_append, List.length_cons, List.length_nil] at hn
    exact isReadFrom_lastMember before beforeColon afterColon after name
      (hinner item (by omega) ih)
  | member before beforeColon afterColon after name item rest ihv ih =>
    simp only [List.length_append, List.length_cons] at hn
    exact isReadFrom_member before beforeColon afterColon after name
      (hinner item (by omega) ihv) (hinner rest (by omega) ih)

/-- Each way of giving a value, whatever blanks, escapes and gaps it takes, is read as that value. -/
theorem read?_of_isGivenBy {v : Value} {s : List Symbol} (h : v.IsGivenBy s) :
    Value.read? s = some v := by
  obtain ⟨b, t, b', before, given, after, rfl⟩ := h
  -- The reader is allowed more depth than there are symbols.
  have hlen : t.length ≤ 2 * (Symbol.ofText b ++ (t ++ Symbol.ofText b')).length + 1 + 1 := by
    simp only [List.length_append]
    omega
  have hends : Ends (Symbol.ofText b') := by
    simpa using ends_append after ends_nil
  have hread := isReadFrom_of_isGiven given hlen (Symbol.ofText b') hends
  have hrest : skipBlanks (Symbol.ofText b') = [] := by
    simpa [skipBlanks] using skipBlanks_append after []
  rw [← readValue_blanks before] at hread
  rw [Value.read?, hread]
  simp [hrest]

/-! ### Texts -/

/-- What is written in a text is given by the symbols of the text. -/
theorem isGiven_of_isWritten {p : Part} {t : List Char} (h : p.IsWritten t) :
    p.IsGiven (Symbol.ofText t) := by
  induction h with
  | null => exact .null
  | yes => exact .yes
  | no => exact .no
  | number number => exact .number number
  | string spelled => simpa using Part.IsGiven.string (.text spelled)
  | emptyArray blanks => simpa using Part.IsGiven.emptyArray blanks
  | array items ih => exact .array ih
  | emptyObject blanks => simpa using Part.IsGiven.emptyObject blanks
  | object members ih => exact .object ih
  | lastItem before after item ih => simpa using Part.IsGiven.lastItem before after ih
  | item before after item rest ihv ih => simpa using Part.IsGiven.item before after ihv ih
  | lastMember before beforeColon afterColon after name item ih =>
    simpa using Part.IsGiven.lastMember before beforeColon afterColon after (.text name) ih
  | member before beforeColon afterColon after name item rest ihv ih =>
    simpa using Part.IsGiven.member before beforeColon afterColon after (.text name) ihv ih

theorem isGivenBy_of_isWrittenAs {v : Value} {s : List Char} (h : v.IsWrittenAs s) :
    v.IsGivenBy (Symbol.ofText s) := by
  obtain ⟨b, t, b', before, written, after, rfl⟩ := h
  exact ⟨b, _, b', before, isGiven_of_isWritten written, after, by simp⟩

/-- **What is written is read.**  Each way of writing a value, whatever blanks and escapes it takes, is
read as that value. -/
theorem ofText?_of_isWrittenAs {v : Value} {s : List Char} (h : v.IsWrittenAs s) :
    Value.ofText? s = some v :=
  read?_of_isGivenBy (isGivenBy_of_isWrittenAs h)

end PageHarvest.Json
