import PageHarvest.Html.Reference
import PageHarvest.Proofs.Text.Weight

/-!
# The weight of character references

A reference weighs more than what it stands for, and an ampersand that begins none stands for itself
(`decode_spec`).  For references by name this is a fact about the table (`isLight_of_mem`).
-/

namespace PageHarvest.Html.Reference

open Text

theorem weightOf_ampersand : weightOf '&' = 4 := by decide

/-! ### Numbers -/

theorem weight_dropSemicolon_le (s : List Char) : weight (dropSemicolon s) ≤ weight s := by
  unfold dropSemicolon
  split
  · rw [weight_cons]
    omega
  · exact Nat.le_refl _

/-- A reference by number takes at least its `#` and stands for one character. -/
theorem decodeDigits_spec (base : Nat) (p : Char → Bool) {digits s : List Char}
    (h : weight digits < weight s) : decodeDigits base p digits s = bare s ∨
      weight (decodeDigits base p digits s).chars + weight (decodeDigits base p digits s).rest
        < weightOf '&' + weight s := by
  unfold decodeDigits
  split
  · exact .inl rfl
  · right
    next ds hds =>
    have hrest := weight_dropSemicolon_le (digits.dropWhile p)
    have hdrop : weight (digits.dropWhile p) ≤ weight digits :=
      weight_le_of_sublist (List.dropWhile_sublist p)
    dsimp only
    generalize ofNumber _ = c
    have hchar := weightOf_le_four c
    rw [weight_cons, weight_nil, weightOf_ampersand]
    omega

theorem decodeNumber_spec (r : List Char) : decodeNumber r ('#' :: r) = bare ('#' :: r) ∨
    weight (decodeNumber r ('#' :: r)).chars + weight (decodeNumber r ('#' :: r)).rest
      < weightOf '&' + weight ('#' :: r) := by
  have hhash : 0 < weightOf '#' := by decide
  unfold decodeNumber
  split <;> refine decodeDigits_spec _ _ ?_ <;> simp only [weight_cons] <;> omega

/-! ### Names -/

/-- What the name stands for weighs less than the reference.  For one character this holds of any
name, as long as there is a name at all. -/
def Name.isLight (n : Name) : Bool :=
  match n.codes with
  | [_] => n.spelling != ""
  | codes => weight (codes.map Char.ofNat) < weightOf '&' + weight n.spelling.toList

/-- **The table of names.**  All its names are light, and none begins with a blank. -/
theorem isLight_of_mem {c : Char} {n : Name} (h : n ∈ startingWith c) :
    isBlank c = false ∧ n.isLight = true := by
  fun_cases startingWith c
  case case53 =>
    -- No name begins with any other character.
    rw [startingWith] at h
    · exact absurd h List.not_mem_nil
    all_goals assumption
  all_goals exact ⟨by decide, List.all_eq_true.1 (by decide +kernel) n h⟩

/-- The name that is found is in the table, and stands at the front of the text. -/
theorem mem_of_longestName {s : List Char} {n : Name} (h : longestName s = some n) :
    ∃ c r, s = c :: r ∧ n ∈ startingWith c ∧ n.spelling.toList <+: s := by
  -- What the search keeps is what it began with or a name that it has met.
  have hfold : ∀ (names : List Name) (best : Option Name),
      names.foldl (fun best n =>
        if n.spelling.toList.isPrefixOf s && best.all (·.spelling.length < n.spelling.length)
        then some n else best) best = some n →
      best = some n ∨ (n ∈ names ∧ n.spelling.toList <+: s) := by
    intro names
    induction names with
    | nil => exact fun best h => .inl h
    | cons m names ih =>
      intro best h
      rw [List.foldl_cons] at h
      rcases ih _ h with hbest | ⟨hmem, hstart⟩
      · split at hbest
        · next hm =>
          obtain rfl := Option.some.inj hbest
          rw [Bool.and_eq_true, List.isPrefixOf_iff_prefix] at hm
          exact .inr ⟨List.mem_cons_self, hm.1⟩
        · exact .inl hbest
      · exact .inr ⟨List.mem_cons_of_mem _ hmem, hstart⟩
  cases s with
  | nil => exact absurd h (by simp [longestName])
  | cons c r =>
    rcases hfold (startingWith c) none h with hnone | ⟨hmem, hstart⟩
    · exact absurd hnone (by simp)
    · exact ⟨c, r, rfl, hmem, hstart⟩

/-- What a name in front of a text stands for weighs less than the ampersand and the name. -/
theorem weight_codes_lt {s : List Char} {n : Name} (h : longestName s = some n) :
    weight (n.codes.map Char.ofNat) < weightOf '&' + weight n.spelling.toList := by
  obtain ⟨c, r, rfl, hmem, hstart⟩ := mem_of_longestName h
  obtain ⟨hblank, hlight⟩ := isLight_of_mem hmem
  unfold Name.isLight at hlight
  split at hlight
  · next code hcodes =>
    rw [hcodes, List.map_singleton, weight_cons, weight_nil, weightOf_ampersand]
    have hcode := weightOf_le_four (Char.ofNat code)
    -- The name is not empty, so that its first character is that of the text.
    cases hn : n.spelling.toList with
    | nil => exact absurd (String.toList_eq_nil_iff.1 hn) (by simpa using hlight)
    | cons d ds =>
      rw [hn, List.cons_prefix_cons] at hstart
      have hpos := weightOf_pos hblank
      rw [hstart.1, weight_cons]
      omega
  · exact of_decide_eq_true hlight

theorem decodeName_spec (place : Place) (s : List Char) : decodeName place s = bare s ∨
    weight (decodeName place s).chars + weight (decodeName place s).rest
      < weightOf '&' + weight s := by
  unfold decodeName
  split
  · exact .inl rfl
  · next n hn =>
    dsimp only
    split
    · exact .inl rfl
    · right
      -- The text is the name and what follows it.
      obtain ⟨-, -, -, -, r, rfl⟩ := mem_of_longestName hn
      have hlt := weight_codes_lt hn
      rw [List.drop_left' (by rw [String.length_toList]), weight_append]
      dsimp only
      omega

/-! ### All references -/

/-- **The weight of references.**  What follows an ampersand is no reference, or else what it stands
for and the text after it weigh less than the ampersand and the text. -/
theorem decode_spec (place : Place) (s : List Char) : decode place s = bare s ∨
    weight (decode place s).chars + weight (decode place s).rest < weightOf '&' + weight s := by
  unfold decode
  split
  · exact decodeNumber_spec _
  · exact decodeName_spec place s

theorem weight_decode_le (place : Place) (s : List Char) :
    weight (decode place s).chars + weight (decode place s).rest ≤ weightOf '&' + weight s := by
  rcases decode_spec place s with h | h
  · rw [h]
    exact Nat.le_refl _
  · omega

end PageHarvest.Html.Reference
