import PageHarvest.Uuid
import Mathlib.Data.List.Nodup

/-!
# Spellings of identifiers

An identifier can be spelled in four forms, each in letters of either case: the digits alone, with
hyphens, this in braces, and this after the prefix of a resource name.  A text denotes an identifier
exactly if it is one of the forms in lower case (`ofText?_eq_some_iff`), so that texts that denote the
same one differ in nothing but form and case.
-/

namespace PageHarvest

open Text

variable {c : Char} {s t : List Char}

/-! ### Letters of either case -/

/-- Letters of upper case move by 32, and nothing else does. -/
theorem toNat_toLower (c : Char) : c.toLower.toNat
    = if 0x41 ≤ c.toNat ∧ c.toNat ≤ 0x5A then c.toNat + 0x20 else c.toNat := by
  have hrange : (c.val ≥ 'A'.val ∧ c.val ≤ 'Z'.val) ↔ 0x41 ≤ c.toNat ∧ c.toNat ≤ 0x5A := by
    simp only [ge_iff_le, UInt32.le_iff_toNat_le]
    rfl
  unfold Char.toLower
  simp only [hrange]
  split
  · next h =>
    have hval : c.val.toNat = c.toNat := rfl
    have hshift : ('a'.val - 'A'.val).toNat = 0x20 := rfl
    show (c.val + ('a'.val - 'A'.val)).toNat = c.toNat + 0x20
    rw [UInt32.toNat_add, hshift, hval]
    omega
  · rfl

/-- A character that is no letter is the lower case of itself alone. -/
theorem toLower_eq_iff {d : Char} (h : d.toNat < 0x41 ∨ 0x7A < d.toNat) :
    c.toLower = d ↔ c = d := by
  rw [← Char.toNat_inj, ← Char.toNat_inj, toNat_toLower]
  split
  · omega
  · rfl

theorem toNat_digit (d : Fin 16) :
    d.val < 10 ∧ (Hex.digit d).toNat = 0x30 + d.val ∨
      10 ≤ d.val ∧ (Hex.digit d).toNat = 0x57 + d.val := by
  revert d
  decide

/-- A character is a digit in either case exactly if its lower case is this digit. -/
theorem value?_eq_some_iff {d : Fin 16} : Hex.value? c = some d ↔ c.toLower = Hex.digit d := by
  have hlast : ∀ n, some (Hex.lastValue n) = some d ↔ n % 16 = d.val := by
    intro n
    rw [Option.some_inj]
    exact Fin.ext_iff
  have hlower : c.toLower.toNat = c.toNat + 0x20 ∧ 0x41 ≤ c.toNat ∧ c.toNat ≤ 0x5A ∨
      c.toLower.toNat = c.toNat ∧ ¬(0x41 ≤ c.toNat ∧ c.toNat ≤ 0x5A) := by
    rw [toNat_toLower]
    split
    · next h => exact .inl ⟨rfl, h⟩
    · next h => exact .inr ⟨rfl, h⟩
  have hdigit := toNat_digit d
  have hlt := d.isLt
  -- Numerals, lower case letters, upper case letters, and whatever is no digit.
  rw [← Char.toNat_inj, Hex.value?]
  split
  · rw [hlast]
    omega
  · split
    · rw [hlast]
      omega
    · split
      · rw [hlast]
        omega
      · simp only [reduceCtorEq, false_iff]
        omega

/-- A text denotes digits exactly if its lower case is how they are written. -/
theorem mapM_value?_eq_some_iff {ds : List (Fin 16)} :
    s.mapM Hex.value? = some ds ↔ s.map Char.toLower = ds.map Hex.digit := by
  induction s generalizing ds with
  | nil => cases ds <;> simp
  | cons c s ih =>
    cases ds with
    | nil => simp [List.mapM_cons, Option.bind_eq_some_iff]
    | cons d ds => simp [List.mapM_cons, Option.bind_eq_some_iff, value?_eq_some_iff, ih]

namespace Uuid

variable {u : Uuid}

/-! ### Forms -/

/-- The forms in which an identifier is spelled, in lower case. -/
def forms (u : Uuid) : List (List Char) :=
  [u.digits.map Hex.digit, u.toText, '\x7b' :: u.toText ++ ['\x7d'], "urn:uuid:".toList ++ u.toText]

theorem ofDigits?_eq_some_iff :
    ofDigits? s = some u ↔ s.map Char.toLower = u.digits.map Hex.digit := by
  rw [← mapM_value?_eq_some_iff, ofDigits?, Option.bind_eq_some_iff]
  constructor
  · rintro ⟨ds, hds, hu⟩
    obtain ⟨hlen, hu⟩ := Option.dite_none_right_eq_some.1 hu
    rw [hds, ← Option.some.inj hu]
  · intro hds
    exact ⟨u.digits, hds, dif_pos u.length_digits⟩

/-- Hyphens are found in either case. -/
theorem dropHyphens?_map_toLower (ns : List Nat) (s : List Char) :
    dropHyphens? ns (s.map Char.toLower) = (dropHyphens? ns s).map (List.map Char.toLower) := by
  induction ns generalizing s with
  | nil => rfl
  | cons n ns ih =>
    rw [dropHyphens?.eq_2, dropHyphens?.eq_2, ← List.map_drop]
    cases s.drop n with
    | nil => rfl
    | cons c r =>
      -- A hyphen is its own lower case, and of no other character.
      by_cases hc : c = '-'
      · subst hc
        have hlower : '-'.toLower = '-' := rfl
        simp only [List.map_cons, hlower, ih, List.map_take, Option.map_map, Function.comp_def,
          List.map_append]
      · have hlower : c.toLower ≠ '-' := fun h => hc ((toLower_eq_iff (by decide)).1 h)
        simp [List.map_cons, hc, hlower]

theorem hyphenate_of_dropHyphens? {ns : List Nat} (h : dropHyphens? ns s = some t) :
    hyphenate ns t = s := by
  induction ns generalizing s t with
  | nil => exact (Option.some.inj h).symm
  | cons n ns ih =>
    rw [dropHyphens?] at h
    split at h
    · next r hr =>
      obtain ⟨t', ht', rfl⟩ := Option.map_eq_some_iff.1 h
      -- There is a hyphen after the first group, and so the group is complete.
      have hlen : (s.take n).length = n := by
        have hpos := congrArg List.length hr
        rw [List.length_drop, List.length_cons] at hpos
        rw [List.length_take]
        omega
      rw [hyphenate, List.take_left' hlen, List.drop_left' hlen, ih ht', ← hr,
        List.take_append_drop]
    · exact absurd h (by simp)

/-- What has hyphens in the right places is what its digits are written as. -/
theorem ofHyphenated?_eq_some_iff : ofHyphenated? s = some u ↔ s.map Char.toLower = u.toText := by
  have hdigits : dropHyphens? groups u.toText = some (u.digits.map Hex.digit) :=
    dropHyphens?_hyphenate _ _ (by rw [List.length_map, u.length_digits]; decide)
  rw [ofHyphenated?, Option.bind_eq_some_iff]
  constructor
  · rintro ⟨t, ht, hu⟩
    have hlower : dropHyphens? groups (s.map Char.toLower) = some (u.digits.map Hex.digit) := by
      rw [dropHyphens?_map_toLower, ht, Option.map_some, ofDigits?_eq_some_iff.1 hu]
    rw [← hyphenate_of_dropHyphens? hlower]
    rfl
  · intro hs
    rw [← hs, dropHyphens?_map_toLower, Option.map_eq_some_iff] at hdigits
    obtain ⟨t, ht, hu⟩ := hdigits
    exact ⟨t, ht, ofDigits?_eq_some_iff.2 hu⟩

theorem inBraces?_eq_some_iff : inBraces? s = some t ↔ s = '\x7b' :: (t ++ ['\x7d']) := by
  rw [inBraces?.eq_def]
  split
  · next r =>
    rw [Option.ite_none_right_eq_some, List.cons_inj_right]
    constructor
    · rintro ⟨hlast, ht⟩
      rw [← Option.some.inj ht, List.dropLast_append_getLast? _ hlast]
    · rintro rfl
      simp
  · next hne =>
    simp only [reduceCtorEq, false_iff]
    rintro rfl
    exact hne _ rfl

theorem inBraces?_bind_eq_some_iff : (inBraces? s).bind ofHyphenated? = some u ↔
    s.map Char.toLower = '\x7b' :: u.toText ++ ['\x7d'] := by
  rw [Option.bind_eq_some_iff]
  constructor
  · rintro ⟨t, ht, hu⟩
    rw [inBraces?_eq_some_iff.1 ht, List.map_cons, List.map_append, ofHyphenated?_eq_some_iff.1 hu]
    rfl
  · intro hs
    rw [List.cons_append, List.map_eq_cons_iff] at hs
    obtain ⟨c, r, rfl, hc, hr⟩ := hs
    obtain ⟨t, e, rfl, ht, he⟩ := List.map_eq_append_iff.1 hr
    obtain ⟨d, rest, rfl, hd, hrest⟩ := List.map_eq_cons_iff.1 he
    obtain rfl := List.map_eq_nil_iff.1 hrest
    obtain rfl := (toLower_eq_iff (by decide)).1 hc
    obtain rfl := (toLower_eq_iff (by decide)).1 hd
    exact ⟨t, inBraces?_eq_some_iff.2 rfl, ofHyphenated?_eq_some_iff.2 ht⟩

/-- The form after the prefix of a resource name, whose letters may be in either case as well. -/
theorem afterUrn?_bind_eq_some_iff : (afterUrn? s).bind ofHyphenated? = some u ↔
    s.map Char.toLower = "urn:uuid:".toList ++ u.toText := by
  unfold afterUrn?
  dsimp only
  split
  · next h =>
    obtain ⟨r, hr⟩ := List.isPrefixOf_iff_prefix.1 h
    have hrest : (s.drop "urn:uuid:".toList.length).map Char.toLower = r := by
      rw [List.map_drop, ← hr, List.drop_left]
    rw [Option.bind_some, ofHyphenated?_eq_some_iff, hrest, ← hr, List.append_cancel_left_eq]
  · next h =>
    simp only [Option.bind_none, reduceCtorEq, false_iff]
    intro hs
    exact h (List.isPrefixOf_iff_prefix.2 ⟨u.toText, hs.symm⟩)

/-- The forms can be told apart by their lengths. -/
theorem length_forms (u : Uuid) : u.forms.map List.length = [32, 36, 38, 45] := by
  simp [forms, u.length_digits, length_toText]

/-- No two forms are of one length, and so the length of a text rules out all forms but one. -/
theorem mem_forms_iff {form : List Char} (hform : form ∈ u.forms) (h : s.length = form.length) :
    s.map Char.toLower ∈ u.forms ↔ s.map Char.toLower = form := by
  constructor
  · intro hs
    have hnodup : (u.forms.map List.length).Nodup := by
      rw [length_forms]
      decide
    exact List.inj_on_of_nodup_map hnodup hs hform (by rw [List.length_map, h])
  · intro hs
    rw [hs]
    exact hform

/-- **A text denotes an identifier exactly if it is one of its forms, in letters of either case.** -/
theorem ofText?_eq_some_iff : ofText? s = some u ↔ s.map Char.toLower ∈ u.forms := by
  have hlengths := length_forms u
  simp only [forms, List.map_cons, List.map_nil, List.cons.injEq, and_true] at hlengths
  obtain ⟨hplain, hhyphens, hbraces, hurn⟩ := hlengths
  rw [ofText?]
  -- The length says which form it can be.
  split
  · next h => rw [ofDigits?_eq_some_iff, mem_forms_iff (.head _) (h.trans hplain.symm)]
  · next h =>
    rw [ofHyphenated?_eq_some_iff, mem_forms_iff (.tail _ (.head _)) (h.trans hhyphens.symm)]
  · next h =>
    rw [inBraces?_bind_eq_some_iff,
      mem_forms_iff (.tail _ (.tail _ (.head _))) (h.trans hbraces.symm)]
  · next h =>
    rw [afterUrn?_bind_eq_some_iff,
      mem_forms_iff (.tail _ (.tail _ (.tail _ (.head _)))) (h.trans hurn.symm)]
  · next h32 h36 h38 h45 =>
    -- A form in either case has the length of a form.
    simp only [reduceCtorEq, false_iff]
    intro hs
    have hlength := List.mem_map_of_mem (f := List.length) hs
    rw [length_forms, List.length_map] at hlength
    simp only [List.mem_cons, List.not_mem_nil, or_false] at hlength
    rcases hlength with h | h | h | h
    · exact h32 h
    · exact h36 h
    · exact h38 h
    · exact h45 h

end Uuid

end PageHarvest
