import PageHarvest.Proofs.Json.Reading
import Mathlib.Tactic.SplitIfs

/-!
# Writing without blanks

The form without blanks is one of the ways of writing a value (`isWritten_write`), so that it is read
back as that value (`ofText?_write`).  Only the numbers in it have to be numbers, since they are kept
as they are written.
-/

namespace PageHarvest.Json

open Text

/-! ### Strings -/

theorem isUnit_padded {n : Nat} (h : n < 0x10000) : IsUnit n (Hex.padded 4 n) := by
  have hlast : ∀ m, (Hex.lastValue m).val = m % 16 := fun m => rfl
  refine ⟨Hex.length_padded 4 n, ?_⟩
  simp only [Hex.padded, List.nil_append, List.cons_append, List.mapM_cons, List.mapM_nil,
    Hex.value?_digit, Option.pure_def, Option.bind_eq_bind, Option.bind_some, Option.map_some,
    Hex.ofDigits, List.foldl_cons, List.foldl_nil, hlast, Option.some.injEq]
  omega

/-- A unit is known by its digits. -/
theorem IsUnit.unique {m n : Nat} {ds es s t : List Char} (h : IsUnit m ds) (k : IsUnit n es)
    (heq : unitEscape ds ++ s = unitEscape es ++ t) : m = n := by
  have hds : ds = es := by
    have := List.append_inj_left heq (by simp [unitEscape, h.1, k.1])
    simpa [unitEscape] using this
  subst hds
  exact Option.some.inj (h.2.symm.trans k.2)

/-- The three ways in which a character is written. -/
theorem writeChar_cases (c : Char) :
    (∃ e, e ≠ 'u' ∧ escaped? e = some c ∧ writeChar c = ['\\', e]) ∨
    (c.toNat < 0x20 ∧ writeChar c = unitEscape (Hex.padded 4 c.toNat)) ∨
    (0x20 ≤ c.toNat ∧ c ≠ '"' ∧ c ≠ '\\' ∧ writeChar c = [c]) := by
  unfold writeChar
  split_ifs with h₁ h₂ h₃ h₄ h₅ h₆ h₇ h₈
  · exact .inl ⟨'"', by decide, by rw [h₁]; rfl, rfl⟩
  · exact .inl ⟨'\\', by decide, by rw [h₂]; rfl, rfl⟩
  · exact .inl ⟨'b', by decide, by rw [h₃]; rfl, rfl⟩
  · exact .inl ⟨'t', by decide, by rw [h₄]; rfl, rfl⟩
  · exact .inl ⟨'n', by decide, by rw [h₅]; rfl, rfl⟩
  · exact .inl ⟨'f', by decide, by rw [h₆]; rfl, rfl⟩
  · exact .inl ⟨'r', by decide, by rw [h₇]; rfl, rfl⟩
  · exact .inr (.inl ⟨h₈, rfl⟩)
  · exact .inr (.inr ⟨by omega, h₁, h₂, rfl⟩)

theorem isSpelled_writeChar (c : Char) {ss : List Symbol} {t : List Char} (h : IsSpelled ss t) :
    IsSpelled (some c :: ss) (writeChar c ++ t) := by
  obtain ⟨e, -, hescaped, hc⟩ | ⟨hlow, hc⟩ | ⟨hvisible, hquote, hbackslash, hc⟩ := writeChar_cases c
  · rw [hc]
    exact .escape hescaped h
  · rw [hc]
    exact .unit (isUnit_padded (by omega)) h
  · rw [hc]
    exact .plain hvisible hquote hbackslash h

/-- The escape of a gap. -/
theorem isUnit_gap : IsUnit 0xD800 ['d', '8', '0', '0'] := by
  rw [IsUnit]
  decide

theorem writeSymbol_none : writeSymbol none = unitEscape ['d', '8', '0', '0'] := by
  change "\\ud800".toList = _
  decide

/-- A character begins as the escape of a unit only if this is its own unit. -/
theorem eq_toNat_of_writeChar {c : Char} {n : Nat} {ds t : List Char} (h : IsUnit n ds)
    (hp : unitEscape ds <+: writeChar c ++ t) : n = c.toNat := by
  obtain ⟨u, hu⟩ := hp
  obtain ⟨e, he, -, hc⟩ | ⟨hlow, hc⟩ | ⟨-, -, hbackslash, hc⟩ := writeChar_cases c
  · rw [hc] at hu
    exact absurd (List.head_eq_of_cons_eq (List.tail_eq_of_cons_eq hu)).symm he
  · rw [hc] at hu
    exact h.unique (isUnit_padded (by omega)) hu
  · rw [hc] at hu
    exact absurd (List.head_eq_of_cons_eq hu).symm hbackslash

/-- The second one of a pair of units is never written as an escape. -/
theorem not_beginsWithTrail_writeSymbol (ss : List Symbol) :
    ¬BeginsWithTrail (ss.flatMap writeSymbol) := by
  rintro ⟨n, ds, hunit, htrail, hprefix⟩
  cases ss with
  | nil => simp [unitEscape] at hprefix
  | cons s ss =>
    rw [List.flatMap_cons] at hprefix
    cases s with
    | some c =>
      obtain rfl := eq_toNat_of_writeChar hunit hprefix
      exact not_isHalf_toNat c (.inr htrail)
    | none =>
      -- The escape of a gap is that of a first one.
      obtain ⟨u, hu⟩ := hprefix
      rw [writeSymbol_none] at hu
      obtain rfl := hunit.unique isUnit_gap hu
      exact absurd htrail (by rw [IsTrail]; decide)

theorem isSpelled_flatMap (ss : List Symbol) : IsSpelled ss (ss.flatMap writeSymbol) := by
  induction ss with
  | nil => exact .nil
  | cons s ss ih =>
    rw [List.flatMap_cons]
    cases s with
    | some c => exact isSpelled_writeChar c ih
    | none =>
      rw [writeSymbol_none]
      exact .half isUnit_gap (.inl (by rw [IsLead]; decide))
        (fun _ => not_beginsWithTrail_writeSymbol ss) ih

/-! ### Values -/

/-- The numbers in the value are numbers. -/
inductive Value.IsSound : Value → Prop
  | null : IsSound .null
  | bool (b : Bool) : IsSound (.bool b)
  | number {ds : List Char} (number : IsNumber ds) : IsSound (.number ds)
  | string (ss : List Symbol) : IsSound (.string ss)
  | array {vs : List Value} (items : ∀ v ∈ vs, IsSound v) : IsSound (.array vs)
  | object {ms : List (List Symbol × Value)} (members : ∀ m ∈ ms, IsSound m.2) :
    IsSound (.object ms)

theorem Value.isSound_record {fields : List (String × Value)} (h : ∀ f ∈ fields, f.2.IsSound) :
    (Value.record fields).IsSound := by
  refine .object fun m hm => ?_
  obtain ⟨f, hf, rfl⟩ := List.mem_map.1 hm
  exact h f hf

theorem isBlanks_nil : IsBlanks [] := fun _ h => absurd h List.not_mem_nil

theorem isWritten_items {v : Value} {vs : List Value}
    (h : ∀ w ∈ v :: vs, (Part.value w).IsWritten w.write) :
    (Part.items (v :: vs)).IsWritten (v.write ++ writeItems vs) := by
  induction vs generalizing v with
  | nil =>
    rw [writeItems]
    exact .lastItem isBlanks_nil isBlanks_nil (h v (by simp))
  | cons w vs ih =>
    rw [List.forall_mem_cons] at h
    rw [writeItems]
    exact .item isBlanks_nil isBlanks_nil h.1 (ih h.2)

theorem isWritten_members {k : List Symbol} {v : Value} {ms : List (List Symbol × Value)}
    (h : ∀ m ∈ (k, v) :: ms, (Part.value m.2).IsWritten m.2.write) :
    (Part.members ((k, v) :: ms)).IsWritten
      (writeString k ++ ':' :: v.write ++ writeMembers ms) := by
  induction ms generalizing k v with
  | nil =>
    have hmember := Part.IsWritten.lastMember isBlanks_nil isBlanks_nil isBlanks_nil isBlanks_nil
      (isSpelled_flatMap k) (h (k, v) (by simp))
    simpa [writeMembers, writeString] using hmember
  | cons m ms ih =>
    obtain ⟨l, w⟩ := m
    rw [List.forall_mem_cons] at h
    have hmember := Part.IsWritten.member isBlanks_nil isBlanks_nil isBlanks_nil isBlanks_nil
      (isSpelled_flatMap k) h.1 (ih h.2)
    simpa [writeMembers, writeString] using hmember

/-- The form without blanks is a way of writing the value. -/
theorem isWritten_write {v : Value} (h : v.IsSound) : (Part.value v).IsWritten v.write := by
  induction h with
  | null => exact .null
  | bool b =>
    cases b with
    | true => exact .yes
    | false => exact .no
  | number number => exact .number number
  | string ss => exact .string (isSpelled_flatMap ss)
  | @array vs items ih =>
    cases vs with
    | nil => exact .emptyArray isBlanks_nil
    | cons v vs =>
      rw [Value.write]
      exact .array (isWritten_items ih)
  | @object ms members ih =>
    cases ms with
    | nil => exact .emptyObject isBlanks_nil
    | cons m ms =>
      obtain ⟨k, v⟩ := m
      rw [Value.write]
      exact .object (isWritten_members ih)

/-- **Reading undoes writing.** -/
theorem ofText?_write {v : Value} (h : v.IsSound) : Value.ofText? v.write = some v :=
  ofText?_of_isWrittenAs ⟨[], v.write, [], isBlanks_nil, isWritten_write h, isBlanks_nil, by simp⟩

end PageHarvest.Json
