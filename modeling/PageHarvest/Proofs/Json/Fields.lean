import PageHarvest.Json.Record
import Mathlib.Data.List.Nodup

/-!
# Fields of records

What a record gives for its fields follows from the members with their names alone, in whatever order
these stand and whatever else there is among them (`fields?_record`).  Then come single fields: texts
and optional ones.
-/

namespace PageHarvest.Json

open Text

variable {names : List String} {members given : List (String × Value)}

theorem ofText_injective {s t : List Char} (h : Symbol.ofText s = Symbol.ofText t) : s = t :=
  Option.some.inj (by rw [← Symbol.text?_ofText s, h, Symbol.text?_ofText])

theorem ofText_beq (s t : String) :
    (Symbol.ofText s.toList == Symbol.ofText t.toList) = (s == t) := by
  rw [Bool.eq_iff_iff, beq_iff_eq, beq_iff_eq]
  constructor
  · intro h
    exact String.toList_injective (ofText_injective h)
  · rintro rfl
    rfl

/-- The members of a record as those of an object. -/
def written (members : List (String × Value)) : List (List Symbol × Value) :=
  members.map fun (name, v) => (Symbol.ofText name.toList, v)

theorem named_written (name : String) (members : List (String × Value)) :
    Value.named name (written members) = (members.filter (·.1 == name)).map Prod.snd := by
  simp only [Value.named, written, List.filter_map, List.map_map, Function.comp_def, ofText_beq]

theorem lookup_eq_head?_filter (name : String) (given : List (String × Value)) :
    given.lookup name = ((given.filter (·.1 == name)).map Prod.snd).head? := by
  induction given with
  | nil => rfl
  | cons m given ih =>
    obtain ⟨k, v⟩ := m
    rw [List.lookup_cons, List.filter_cons, BEq.comm]
    split
    · next h => simp [h]
    · next h => simp [h, ih]

/-- A name that stands once at most is given once at most. -/
theorem length_filter_le_one (hd : (given.map Prod.fst).Nodup) (name : String) :
    (given.filter (·.1 == name)).length ≤ 1 := by
  have hcount := List.nodup_iff_count_le_one.1 hd name
  rwa [List.count_eq_countP, List.countP_map, List.countP_eq_length_filter] at hcount

/-- The members with the name of a field are the one that is given for it, if there is one. -/
theorem filter_eq_of_perm (h : (members.filter fun m => names.contains m.1).Perm given)
    (hd : (given.map Prod.fst).Nodup) {name : String} (hname : name ∈ names) :
    members.filter (·.1 == name) = given.filter (·.1 == name) := by
  have hfilter : members.filter (·.1 == name)
      = (members.filter fun m => names.contains m.1).filter (·.1 == name) := by
    rw [List.filter_filter]
    refine List.filter_congr fun m _ => ?_
    rw [Bool.eq_iff_iff, Bool.and_eq_true, beq_iff_eq]
    constructor
    · rintro rfl
      exact ⟨rfl, by simpa using hname⟩
    · exact And.left
  have hperm := h.filter (·.1 == name)
  rw [hfilter]
  -- With one member at most on both sides, their order does not matter.
  have hlen := length_filter_le_one hd name
  cases hgiven : given.filter (·.1 == name) with
  | nil =>
    rw [hgiven] at hperm
    exact hperm.eq_nil
  | cons m rest =>
    rw [hgiven] at hperm hlen
    obtain rfl : rest = [] := List.length_eq_zero_iff.1 (by simpa using hlen)
    exact List.perm_singleton.1 hperm

/-- **The fields of a record.**  Each field has the value that is given for it, if the members with
the names of fields are the given ones in any order and no name is given twice. -/
theorem fields?_record (h : (members.filter fun m => names.contains m.1).Perm given)
    (hd : (given.map Prod.fst).Nodup) (required : Nat) :
    (Value.record members).fields? names required = some (names.map (given.lookup ·)) := by
  have hsound : Value.namesAreSound names (written members) = true := by
    rw [Value.namesAreSound, Bool.and_eq_true, List.all_eq_true, List.all_eq_true]
    constructor
    · intro m hm
      obtain ⟨⟨k, v⟩, -, rfl⟩ := List.mem_map.1 hm
      simp
    · intro name hname
      rw [named_written, filter_eq_of_perm h hd hname, List.length_map]
      simpa using length_filter_le_one hd name
  change (if Value.namesAreSound names (written members) = true
    then some (names.map fun name => (Value.named name (written members)).head?) else none) = _
  rw [if_pos hsound]
  congr 1
  refine List.map_congr_left fun name hname => ?_
  rw [named_written, filter_eq_of_perm h hd hname, lookup_eq_head?_filter]

/-! ### Records of the fields alone -/

theorem lookup_of_mem (hd : (given.map Prod.fst).Nodup) {m : String × Value} (hm : m ∈ given) :
    given.lookup m.1 = some m.2 := by
  induction given with
  | nil => exact absurd hm List.not_mem_nil
  | cons n given ih =>
    obtain ⟨k, v⟩ := n
    rw [List.map_cons, List.nodup_cons] at hd
    obtain rfl | hmem := List.mem_cons.1 hm
    · exact List.lookup_cons_self
    · have hne : (m.1 == k) = false := by
        rw [beq_eq_false_iff_ne]
        rintro rfl
        exact hd.1 (List.mem_map.2 ⟨m, hmem, rfl⟩)
      rw [List.lookup_cons, hne]
      exact ih hd.2 hmem

/-- A record of the fields in their order has their values. -/
theorem fields?_record_self (hnames : given.map Prod.fst = names) (hd : names.Nodup)
    (required : Nat) :
    (Value.record given).fields? names required = some (given.map fun m => some m.2) := by
  subst hnames
  have hall : given.filter (fun m => (given.map Prod.fst).contains m.1) = given := by
    refine List.filter_eq_self.2 fun m hm => ?_
    simpa using ⟨m.2, hm⟩
  rw [fields?_record (.of_eq hall) hd, List.map_map]
  exact congrArg some (List.map_congr_left fun m hm => lookup_of_mem hd hm)

/-! ### Single fields -/

theorem asText?_text (s : List Char) : (Value.text s).asText? = some s := Symbol.text?_ofText s

theorem asOptional?_of_ne_null {α : Type} (read : Value → Option α) {v : Value} (h : v ≠ .null) :
    v.asOptional? read = (read v).map some := by
  cases v with
  | null => exact absurd rfl h
  | bool => rfl
  | number => rfl
  | string => rfl
  | array => rfl
  | object => rfl

/-- An optional text is read as what it is read as where it is there. -/
theorem optional?_text? {α : Type} {read : Value → Option α} {write : α → List Char}
    {field : Option α} (h : ∀ a ∈ field, read (.text (write a)) = some a) :
    optional? read (some (.text? (field.map write))) = some field := by
  cases field with
  | none => rfl
  | some a =>
    rw [Option.map_some, Value.text?, optional?, asOptional?_of_ne_null _ (by simp [Value.text]),
      h a rfl, Option.map_some]

/-- What is in an optional field was read. -/
theorem exists_of_optional? {α : Type} {read : Value → Option α} {field : Option Value} {a : α}
    (h : optional? read field = some (some a)) : ∃ v, read v = some a := by
  cases field with
  | none => exact absurd h (by simp [optional?])
  | some v =>
    by_cases hnull : v = .null
    · subst hnull
      exact absurd h (by simp [optional?, Value.asOptional?])
    · rw [optional?, asOptional?_of_ne_null _ hnull, Option.map_eq_some_iff] at h
      obtain ⟨b, hb, hba⟩ := h
      exact ⟨v, by rw [hb, Option.some.inj hba]⟩

end PageHarvest.Json
