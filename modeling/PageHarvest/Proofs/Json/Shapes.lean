import PageHarvest.Proofs.Json.Accepting

/-!
# Shapes of records

What a record with named fields looks like, said without reading it: an object in which no name of a
field stands twice and all names are texts, or an array of the fields in their order (`HasFields`).
The fields are found exactly in these (`fields?_eq_some_iff`).  Then come the shapes of single fields.
-/

namespace PageHarvest.Json

open Text

variable {α : Type} {names : List String} {name : String} {required : Nat}
  {members : List (List Symbol × Value)} {field : Option Value} {fields : List (Option Value)}
  {v : Value}

/-! ### Fields -/

/-- The members give this for the field of that name: nothing, or the value of its only member. -/
inductive Gives (members : List (List Symbol × Value)) (name : String) : Option Value → Prop
  | nothing (missing : ∀ m ∈ members, m.1 ≠ Symbol.ofText name.toList) : Gives members name none
  | value {before after : List (List Symbol × Value)} {v : Value}
    (once : members = before ++ (Symbol.ofText name.toList, v) :: after)
    (others : ∀ m ∈ before ++ after, m.1 ≠ Symbol.ofText name.toList) :
    Gives members name (some v)

/-- The value is a record with these fields.  An object may have members of other names; an array gives
the fields in their order, as many as are required at least, and the others are missing. -/
inductive HasFields (names : List String) (required : Nat) : Value → List (Option Value) → Prop
  | object {members : List (List Symbol × Value)} {fields : List (Option Value)}
    (texts : ∀ m ∈ members, ∃ name, m.1 = Symbol.ofText name)
    (given : List.Forall₂ (Gives members) names fields) :
    HasFields names required (.object members) fields
  | array {items : List Value} (enough : required ≤ items.length)
    (fitting : items.length ≤ names.length) :
    HasFields names required (.array items)
      (items.map some ++ List.replicate (names.length - items.length) none)

/-- No value goes by a name that no member has. -/
theorem named_eq_nil_iff :
    Value.named name members = [] ↔ ∀ m ∈ members, m.1 ≠ Symbol.ofText name.toList := by
  rw [Value.named, List.map_eq_nil_iff, List.filter_eq_nil_iff]
  simp

/-- The values of a name are found in one list of members and then in the other. -/
theorem named_append (members others : List (List Symbol × Value)) :
    Value.named name (members ++ others) = Value.named name members ++ Value.named name others := by
  rw [Value.named, List.filter_append, List.map_append]
  rfl

theorem named_cons_self (name : String) (v : Value) (members : List (List Symbol × Value)) :
    Value.named name ((Symbol.ofText name.toList, v) :: members) = v :: Value.named name members := by
  rw [Value.named, List.filter_cons_of_pos (by simp), List.map_cons]
  rfl

/-- What the members give for a field is the value of the members with its name, one at most. -/
theorem gives_iff : Gives members name field ↔
    (Value.named name members).length ≤ 1 ∧ (Value.named name members).head? = field := by
  constructor
  · intro h
    cases h with
    | nothing missing =>
      rw [named_eq_nil_iff.2 missing]
      exact ⟨Nat.zero_le 1, rfl⟩
    | value once others =>
      rw [List.forall_mem_append] at others
      rw [once, named_append, named_cons_self, named_eq_nil_iff.2 others.1,
        named_eq_nil_iff.2 others.2]
      exact ⟨Nat.le_refl 1, rfl⟩
  · rintro ⟨hlength, rfl⟩
    cases hnamed : Value.named name members with
    | nil => exact .nothing (named_eq_nil_iff.1 hnamed)
    | cons v vs =>
      obtain ⟨⟨k, w⟩, rest, hfilter, rfl, hvs⟩ := List.map_eq_cons_iff.1 hnamed
      obtain ⟨before, after, rfl, hbefore, hname, hrest⟩ := List.filter_eq_cons_iff.1 hfilter
      obtain rfl : k = Symbol.ofText name.toList := by simpa using hname
      refine .value rfl (List.forall_mem_append.2 ⟨fun m hm => by simpa using hbefore m hm, ?_⟩)
      -- There is room for no other member after it.
      rw [hnamed, List.length_cons, ← hvs, List.length_map] at hlength
      rw [← named_eq_nil_iff, Value.named, hrest, List.map_eq_nil_iff, ← List.length_eq_zero_iff]
      omega

/-- The same for all fields at once, where each name is looked for in all members. -/
theorem forall₂_gives_iff : List.Forall₂ (Gives members) names fields ↔
    (∀ name ∈ names, (Value.named name members).length ≤ 1) ∧
      names.map (fun name => (Value.named name members).head?) = fields := by
  induction names generalizing fields with
  | nil => simp [eq_comm]
  | cons name names ih =>
    cases fields with
    | nil => simp
    | cons field fields =>
      rw [List.forall₂_cons, gives_iff, ih, List.forall_mem_cons, List.map_cons, List.cons.injEq]
      tauto

/-- All names are texts, and none of a field stands twice. -/
theorem namesAreSound_iff : Value.namesAreSound names members = true ↔
    (∀ m ∈ members, ∃ name, m.1 = Symbol.ofText name) ∧
      ∀ name ∈ names, (Value.named name members).length ≤ 1 := by
  simp only [Value.namesAreSound, Bool.and_eq_true, List.all_eq_true, Option.isSome_iff_exists,
    text?_eq_some_iff, decide_eq_true_eq]

/-- **The fields of a record are those that it has.** -/
theorem fields?_eq_some_iff : v.fields? names required = some fields ↔
    HasFields names required v fields := by
  constructor
  · intro h
    cases v with
    | object members =>
      obtain ⟨hsound, hfields⟩ := Option.ite_none_right_eq_some.1 h
      obtain ⟨texts, once⟩ := namesAreSound_iff.1 hsound
      exact .object texts (forall₂_gives_iff.2 ⟨once, Option.some.inj hfields⟩)
    -- An array is not looked through for names: the fields are those in their order, and nothing
    -- after them.
    | array items =>
      obtain ⟨⟨enough, fitting⟩, hfields⟩ := Option.ite_none_right_eq_some.1 h
      rw [← Option.some.inj hfields]
      exact .array enough fitting
    | _ => exact absurd h (by simp [Value.fields?])
  · intro h
    cases h with
    | object texts given =>
      obtain ⟨once, rfl⟩ := forall₂_gives_iff.1 given
      exact if_pos (namesAreSound_iff.2 ⟨texts, once⟩)
    | array enough fitting => exact if_pos ⟨enough, fitting⟩

/-- There is one entry for each name, given or not. -/
theorem HasFields.length_eq (h : HasFields names required v fields) :
    fields.length = names.length := by
  cases h with
  | object texts given => exact given.length_eq.symm
  | array enough fitting =>
    rw [List.length_append, List.length_map, List.length_replicate]
    omega

/-! ### What a field holds -/

/-- The value is this text. -/
def Value.IsText (v : Value) (s : List Char) : Prop := v = .text s

theorem not_isText_null (s : List Char) : ¬Value.null.IsText s := by
  simp [Value.IsText, Value.text]

/-- A field that is a text. -/
theorem asText?_eq_some_iff {s : List Char} : v.asText? = some s ↔ v.IsText s := by
  constructor
  · intro h
    cases v with
    | string ss => rw [text?_eq_some_iff.1 h, Value.IsText, Value.text]
    | _ => exact absurd h (by simp [Value.asText?])
  · rintro rfl
    exact asText?_text s

/-- The value is a list of values that are as said. -/
inductive IsListOf (is : Value → α → Prop) : Value → List α → Prop
  | items {vs : List Value} {as : List α} (items : List.Forall₂ is vs as) :
    IsListOf is (.array vs) as

theorem not_isListOf_null (is : Value → α → Prop) (as : List α) : ¬IsListOf is .null as := by
  rintro ⟨⟩

/-- A field that is a list, if its items are read as said. -/
theorem asList?_eq_some_iff {read : Value → Option α} {is : Value → α → Prop}
    (h : ∀ v a, read v = some a ↔ is v a) {as : List α} :
    v.asList? read = some as ↔ IsListOf is v as := by
  have hmapM : ∀ {vs as}, vs.mapM read = some as ↔ List.Forall₂ is vs as := by
    intro vs as
    induction vs generalizing as with
    | nil => simp [eq_comm]
    | cons v vs ih =>
      cases as with
      | nil => simp [List.mapM_cons, Option.bind_eq_some_iff]
      | cons a as => simp [List.mapM_cons, Option.bind_eq_some_iff, h, ih]
  constructor
  · intro hread
    cases v with
    | array vs => exact .items (hmapM.1 hread)
    | _ => exact absurd hread (by simp [Value.asList?])
  · rintro ⟨items⟩
    exact hmapM.2 items

/-- The field is missing or null, or its value is as said. -/
inductive IsOptional (is : Value → α → Prop) : Option Value → Option α → Prop
  | missing : IsOptional is none none
  | null : IsOptional is (some .null) none
  | given {v : Value} {a : α} (given : is v a) : IsOptional is (some v) (some a)

/-- A field that has to be there. -/
theorem needed?_eq_some_iff {read : Value → Option α} {is : Value → α → Prop}
    (h : ∀ v a, read v = some a ↔ is v a) {a : α} :
    needed? read field = some a ↔ ∃ v, field = some v ∧ is v a := by
  simp only [needed?, Option.bind_eq_some_iff, h]

/-- A field that may be missing, if nothing of its kind is null. -/
theorem optional?_eq_some_iff {read : Value → Option α} {is : Value → α → Prop}
    (h : ∀ v a, read v = some a ↔ is v a) (hnull : ∀ a, ¬is .null a) {a : Option α} :
    optional? read field = some a ↔ IsOptional is field a := by
  constructor
  · intro hread
    cases field with
    | none => rw [← Option.some.inj hread]; exact .missing
    | some v =>
      -- A null is read as a missing field, before the value is looked at.
      by_cases hv : v = .null
      · subst hv
        rw [← Option.some.inj hread]
        exact .null
      · rw [optional?, asOptional?_of_ne_null _ hv, Option.map_eq_some_iff] at hread
        obtain ⟨a, ha, rfl⟩ := hread
        exact .given ((h v a).1 ha)
  · rintro (_ | _ | ⟨given⟩)
    · rfl
    · rfl
    · next v a =>
      have hv : v ≠ .null := by
        rintro rfl
        exact hnull a given
      rw [optional?, asOptional?_of_ne_null _ hv, (h v a).2 given, Option.map_some]

end PageHarvest.Json
