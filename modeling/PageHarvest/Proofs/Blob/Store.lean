import PageHarvest.Proofs.Blob.Path

/-!
# What a store keeps

A store maps the parts of keys to bodies: `body?` is what it has under some parts.  One call puts a body
there or leaves it (`body?_on`), so after any calls the last body put under the parts is there
(`body?_after`).  `get` gives just that, and refuses keys without parts (`keeps_latest`).
-/

namespace PageHarvest.Blob

namespace Store

variable {store : Store} {key : String} {body : List UInt8} {ps : List (List Char)}

/-- What the store has under the keys with these parts. -/
def body? (store : Store) (ps : List (List Char)) : Option (List UInt8) :=
  store.objects.lookup ⟨ps.map escape⟩

/-- A key without parts is refused, whatever the store holds. -/
theorem get_of_parts_eq_nil (h : parts key = []) : store.get key = .error .emptyKey := by
  rw [Store.get, ofKey?_of_parts_eq_nil h]

theorem put_of_parts_eq_nil (h : parts key = []) : store.put key body = .error .emptyKey := by
  rw [Store.put, ofKey?_of_parts_eq_nil h]

/-- Any other key is looked up by its parts. -/
theorem get_of_parts_ne_nil (h : parts key ≠ []) :
    store.get key = (store.body? (parts key)).elim (.error (.notFound key)) .ok := by
  unfold body?
  simp only [Store.get, ofKey?_of_parts_ne_nil h]
  cases store.objects.lookup ⟨(parts key).map escape⟩ with
  | none => rfl
  | some body => rfl

/-- A body goes in front of those that are there, so that it is found before them. -/
theorem put_of_parts_ne_nil (h : parts key ≠ []) :
    store.put key body = .ok ⟨(⟨(parts key).map escape⟩, body) :: store.objects⟩ := by
  rw [Store.put, ofKey?_of_parts_ne_nil h]

/-! ### One call -/

theorem on_put_of_parts_eq_nil (h : parts key = []) : Call.on store (.put key body) = store := by
  rw [Call.on, put_of_parts_eq_nil h]

/-- What a call leaves under some parts: the body it puts there, or else what was there. -/
theorem body?_on (hps : ps ≠ []) (store : Store) (call : Call) :
    (call.on store).body? ps = (call.bodyUnder? ps).or (store.body? ps) := by
  cases call with
  | get key => rfl
  | put key body =>
    rw [Call.bodyUnder?]
    by_cases hkey : parts key = []
    · -- The call is refused, and its key is none of those that are asked about.
      have hne : parts key ≠ ps := by
        rw [hkey]
        exact hps.symm
      rw [on_put_of_parts_eq_nil hkey, if_neg hne, Option.none_or]
    · rw [Call.on, put_of_parts_ne_nil hkey, body?, List.lookup_cons]
      by_cases h : parts key = ps
      · subst h
        rw [beq_self_eq_true, if_pos rfl]
        rfl
      · -- Another path, since escaping tells the parts apart.
        have hpath : ((⟨ps.map escape⟩ : Path) == ⟨(parts key).map escape⟩) = false := by
          rw [beq_eq_false_iff_ne]
          intro hsame
          exact h (map_escape_inj.1 (congrArg Path.segments hsame)).symm
        rw [hpath, if_neg h, Option.none_or]
        rfl

/-! ### Any calls -/

theorem bodiesUnder_cons (call : Call) (calls : List Call) :
    bodiesUnder ps (call :: calls) = (call.bodyUnder? ps).toList ++ bodiesUnder ps calls := by
  unfold bodiesUnder
  cases h : call.bodyUnder? ps with
  | none => rw [List.filterMap_cons_none h]; rfl
  | some body => rw [List.filterMap_cons_some h]; rfl

/-- What some calls leave under some parts: the last body that they put there, or else what was there. -/
theorem body?_after (hps : ps ≠ []) (store : Store) (calls : List Call) :
    (store.after calls).body? ps = (bodiesUnder ps calls).getLast?.or (store.body? ps) := by
  -- On the calls, the first one taken into the store: what is put later counts more.
  induction calls generalizing store with
  | nil => rfl
  | cons call calls ih =>
    have hafter : store.after (call :: calls) = (call.on store).after calls := rfl
    rw [hafter, ih, body?_on hps, bodiesUnder_cons, List.getLast?_append, Option.or_assoc]
    cases call.bodyUnder? ps with
    | none => rfl
    | some body => rfl

/-- What is found in a store that began empty. -/
theorem get_after (h : parts key ≠ []) (calls : List Call) :
    (empty.after calls).get key
      = (bodiesUnder (parts key) calls).getLast?.elim (.error (.notFound key)) .ok := by
  have hempty : empty.body? (parts key) = none := rfl
  rw [get_of_parts_ne_nil h, body?_after h, hempty, Option.or_none]

/-- **A store keeps what was put last under the parts of a key.**  After any calls, `get` gives the last
body put under a key with the same parts, and nothing if there is none.  Keys without parts are refused
and change nothing, and what is under other parts stays when something is put.  Keys have the same
parts exactly if the texts of their paths are the same. -/
theorem keeps_latest :
    (∀ calls key body, (empty.after calls).get key = .ok body ↔
      parts key ≠ [] ∧ (bodiesUnder (parts key) calls).getLast? = some body) ∧
    (∀ calls key, (∃ e, (empty.after calls).get key = .error e) ↔
      parts key = [] ∨ bodiesUnder (parts key) calls = []) ∧
    (∀ (store : Store) key body, parts key = [] →
      store.get key = .error .emptyKey ∧ store.put key body = .error .emptyKey ∧
        Call.on store (.put key body) = store) ∧
    (∀ (store : Store) key key' body, parts key' ≠ parts key →
      (Call.on store (.put key' body)).get key = store.get key) ∧
    ∀ key key' : String,
      (Path.ofKey? key.toList).map Path.toText = (Path.ofKey? key'.toList).map Path.toText ↔
        parts key = parts key' := by
  refine ⟨?_, ?_, ?_, ?_, map_toText_ofKey?_eq_iff⟩
  · intro calls key body
    by_cases h : parts key = []
    · simp [get_of_parts_eq_nil h, h]
    · rw [get_after h]
      cases (bodiesUnder (parts key) calls).getLast? with
      | none => simp
      | some latest => simp [h]
  · intro calls key
    by_cases h : parts key = []
    · simp [get_of_parts_eq_nil h, h]
    · have hnone : bodiesUnder (parts key) calls = [] ↔
          (bodiesUnder (parts key) calls).getLast? = none := List.getLast?_eq_none_iff.symm
      rw [get_after h, hnone]
      cases (bodiesUnder (parts key) calls).getLast? with
      | none => simp
      | some latest => simp [h]
  · intro store key body h
    exact ⟨get_of_parts_eq_nil h, put_of_parts_eq_nil h, on_put_of_parts_eq_nil h⟩
  · intro store key key' body hne
    by_cases h : parts key = []
    · rw [get_of_parts_eq_nil h, get_of_parts_eq_nil h]
    · rw [get_of_parts_ne_nil h, get_of_parts_ne_nil h, body?_on h, Call.bodyUnder?, if_neg hne,
        Option.none_or]

/-- Keys that look alike: the first and the fourth have the same parts, the others have parts of their
own, or none. -/
private def lookalikes : List Call :=
  [.put "/a//b" [1], .put "a%2Fb" [2], .put "a/./b" [3], .put "a/b/" [4], .put "//" [5],
    .put "a/b\x01é" [6]]

/-- The last body under the parts `a` and `b` is kept, and a put under other parts leaves it. -/
theorem keeps_latest_lookalikes :
    (empty.after lookalikes).get "a/b" = .ok [4] ∧
    (Call.on (empty.after lookalikes) (.put "a/../b" [6])).get "a/b" = .ok [4] ∧
    (empty.after lookalikes).get "//" = .error .emptyKey := by
  obtain ⟨hget, -, hrefused, hother, -⟩ := keeps_latest
  have hlatest : (empty.after lookalikes).get "a/b" = .ok [4] :=
    (hget lookalikes "a/b" [4]).2 (by decide +kernel)
  refine ⟨hlatest, ?_, (hrefused (empty.after lookalikes) "//" [] (by decide +kernel)).1⟩
  rw [hother _ "a/b" "a/../b" [6] (by decide +kernel)]
  exact hlatest

end Store

end PageHarvest.Blob
