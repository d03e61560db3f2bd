import PageHarvest.Artifact
import PageHarvest.Blob.Bucket
import PageHarvest.Proofs.Blob.Store

/-!
# Keys of artifacts

The key of an artifact has three parts: the stem, the owner, and the position with the extension of the
kind.  Identifiers are written with a fixed number of characters, so that a key tells its owner, its
position and its kind (`key_eq_iff`).  No character of a key has a special meaning, and so a key
stands as it is in the path of the object (`toText_ofKey?_key`) and in an address (`address_key`).  In a
store, no artifact takes the place of another (`get_of_put`).
-/

namespace PageHarvest

open Text

variable {c : Char} {s : List Char} {u u' v v' : Uuid} {k k' : Artifact}

/-! ### Written identifiers -/

theorem Uuid.mem_hyphenate {ns : List Nat} (h : c ∈ hyphenate ns s) : c = '-' ∨ c ∈ s := by
  induction ns generalizing s with
  | nil => exact .inr h
  | cons n ns ih =>
    rw [hyphenate, List.mem_append, List.mem_cons] at h
    obtain h | rfl | h := h
    · exact .inr (List.mem_of_mem_take h)
    · exact .inl rfl
    · exact (ih h).imp id List.mem_of_mem_drop

/-- A written identifier consists of hyphens and digits. -/
theorem Uuid.mem_toText (h : c ∈ u.toText) : c = '-' ∨ ∃ d, c = Hex.digit d := by
  refine (mem_hyphenate h).imp id ?_
  intro hc
  obtain ⟨d, -, rfl⟩ := List.mem_map.1 hc
  exact ⟨d, rfl⟩

/-- What holds of hyphens and digits holds of all characters of a written identifier. -/
theorem Uuid.all_toText {p : Char → Bool} (hyphen : p '-' = true)
    (digit : ∀ d, p (Hex.digit d) = true) (u : Uuid) : ∀ c ∈ u.toText, p c = true := by
  intro c hc
  obtain rfl | ⟨d, rfl⟩ := mem_toText hc
  · exact hyphen
  · exact digit d

namespace Artifact

theorem extension_injective (h : k.extension.toList = k'.extension.toList) : k = k' := by
  cases k with
  | content => cases k' with
    | content => rfl
    | analysis => exact absurd h (by decide)
  | analysis => cases k' with
    | content => exact absurd h (by decide)
    | analysis => rfl

/-- **A key tells its owner, its position and its kind.** -/
theorem key_eq_iff : key u v k = key u' v' k' ↔ u = u' ∧ v = v' ∧ k = k' := by
  constructor
  · intro h
    simp only [key, List.append_assoc, List.append_cancel_left_eq, List.cons_append,
      List.cons.injEq, true_and] at h
    -- The owner ends after as many characters as any identifier has, and so does the position.
    obtain ⟨howner, h⟩ := List.append_inj h (by rw [Uuid.length_toText, Uuid.length_toText])
    obtain ⟨-, h⟩ := List.cons.inj h
    obtain ⟨hposition, h⟩ := List.append_inj h (by rw [Uuid.length_toText, Uuid.length_toText])
    obtain ⟨-, hkind⟩ := List.cons.inj h
    exact ⟨Uuid.toText_injective howner, Uuid.toText_injective hposition,
      extension_injective hkind⟩
  · rintro ⟨rfl, rfl, rfl⟩
    rfl

/-! ### Paths -/

/-- The parts of a key. -/
def keyParts (owner position : Uuid) (kind : Artifact) : List (List Char) :=
  [keyStem.toList, owner.toText, position.toText ++ '.' :: kind.extension.toList]

theorem intercalate_keyParts (u v : Uuid) (k : Artifact) :
    List.intercalate ['/'] (keyParts u v k) = key u v k := by
  simp [keyParts, key, List.intercalate]

/-- What holds of hyphens, digits and the fixed characters of keys holds of all characters of the parts
of a key. -/
theorem all_keyParts {p : Char → Bool} (hyphen : p '-' = true)
    (digit : ∀ d, p (Hex.digit d) = true) (stem : keyStem.toList.all p = true)
    (extension : ∀ k : Artifact, ('.' :: k.extension.toList).all p = true) (u v : Uuid)
    (k : Artifact) : ∀ part ∈ keyParts u v k, ∀ c ∈ part, p c = true := by
  intro part hpart
  simp only [keyParts, List.mem_cons, List.not_mem_nil, or_false] at hpart
  obtain rfl | rfl | rfl := hpart
  · exact List.all_eq_true.1 stem
  · exact Uuid.all_toText hyphen digit u
  · intro c hc
    rw [List.mem_append] at hc
    obtain hc | hc := hc
    · exact Uuid.all_toText hyphen digit v c hc
    · exact List.all_eq_true.1 (extension k) c hc

/-- The parts of a key need no escape. -/
theorem isPlain_of_mem_keyParts : ∀ part ∈ keyParts u v k, ∀ c ∈ part, Blob.isPlain c = true :=
  all_keyParts (by decide) (by decide) (by decide) (by rintro (_ | _) <;> decide) u v k

theorem length_of_mem_keyParts : ∀ part ∈ keyParts u v k, 3 ≤ part.length := by
  intro part hpart
  simp only [keyParts, List.mem_cons, List.not_mem_nil, or_false] at hpart
  obtain rfl | rfl | rfl := hpart
  · decide
  · rw [Uuid.length_toText]
    omega
  · rw [List.length_append, Uuid.length_toText]
    omega

theorem parts_key (u v : Uuid) (k : Artifact) :
    Blob.parts (String.ofList (key u v k)) = keyParts u v k := by
  have hsplit : (key u v k).splitOn '/' = keyParts u v k := by
    rw [← intercalate_keyParts]
    apply List.splitOn_intercalate
    · intro part hpart hslash
      exact absurd (isPlain_of_mem_keyParts part hpart '/' hslash) (by decide)
    · exact List.cons_ne_nil _ _
  -- No part is empty, so that none is left out.
  rw [Blob.parts, String.toList_ofList, hsplit, List.filter_eq_self]
  intro part hpart
  have hlength := length_of_mem_keyParts part hpart
  rw [decide_eq_true_eq]
  rintro rfl
  exact absurd hlength (by decide)

theorem parts_key_ne_nil (u v : Uuid) (k : Artifact) :
    Blob.parts (String.ofList (key u v k)) ≠ [] := by
  rw [parts_key]
  exact List.cons_ne_nil _ _

theorem escape_of_mem_keyParts {part : List Char} (h : part ∈ keyParts u v k) :
    Blob.escape part = part := by
  have hlength := length_of_mem_keyParts part h
  rw [Blob.escape, if_neg]
  · exact Percent.escape_eq_self (isPlain_of_mem_keyParts part h)
  -- One dot or two are no part of a key, which is longer.
  · rintro (rfl | rfl)
    · exact absurd hlength (by decide)
    · exact absurd hlength (by decide)

/-- **The text of the path of an artifact is its key.** -/
theorem toText_ofKey?_key (u v : Uuid) (k : Artifact) :
    (Blob.Path.ofKey? (key u v k)).map Blob.Path.toText = some (key u v k) := by
  have hpath := Blob.ofKey?_of_parts_ne_nil (parts_key_ne_nil u v k)
  rw [parts_key, String.toList_ofList] at hpath
  have hparts : (keyParts u v k).map Blob.escape = keyParts u v k := by
    rw [List.map_congr_left fun part hpart => escape_of_mem_keyParts hpart, List.map_id'']
    exact fun part => rfl
  rw [hpath, hparts, Option.map_some, Blob.Path.toText, intercalate_keyParts]

/-- The address of an artifact in a bucket ends with its key. -/
theorem address_key (b : Blob.Bucket) {path : Blob.Path} (h : path.toText = key u v k) :
    b.address path = (b.endpoint.toList.reverse.dropWhile (· == '/')).reverse ++ '/' ::
      b.name.toList ++ '/' :: key u v k := by
  have hparts : ∀ part ∈ keyParts u v k, ∀ c ∈ part, Blob.Bucket.isPlain c = true :=
    all_keyParts (by decide) (by decide) (by decide) (by rintro (_ | _) <;> decide) u v k
  rw [keyParts, List.forall_mem_cons, List.forall_mem_cons, List.forall_mem_cons] at hparts
  obtain ⟨hstem, howner, hposition, -⟩ := hparts
  have hplain : ∀ c ∈ key u v k, Blob.Bucket.isPlain c = true := by
    intro c hc
    simp only [key, List.append_assoc, List.cons_append, List.mem_append, List.mem_cons] at hc
    obtain hc | rfl | hc | rfl | hc := hc
    · exact hstem c hc
    · decide
    · exact howner c hc
    · decide
    · exact hposition c (List.mem_append.2 (hc.imp id List.mem_cons.2))
  rw [Blob.Bucket.address, h, Percent.escape_eq_self hplain]

/-! ### Artifacts in a store -/

variable {store store' : Blob.Store} {body : List UInt8}

/-- Keys with the same parts are the same. -/
theorem parts_key_inj : Blob.parts (String.ofList (key u v k))
    = Blob.parts (String.ofList (key u' v' k')) ↔ key u v k = key u' v' k' := by
  constructor
  · intro h
    rw [parts_key, parts_key] at h
    rw [← intercalate_keyParts, h, intercalate_keyParts]
  · intro h
    rw [h]

/-- An artifact can always be put to a store. -/
theorem exists_put (store : Blob.Store) (u v : Uuid) (k : Artifact) (body : List UInt8) :
    ∃ store', store.put (String.ofList (key u v k)) body = .ok store' :=
  ⟨_, Blob.Store.put_of_parts_ne_nil (parts_key_ne_nil u v k)⟩

/-- What a put leaves under the key of an artifact. -/
theorem get_of_put (h : store.put (String.ofList (key u v k)) body = .ok store') (u' v' : Uuid)
    (k' : Artifact) : store'.get (String.ofList (key u' v' k'))
      = if key u v k = key u' v' k' then .ok body
        else store.get (String.ofList (key u' v' k')) := by
  have hon : Blob.Call.on store (.put (String.ofList (key u v k)) body) = store' := by
    simp only [Blob.Call.on, h]
  have hne := parts_key_ne_nil u' v' k'
  rw [← hon, Blob.Store.get_of_parts_ne_nil hne, Blob.Store.body?_on hne, Blob.Call.bodyUnder?]
  simp only [parts_key_inj]
  -- Under the key that was put there is the body, under others what was there before.
  split
  · rfl
  · rw [Blob.Store.get_of_parts_ne_nil hne, Option.none_or]

end Artifact

end PageHarvest
