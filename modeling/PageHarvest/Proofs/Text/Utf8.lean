import PageHarvest.Text.Utf8

/-!
# UTF-8 is read as it is written

The first byte of a character calls for the bytes after it, and the bounds for the next one let each
character through (`lead?_two`, `exists_lead?_three`, `exists_lead?_four`).  So the bytes of a text
are read as that text, without gaps (`decode_encode`), and no two texts are spelled by the same bytes
(`encode_injective`).
-/

namespace PageHarvest.Text.Utf8

/-- A later byte of a character, which carries six of its bits. -/
theorem complete_tail {bits low high m : Nat} (hlow : low ≤ m % 64 + 128)
    (hhigh : m % 64 + 128 ≤ high) (n : Nat) (bs : List UInt8) :
    complete bits low high (n + 1) (UInt8.ofNat (m % 64 + 128) :: bs)
      = complete (64 * bits + m % 64) 0x80 0xBF n bs := by
  have hbyte : (UInt8.ofNat (m % 64 + 128)).toNat = m % 64 + 128 :=
    UInt8.toNat_ofNat_of_lt' (by show _ < 256; omega)
  have hbits : (m % 64 + 128) % 64 = m % 64 := by omega
  rw [complete, hbyte, if_pos ⟨hlow, hhigh⟩, hbits]

theorem lead?_two {v : Nat} (hlow : 0x7F < v) (hhigh : v ≤ 0x7FF) :
    lead? (v / 64 % 32 + 192) = some (v / 64, 1, 0x80, 0xBF) := by
  have hbits : v / 64 % 32 + 192 - 0xC0 = v / 64 := by omega
  rw [lead?, if_pos (by omega), hbits]

/-- The bounds keep out longer forms and halves of surrogate pairs, which no character comes to. -/
theorem exists_lead?_three {v : Nat} (hlow : 0x7FF < v) (hhigh : v ≤ 0xFFFF)
    (hvalid : v.isValidChar) :
    ∃ low high, lead? (v / 4096 % 16 + 224) = some (v / 4096, 2, low, high) ∧
      low ≤ v / 64 % 64 + 128 ∧ v / 64 % 64 + 128 ≤ high := by
  have hbits : v / 4096 % 16 + 224 - 0xE0 = v / 4096 := by omega
  unfold lead?
  rw [if_neg (by omega)]
  split
  · next h => exact ⟨0xA0, 0xBF, by rw [show v / 4096 = 0 by omega], by omega⟩
  · split
    · next h => exact ⟨0x80, 0x9F, by rw [show v / 4096 = 0xD by omega], by omega⟩
    · rw [if_pos (by omega), hbits]
      exact ⟨0x80, 0xBF, rfl, by omega⟩

theorem exists_lead?_four {v : Nat} (hlow : 0xFFFF < v) (hvalid : v.isValidChar) :
    ∃ low high, lead? (v / 262144 % 8 + 240) = some (v / 262144, 3, low, high) ∧
      low ≤ v / 4096 % 64 + 128 ∧ v / 4096 % 64 + 128 ≤ high := by
  have hbits : v / 262144 % 8 + 240 - 0xF0 = v / 262144 := by omega
  unfold lead?
  rw [if_neg (by omega), if_neg (by omega), if_neg (by omega), if_neg (by omega)]
  split
  · next h => exact ⟨0x90, 0xBF, by rw [show v / 262144 = 0 by omega], by omega⟩
  · split
    · next h => exact ⟨0x80, 0xBF, by rw [hbits], by omega⟩
    · rw [if_pos (by omega)]
      exact ⟨0x80, 0x8F, by rw [show v / 262144 = 4 by omega], by omega⟩

/-- No byte that stands for a character by itself calls for others. -/
theorem le_of_lead? {b : Nat} {l : Nat × Nat × Nat × Nat} (h : lead? b = some l) : 0x80 ≤ b := by
  apply Nat.le_of_not_lt
  intro hb
  have hnone : lead? b = none := by
    unfold lead?
    rw [if_neg (by omega), if_neg (by omega), if_neg (by omega), if_neg (by omega),
      if_neg (by omega), if_neg (by omega), if_neg (by omega)]
  rw [hnone] at h
  exact absurd h (by simp)

theorem decodeOne_of_lead? {b bits n low high : Nat} (hb : b < 256)
    (h : lead? b = some (bits, n, low, high)) (bs : List UInt8) :
    decodeOne (UInt8.ofNat b) bs = complete bits low high n bs := by
  have hbyte : (UInt8.ofNat b).toNat = b := UInt8.toNat_ofNat_of_lt' hb
  rw [decodeOne, hbyte, if_neg (Nat.not_lt.2 (le_of_lead? h)), h]

/-- The first byte of a character calls for just the other ones. -/
theorem exists_decodeOne_encodeChar (c : Char) :
    ∃ b bs, String.utf8EncodeChar c = b :: bs ∧ ∀ r, decodeOne b (bs ++ r) = (some c, r) := by
  have hvalid : c.val.toNat.isValidChar := c.valid
  have hlt : c.val.toNat < 0x110000 := by omega
  have hchar : ∀ {n}, n = c.val.toNat → (some (Char.ofNat n) : Symbol) = some c := by
    rintro n rfl
    exact congrArg some (Char.ofNat_toNat c)
  rw [String.utf8EncodeChar]
  -- One case for each number of bytes.
  split
  · next hone =>
    have hbyte : (UInt8.ofNat c.val.toNat).toNat = c.val.toNat :=
      UInt8.toNat_ofNat_of_lt' (by show _ < 256; omega)
    refine ⟨_, _, rfl, fun r => ?_⟩
    rw [decodeOne, hbyte, if_pos (by omega), hchar rfl, List.nil_append]
  split
  · next hone htwo =>
    have hlead := lead?_two (by omega) htwo
    refine ⟨_, _, rfl, fun r => ?_⟩
    rw [decodeOne_of_lead? (by omega) hlead, List.cons_append, List.nil_append,
      complete_tail (by omega) (by omega), complete, hchar (by omega)]
  split
  · next hone htwo hthree =>
    obtain ⟨low, high, hlead, hlow, hhigh⟩ := exists_lead?_three (by omega) hthree hvalid
    refine ⟨_, _, rfl, fun r => ?_⟩
    rw [decodeOne_of_lead? (by omega) hlead, List.cons_append, List.cons_append, List.nil_append,
      complete_tail hlow hhigh, complete_tail (by omega) (by omega), complete, hchar (by omega)]
  · next hone htwo hthree =>
    obtain ⟨low, high, hlead, hlow, hhigh⟩ := exists_lead?_four (by omega) hvalid
    refine ⟨_, _, rfl, fun r => ?_⟩
    rw [decodeOne_of_lead? (by omega) hlead, List.cons_append, List.cons_append, List.cons_append,
      List.nil_append, complete_tail hlow hhigh, complete_tail (by omega) (by omega),
      complete_tail (by omega) (by omega), complete, hchar (by omega)]

/-- **Reading the bytes of a text gives the text.** -/
theorem decode_encode (s : List Char) : decode (encode s) = Symbol.ofText s := by
  induction s with
  | nil => rw [encode, List.flatMap_nil, decode, Symbol.ofText_nil]
  | cons c s ih =>
    obtain ⟨b, bs, hc, hone⟩ := exists_decodeOne_encodeChar c
    have hencode : encode (c :: s) = b :: (bs ++ encode s) := by
      rw [encode, List.flatMap_cons, hc, List.cons_append, encode]
    rw [hencode, decode, hone, ih, Symbol.ofText_cons]

/-- No two texts are spelled by the same bytes. -/
theorem encode_injective {s t : List Char} (h : encode s = encode t) : s = t := by
  have hread : Symbol.text? (decode (encode s)) = Symbol.text? (decode (encode t)) := by rw [h]
  rw [decode_encode, decode_encode, Symbol.text?_ofText, Symbol.text?_ofText] at hread
  exact Option.some.inj hread

end PageHarvest.Text.Utf8
