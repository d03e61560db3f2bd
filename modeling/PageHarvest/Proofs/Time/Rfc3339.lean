import PageHarvest.Time.Rfc3339
import Mathlib.Data.Nat.Digits.Defs
import Mathlib.Tactic.SplitIfs

/-!
# Instants and their texts

Not every instant has a text of its own: the leap second of a minute is told by a sixtieth second, so
that it has to follow the last one of the minute (`Instant.IsWritable`).  What has a text is read
back from it (`Instant.ofText?_toText`), and nothing else is ever read (`isWritable_of_ofText?`), since
places differ by whole minutes from universal time.
-/

namespace PageHarvest.Time

open Text

/-! ### Digits -/

/-- So many digits stand for a number below that power of ten. -/
theorem ofDigitChars_lt {ds : List Char} (h : ∀ c ∈ ds, c.isDigit = true) :
    Nat.ofDigitChars 10 ds 0 < 10 ^ ds.length := by
  -- On the digits: the first one counts a power of ten that the others do not reach.
  induction ds with
  | nil => simp
  | cons c ds ih =>
    rw [List.forall_mem_cons] at h
    have hc : c.toNat - '0'.toNat < 10 := by
      have := Char.isDigit_iff_toNat.1 h.1
      simp only [Char.reduceToNat] at this ⊢
      omega
    have hds := ih h.2
    rw [Nat.ofDigitChars_cons, Nat.ofDigitChars_eq_ofDigitChars_zero, List.length_cons,
      Nat.mul_zero, Nat.zero_add]
    calc 10 ^ ds.length * (c.toNat - '0'.toNat) + Nat.ofDigitChars 10 ds 0
        < 10 ^ ds.length * (c.toNat - '0'.toNat) + 10 ^ ds.length := Nat.add_lt_add_left hds _
      _ = 10 ^ ds.length * (c.toNat - '0'.toNat + 1) := (Nat.mul_succ _ _).symm
      _ ≤ 10 ^ ds.length * 10 := Nat.mul_le_mul_left _ hc

/-- A padded number is written in digits. -/
theorem isDigit_padded (width n : Nat) : ∀ c ∈ padded width n, c.isDigit = true := by
  intro c hc
  rw [padded] at hc
  obtain hc | hc := List.mem_append.1 hc
  · rw [(List.mem_replicate.1 hc).2]
    rfl
  · exact Nat.isDigit_of_mem_toDigits (by decide) (by decide) hc

theorem padded_ne_nil (width n : Nat) : padded width n ≠ [] :=
  List.append_ne_nil_of_right_ne_nil _ Nat.toDigits_ne_nil

/-- The zeros at the front do not change the number. -/
theorem ofDigitChars_padded (width n : Nat) : Nat.ofDigitChars 10 (padded width n) 0 = n := by
  rw [padded, Nat.ofDigitChars_append, Nat.ofDigitChars_replicate_zero, Nat.mul_zero,
    Nat.ofDigitChars_ten_toDigits]

/-- A number that fits is padded to exactly the width. -/
theorem length_padded {width n : Nat} (hw : 0 < width) (h : n < 10 ^ width) :
    (padded width n).length = width := by
  have := Nat.toDigits_length 10 n width hw h
  rw [padded, List.length_append, List.length_replicate]
  omega

/-- The digits at the front, of which there are as many as are wanted or no more. -/
theorem takeWhile_take_append {width : Nat} {ds r : List Char}
    (hds : ∀ c ∈ ds, c.isDigit = true) (hw : ds.length ≤ width)
    (hr : ds.length = width ∨ ∀ c ∈ r.head?, c.isDigit = false) :
    ((ds ++ r).take width).takeWhile Char.isDigit = ds := by
  rw [List.take_append, List.take_of_length_le hw, List.takeWhile_append_of_pos hds,
    List.append_right_eq_self]
  -- What is taken of the rest is nothing, or begins with no digit.
  obtain hfull | hr := hr
  · rw [hfull, Nat.sub_self, List.take_zero, List.takeWhile_nil]
  · cases r with
    | nil => rw [List.take_nil, List.takeWhile_nil]
    | cons c r =>
      cases width - ds.length with
      | zero => rfl
      | succ k => rw [List.take_succ_cons, List.takeWhile_cons_of_neg (by simpa using hr)]

/-- Digits are read, either as many as are wanted or all that there are. -/
theorem readDigits_append {width : Nat} {ds r : List Char} (hds : ∀ c ∈ ds, c.isDigit = true)
    (hne : ds ≠ []) (hw : ds.length ≤ width)
    (hr : ds.length = width ∨ ∀ c ∈ r.head?, c.isDigit = false) :
    readDigits width (ds ++ r) = some (Nat.ofDigitChars 10 ds 0, r) := by
  rw [readDigits, takeWhile_take_append hds hw hr]
  cases ds with
  | nil => exact absurd rfl hne
  | cons d ds => simp

/-- A number that fits its width is read, whatever comes next. -/
theorem readDigits_padded {width n : Nat} (hw : 0 < width) (h : n < 10 ^ width) (r : List Char) :
    readDigits width (padded width n ++ r) = some (n, r) := by
  have hlen := length_padded hw h
  rw [readDigits_append (isDigit_padded width n) (padded_ne_nil width n) hlen.le (.inl hlen),
    ofDigitChars_padded]

theorem head?_padded (width n : Nat) (r : List Char) :
    ∀ c ∈ (padded width n ++ r).head?, c.isDigit = true := by
  have hall := isDigit_padded width n
  cases h : padded width n with
  | nil => exact absurd h (padded_ne_nil width n)
  | cons d ds =>
    rw [h] at hall
    simpa using hall d List.mem_cons_self

/-! ### Parts of a text -/

theorem isBlank_of_isDigit {c : Char} (h : c.isDigit = true) : isBlank c = false := by
  have := Char.isDigit_iff_toNat.1 h
  simp only [Char.reduceToNat] at this
  simp only [isBlank, Bool.or_eq_false_iff, Bool.and_eq_false_iff, decide_eq_false_iff_not,
    beq_eq_false_iff_ne, ne_eq]
  omega

theorem trimLeft_padded (width n : Nat) (r : List Char) :
    trimLeft (padded width n ++ r) = padded width n ++ r :=
  trimLeft_eq_self fun c hc => isBlank_of_isDigit (head?_padded width n r c hc)

theorem readTwo_padded {n : Nat} (h : n < 100) (r : List Char) :
    readTwo (padded 2 n ++ r) = some (n, r) := by
  rw [readTwo, trimLeft_padded, readDigits_padded (by decide) h]

theorem readLong_padded (width n : Nat) {r : List Char} (hr : ∀ c ∈ r.head?, c.isDigit = false) :
    readLong (padded width n ++ r) = some (n, r) := by
  rw [readLong, readDigits_append (isDigit_padded width n) (padded_ne_nil width n) (by simp)
    (.inr hr), ofDigitChars_padded]

theorem readMark_cons {mark : Char} (h : isBlank mark = false) (r : List Char) :
    readMark mark (mark :: r) = some r := by
  rw [readMark, trimLeft_eq_self (by simpa using h)]
  exact if_pos rfl

/-- A year that begins with a digit has no sign. -/
theorem readYear_of_isDigit {s : List Char} (h : ∀ c ∈ s.head?, c.isDigit = true) :
    readYear s = (readDigits 4 s).map fun (n, r) => ((n : Int), r) := by
  rw [readYear, trimLeft_eq_self fun c hc => isBlank_of_isDigit (h c hc)]
  split
  · exact absurd (h '-' rfl) (by decide)
  · exact absurd (h '+' rfl) (by decide)
  · rfl

/-- Years of four digits have no sign; others have one, and are over where the digits end. -/
theorem readYear_writeYear (y : Int) {r : List Char} (hr : ∀ c ∈ r.head?, c.isDigit = false) :
    readYear (writeYear y ++ r) = some (y, r) := by
  have hblank : ∀ (sign : Char) (s : List Char), isBlank sign = false →
      trimLeft (sign :: s) = sign :: s := fun sign s h => trimLeft_eq_self (by simpa using h)
  rw [writeYear]
  split_ifs with hfour hneg
  · rw [readYear_of_isDigit (head?_padded 4 y.toNat r), readDigits_padded (by decide) (by omega)]
    simp [hfour.1]
  · rw [readYear, List.cons_append, hblank '-' _ (by decide)]
    simp only [readLong_padded 4 y.natAbs hr, Option.map_some]
    rw [Int.ofNat_natAbs_of_nonpos (by omega), Int.neg_neg]
  · rw [readYear, List.cons_append, hblank '+' _ (by decide)]
    simp only [readLong_padded 4 y.natAbs hr, Option.map_some]
    rw [Int.natAbs_of_nonneg (by omega)]

/-- A fraction of so many digits. -/
theorem readFraction_padded {width n : Nat} (hw : 0 < width) (hnine : width ≤ 9)
    (h : n < 10 ^ width) {r : List Char} (hr : ∀ c ∈ r.head?, c.isDigit = false) :
    readFraction ('.' :: padded width n ++ r) = some (n * Nat.pow 10 (9 - width), r) := by
  have hlen := length_padded hw h
  have htake : ((padded width n ++ r).take 9).takeWhile Char.isDigit = padded width n :=
    takeWhile_take_append (isDigit_padded width n) (by omega) (.inr hr)
  have hrest : r.dropWhile Char.isDigit = r := by
    cases r with
    | nil => rfl
    | cons c r => rw [List.dropWhile_cons_of_neg (by simpa using hr)]
  simp only [readFraction, List.cons_append, htake]
  split
  · next hnil => exact absurd hnil (padded_ne_nil width n)
  · rw [ofDigitChars_padded, List.drop_left, hrest, hlen]

theorem readFraction_absent {r : List Char} (hr : r.head? ≠ some '.') :
    readFraction r = some (0, r) := by
  rw [readFraction]
  rintro s rfl
  exact hr rfl

/-- The fraction is written in three, six or nine digits, or not at all; each is read as the same
nanoseconds. -/
theorem readFraction_writeFraction {nano : Nat} (h : nano < nanosPerSecond) {r : List Char}
    (hr : ∀ c ∈ r.head?, c.isDigit = false) (hpoint : r.head? ≠ some '.') :
    readFraction (writeFraction nano ++ r) = some (nano, r) := by
  rw [nanosPerSecond] at h
  rw [writeFraction]
  -- What is not written is zero, so that the powers of ten give it back.
  split_ifs with hzero hmillis hmicros
  · rw [hzero, List.nil_append, readFraction_absent hpoint]
  · rw [readFraction_padded (by decide) (by decide) (by omega) hr]
    exact congrArg some (Prod.ext (show nano / 1000000 * 1000000 = nano by omega) rfl)
  · rw [readFraction_padded (by decide) (by decide) (by omega) hr]
    exact congrArg some (Prod.ext (show nano / 1000 * 1000 = nano by omega) rfl)
  · rw [readFraction_padded (by decide) (by decide) (by omega) hr]
    exact congrArg some (Prod.ext (Nat.mul_one nano) rfl)

/-! ### Dates and times of day -/

/-- A date that is written is read. -/
theorem readDate_written {y : Int} {m d : Nat} (hm : m < 100) (hd : d < 100) (r : List Char) :
    readDate (writeYear y ++ '-' :: (padded 2 m ++ '-' :: (padded 2 d ++ r)))
      = some ((y, m, d), r) := by
  have hmark : ∀ r, readMark '-' ('-' :: r) = some r := readMark_cons (by decide)
  rw [readDate, readYear_writeYear y (by simp)]
  simp only [Option.bind_eq_bind, Option.bind_some, hmark, readTwo_padded hm, readTwo_padded hd]

/-- A time of day that is written is read. -/
theorem readClock_written {hour minute second nano : Nat} (hhour : hour < 100)
    (hminute : minute < 100) (hsecond : second < 100) (hnano : nano < nanosPerSecond)
    {r : List Char} (hr : ∀ c ∈ r.head?, c.isDigit = false) (hpoint : r.head? ≠ some '.') :
    readClock (padded 2 hour ++ ':' :: (padded 2 minute ++ ':' :: (padded 2 second ++
      (writeFraction nano ++ r)))) = some ((hour, minute, second, nano), r) := by
  have hmark : ∀ r, readMark ':' (':' :: r) = some r := readMark_cons (by decide)
  rw [readClock, readTwo_padded hhour]
  simp only [Option.bind_eq_bind, Option.bind_some, hmark, readTwo_padded hminute,
    readTwo_padded hsecond, readFraction_writeFraction hnano hr hpoint]

namespace Instant

/-- A leap second, if it is one, follows the last second of a minute. -/
def IsWritable (t : Instant) : Prop := nanosPerSecond ≤ t.nano → t.second % 60 = 59

/-- In universal time, the parts are taken as they are. -/
theorem atOffset?_zero {date : Date} {second nano : Nat} (h : second < 86400) :
    atOffset? date second nano 0 = ofParts? date second nano := by
  have hneg : ¬(second : Int) - 0 < 0 := by omega
  have hday : (second : Int) - 0 < 86400 := by omega
  have hsecond : ((second : Int) - 0).toNat = second := by omega
  rw [atOffset?]
  simp only [hneg, hday, hsecond, ↓reduceIte]
  rfl

/-- The parts that an instant is read from. -/
theorem ofText?_eq_some_iff {s : List Char} {t : Instant} :
    ofText? s = some t ↔ ∃ year month day hour minute second nano offset date s₁ s₂ s₃ s₄,
      readDate s = some ((year, month, day), s₁) ∧ readDivider s₁ = some s₂ ∧
      readClock s₂ = some ((hour, minute, second, nano), s₃) ∧
      readOffset (trimLeft s₃) = some (offset, s₄) ∧ trimLeft s₄ = [] ∧
      (hour ≤ 23 ∧ minute ≤ 59 ∧ second ≤ 60) ∧ Date.ofParts? year month day = some date ∧
      atOffset? date (3600 * hour + 60 * minute + (second - second / 60))
        (second / 60 * nanosPerSecond + nano) offset = some t := by
  rw [ofText?]
  simp only [Option.bind_eq_bind, Option.bind_none, Option.ite_none_left_eq_some,
    Option.bind_eq_some_iff, Prod.exists, Bool.not_eq_true', Bool.not_eq_false,
    List.isEmpty_iff, not_or, Nat.not_lt]
  constructor
  · rintro ⟨year, month, day, s₁, hdate, s₂, hdivider, hour, minute, second, nano, s₃, hclock,
      offset, s₄, hoffset, hend, hbounds, date, hparts, h⟩
    exact ⟨year, month, day, hour, minute, second, nano, offset, date, s₁, s₂, s₃, s₄, hdate,
      hdivider, hclock, hoffset, hend, hbounds, hparts, h⟩
  · rintro ⟨year, month, day, hour, minute, second, nano, offset, date, s₁, s₂, s₃, s₄, hdate,
      hdivider, hclock, hoffset, hend, hbounds, hparts, h⟩
    exact ⟨year, month, day, s₁, hdate, s₂, hdivider, hour, minute, second, nano, s₃, hclock,
      offset, s₄, hoffset, hend, hbounds, date, hparts, h⟩

/-- **What is written is read back.** -/
theorem ofText?_toText {t : Instant} (h : t.IsWritable) : ofText? t.toText = some t := by
  have hmonth := t.date.isMonth
  have hday : t.date.day < 100 := by
    have := t.date.isDay
    rw [daysInMonth] at this
    split_ifs at this <;> omega
  have hinDay := t.inDay
  have hinSecond := t.inSecond
  rw [IsWritable] at h
  have hhour : t.second / 3600 ≤ 23 := by omega
  have hminute : t.second / 60 % 60 ≤ 59 := by omega
  have hbound : t.second % 60 + t.nano / nanosPerSecond ≤ 60 := by
    rw [nanosPerSecond] at *; omega
  -- The second that is written is the sixtieth just in a leap second.
  have hleap : (t.second % 60 + t.nano / nanosPerSecond) / 60 = t.nano / nanosPerSecond := by
    rw [nanosPerSecond] at *; omega
  have hsecond : 3600 * (t.second / 3600) + 60 * (t.second / 60 % 60)
      + (t.second % 60 + t.nano / nanosPerSecond - t.nano / nanosPerSecond) = t.second := by omega
  have hclock : readClock (padded 2 (t.second / 3600) ++ ':' :: (padded 2 (t.second / 60 % 60) ++
      ':' :: (padded 2 (t.second % 60 + t.nano / nanosPerSecond) ++
        (writeFraction (t.nano % nanosPerSecond) ++ ['Z'])))) = some _ :=
    readClock_written (by omega) (by omega) (by omega) (Nat.mod_lt _ (by decide)) (by simp)
      (by decide)
  refine ofText?_eq_some_iff.2 ⟨_, _, _, _, _, _, _, 0, t.date, 'T' :: _, _, ['Z'], [], ?_, rfl,
    hclock, rfl, rfl, ⟨hhour, hminute, hbound⟩, t.date.ofParts?_self, ?_⟩
  · rw [toText]
    simp only [List.append_assoc, List.cons_append]
    exact readDate_written (by omega) hday _
  · rw [hleap, hsecond, atOffset?_zero t.inDay, Nat.div_add_mod', ofParts?_self]

/-! ### What is read -/

/-- Nine digits of a second at most come to less than a second. -/
theorem ofDigitChars_mul_lt {ds : List Char} (h : ∀ c ∈ ds, c.isDigit = true)
    (hlen : ds.length ≤ 9) :
    Nat.ofDigitChars 10 ds 0 * Nat.pow 10 (9 - ds.length) < nanosPerSecond :=
  calc Nat.ofDigitChars 10 ds 0 * Nat.pow 10 (9 - ds.length)
      < 10 ^ ds.length * Nat.pow 10 (9 - ds.length) :=
        Nat.mul_lt_mul_of_pos_right (ofDigitChars_lt h) (Nat.pow_pos (by decide))
    _ = 10 ^ (ds.length + (9 - ds.length)) := (Nat.pow_add ..).symm
    _ = nanosPerSecond := by rw [Nat.add_sub_cancel' hlen]; rfl

/-- The nanoseconds of a fraction are less than a second. -/
theorem lt_of_readFraction {s r : List Char} {nano : Nat}
    (h : readFraction s = some (nano, r)) : nano < nanosPerSecond := by
  unfold readFraction at h
  split at h
  · split at h
    · exact absurd h (by simp)
    · obtain ⟨rfl, -⟩ := Prod.mk.inj (Option.some.inj h)
      exact ofDigitChars_mul_lt (List.all_eq_true.1 List.all_takeWhile)
        ((List.takeWhile_sublist _).length_le.trans (List.length_take_le 9 _))
  · obtain ⟨rfl, -⟩ := Prod.mk.inj (Option.some.inj h)
    decide

/-- The nanoseconds of a time of day are less than a second. -/
theorem lt_of_readClock {s r : List Char} {hour minute second nano : Nat}
    (h : readClock s = some ((hour, minute, second, nano), r)) : nano < nanosPerSecond := by
  simp only [readClock, Option.bind_eq_bind, Option.bind_eq_some_iff, Prod.exists,
    Option.some.injEq, Prod.mk.injEq] at h
  obtain ⟨_, _, -, _, -, _, _, -, _, -, _, _, -, _, _, hfraction, ⟨-, -, -, rfl⟩, -⟩ := h
  exact lt_of_readFraction hfraction

/-- Places differ by whole minutes from universal time. -/
theorem dvd_of_readOffset {s r : List Char} {offset : Int} (h : readOffset s = some (offset, r)) :
    60 ∣ offset := by
  unfold readOffset at h
  split_ifs at h
  · obtain ⟨rfl, -⟩ := Prod.mk.inj (Option.some.inj h)
    exact Int.dvd_zero 60
  · split at h
    · obtain ⟨rfl, -⟩ := Prod.mk.inj (Option.some.inj h)
      exact Int.dvd_zero 60
    · obtain ⟨rfl, -⟩ := Prod.mk.inj (Option.some.inj h)
      exact Int.dvd_zero 60
    · simp only [Option.bind_eq_bind, Option.bind_eq_some_iff, Prod.exists] at h
      obtain ⟨sign, -, hours, s, -, minutes, s', -, h⟩ := h
      obtain ⟨rfl, -⟩ := Prod.mk.inj (Option.some.inj h)
      exact Dvd.dvd.mul_left (by omega) sign
    · exact absurd h (by simp)

/-- A shift by whole minutes leaves the second of the minute alone. -/
theorem of_atOffset? {date : Date} {second nano : Nat} {offset : Int} {t : Instant}
    (h : atOffset? date second nano offset = some t) (hoffset : 60 ∣ offset) :
    t.second % 60 = second % 60 ∧ t.nano = nano := by
  rw [atOffset?] at h
  simp only [Option.bind_eq_bind, Option.bind_none, Option.ite_none_left_eq_some] at h
  obtain ⟨hbounds, h⟩ := h
  -- The day before, the same day, or the day after: the seconds of a day are whole minutes.
  split_ifs at h with hbefore hon
  · obtain ⟨_, -, h⟩ := Option.bind_eq_some_iff.1 h
    obtain ⟨-, hsecond, hnano⟩ := ofParts?_eq_some.1 h
    exact ⟨by omega, hnano⟩
  · obtain ⟨-, hsecond, hnano⟩ := ofParts?_eq_some.1 h
    exact ⟨by omega, hnano⟩
  · obtain ⟨_, -, h⟩ := Option.bind_eq_some_iff.1 h
    obtain ⟨-, hsecond, hnano⟩ := ofParts?_eq_some.1 h
    exact ⟨by omega, hnano⟩

/-- Only what can be written is read. -/
theorem isWritable_of_ofText? {s : List Char} {t : Instant} (h : ofText? s = some t) :
    t.IsWritable := by
  obtain ⟨year, month, day, hour, minute, second, nano, offset, date, s₁, s₂, s₃, s₄, -, -, hclock,
    hoffset, -, hbounds, -, h⟩ := ofText?_eq_some_iff.1 h
  obtain ⟨hsecond, hnano⟩ := of_atOffset? h (dvd_of_readOffset hoffset)
  have hlt := lt_of_readClock hclock
  intro hleap
  rw [hnano] at hleap
  -- The nanoseconds come to a second by the leap second alone.
  obtain rfl : second = 60 := by
    by_contra hne
    rw [Nat.div_eq_of_lt (by omega)] at hleap
    omega
  omega

end Instant

end PageHarvest.Time
