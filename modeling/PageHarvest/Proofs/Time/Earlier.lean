import PageHarvest.Proofs.Time.Calendar
import PageHarvest.Time.Span
import Mathlib.Data.Prod.Lex

/-!
# Instants before and after one another

Instants are ordered by their seconds and then by their nanoseconds (`before_iff`).  That order has a
place for the moment any length of time before an instant, `momentBefore`, whether or not the calendar
still has it.  `exists_earlier?_iff` says that to come before what `Instant.earlier?` finds is to come
before that moment: where it finds nothing, no instant lies.
-/

namespace PageHarvest.Time.Instant

variable {t u c : Instant} {age age' : Span} {n : Int}

/-! ### The order of moments -/

/-- A second and the nanoseconds after it has begun, in the order of time. -/
def moment (t : Instant) : Int ×ₗ Nat := toLex (t.seconds, t.nano)

/-- The moment so long before an instant, in or out of the calendar. -/
def momentBefore (t : Instant) (age : Span) : Int ×ₗ Nat :=
  if age.nanos ≤ t.nano then toLex (t.seconds, t.nano - age.nanos)
  else
    let n := t.nanos - age.nanos
    toLex (n / nanosPerSecond, (n % nanosPerSecond).toNat)

theorem before_iff : t.before u = true ↔ t.moment < u.moment := by
  rw [moment, moment, Prod.Lex.toLex_lt_toLex]
  simp [before]

/-- The longer the time, the earlier the moment. -/
theorem momentBefore_le (h : age.nanos ≤ age'.nanos) :
    t.momentBefore age' ≤ t.momentBefore age := by
  simp only [momentBefore, nanos, nanosPerSecond]
  split_ifs with hlong hshort hshort <;> rw [Prod.Lex.toLex_le_toLex] <;> dsimp only
  · exact .inr ⟨rfl, by omega⟩
  · omega
  · omega
  · omega

/-- Outside of leap seconds the order is that of the nanoseconds since the beginning of 1970. -/
theorem moment_lt_momentBefore (hu : u.nano < nanosPerSecond) (ht : t.nano < nanosPerSecond) :
    u.moment < t.momentBefore age ↔ u.nanos + age.nanos < t.nanos := by
  simp only [moment, momentBefore, nanos, nanosPerSecond] at *
  split_ifs <;> rw [Prod.Lex.toLex_lt_toLex] <;> dsimp only <;> omega

/-! ### The instant of a moment -/

theorem moment_of_ofNanos? (h : ofNanos? n = some t) :
    t.moment = toLex (n / nanosPerSecond, (n % nanosPerSecond).toNat) := by
  obtain ⟨date, hdate, hparts⟩ := Option.bind_eq_some_iff.1 h
  obtain ⟨rfl, hsecond, hnano⟩ := ofParts?_eq_some.1 hparts
  rw [moment, seconds, Date.dayNumber_of_ofDayNumber? hdate, hsecond, hnano]
  congr 2
  omega

/-- Every nanosecond between two instants is an instant. -/
theorem exists_ofNanos? (hfirst : t.seconds ≤ n / nanosPerSecond)
    (hlast : n / nanosPerSecond ≤ u.seconds) : ∃ c, ofNanos? n = some c := by
  have ht := t.inDay
  have hu := u.inDay
  simp only [seconds] at hfirst hlast
  have hbegins : t.date.dayNumber ≤ n / nanosPerSecond / 86400 := by omega
  have hends : n / nanosPerSecond / 86400 ≤ u.date.dayNumber := by omega
  obtain ⟨date, hdate⟩ := Date.exists_ofDayNumber? hbegins hends
  have hparts : (n / nanosPerSecond % 86400).toNat < 86400 ∧
      (n % nanosPerSecond).toNat < 2 * nanosPerSecond := by
    simp only [nanosPerSecond]
    omega
  exact ⟨⟨date, _, _, hparts.1, hparts.2⟩, by
    simp only [ofNanos?, hdate, Option.bind_eq_bind, Option.bind_some, ofParts?, dif_pos hparts]⟩

theorem moment_of_earlier? (h : t.earlier? age = some c) : c.moment = t.momentBefore age := by
  rw [earlier?] at h
  rw [momentBefore]
  split_ifs at h ⊢
  · obtain ⟨hdate, hsecond, hnano⟩ := ofParts?_eq_some.1 h
    rw [moment, seconds, hdate, hsecond, hnano, seconds]
  -- Beyond the second itself, the nanoseconds since 1970 are counted.
  · exact moment_of_ofNanos? h

/-- The whole calendar is shorter than the longest time that can be taken off. -/
theorem age_le_longest (h : u.moment < t.momentBefore age) : age.nanos ≤ Span.longest.nanos := by
  have hage : nanosPerSecond * u.seconds + age.nanos ≤ t.nanos := by
    simp only [moment, momentBefore, nanos, nanosPerSecond] at *
    split_ifs at h <;> rw [Prod.Lex.toLex_lt_toLex] at h <;> dsimp only at h <;> omega
  have hu := u.date.dayNumber_within
  have ht := t.date.dayNumber_within
  have hday := t.inDay
  have hsecond := t.inSecond
  -- More than what separates the first day of the calendar from the last.
  have hlongest : Span.longest.nanos = 9223372036854775807000000 := by decide
  simp only [Date.newYear, firstYear, lastYear] at hu ht
  simp only [nanos, seconds, nanosPerSecond] at hage hsecond
  omega

/-- If some instant comes before the moment, the calendar reaches back to it. -/
theorem exists_earlier? (h : u.moment < t.momentBefore age) : ∃ c, t.earlier? age = some c := by
  rw [earlier?, if_neg (by have := age_le_longest h; omega)]
  rw [momentBefore] at h
  split_ifs at h ⊢ with hshort
  · have hparts : t.second < 86400 ∧ t.nano - age.nanos < 2 * nanosPerSecond :=
      ⟨t.inDay, (Nat.sub_le _ _).trans_lt t.inSecond⟩
    exact ⟨_, by rw [ofParts?, dif_pos hparts]⟩
  · rw [moment, Prod.Lex.toLex_lt_toLex] at h
    dsimp only at h
    -- The moment lies between that instant and this one, both of which the calendar has.
    refine exists_ofNanos? (t := u) (u := t) (by omega) ?_
    simp only [nanos, nanosPerSecond] at *
    omega

theorem exists_earlier?_iff :
    (∃ c, t.earlier? age = some c ∧ u.before c = true) ↔ u.moment < t.momentBefore age := by
  constructor
  · rintro ⟨c, hc, hbefore⟩
    rw [← moment_of_earlier? hc]
    exact before_iff.1 hbefore
  · intro h
    obtain ⟨c, hc⟩ := exists_earlier? h
    exact ⟨c, hc, before_iff.2 (by rwa [moment_of_earlier? hc])⟩

end PageHarvest.Time.Instant
