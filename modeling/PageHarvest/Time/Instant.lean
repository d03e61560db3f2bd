import PageHarvest.Time.Date

/-!
# Instants

An `Instant` is a moment of universal time: a date, a second of that day, and nanoseconds.  A leap
second is told by its nanoseconds, which go beyond one second.
-/

namespace PageHarvest.Time

/-- The number of nanoseconds in a second. -/
def nanosPerSecond : Nat := 1000000000

/-- A moment of universal time. -/
structure Instant where
  date : Date
  /-- The second of the day. -/
  second : Nat
  nano : Nat
  inDay : second < 86400
  inSecond : nano < 2 * nanosPerSecond
  deriving DecidableEq, Repr

namespace Instant

instance : Inhabited Instant := ⟨default, 0, 0, by decide, by decide⟩

/-- The instant with these parts, if there is one. -/
def ofParts? (date : Date) (second nano : Nat) : Option Instant :=
  if h : second < 86400 ∧ nano < 2 * nanosPerSecond then some ⟨date, second, nano, h.1, h.2⟩
  else none

theorem ofParts?_self (t : Instant) : ofParts? t.date t.second t.nano = some t := by
  rw [ofParts?, dif_pos ⟨t.inDay, t.inSecond⟩]

theorem ofParts?_eq_some {date : Date} {second nano : Nat} {t : Instant} :
    ofParts? date second nano = some t ↔ t.date = date ∧ t.second = second ∧ t.nano = nano := by
  constructor
  · intro h
    rw [ofParts?] at h
    split at h
    · obtain rfl := Option.some.inj h
      exact ⟨rfl, rfl, rfl⟩
    · exact absurd h (by simp)
  · rintro ⟨rfl, rfl, rfl⟩
    exact t.ofParts?_self

/-- The seconds from the beginning of 1970, without the leap seconds. -/
def seconds (t : Instant) : Int := 86400 * t.date.dayNumber + t.second

/-- One instant comes before another. -/
def before (t u : Instant) : Bool :=
  t.seconds < u.seconds || (t.seconds == u.seconds && t.nano < u.nano)

/-- The nanoseconds from the beginning of 1970. -/
def nanos (t : Instant) : Int := nanosPerSecond * t.seconds + t.nano

/-- The instant so many nanoseconds after the beginning of 1970. -/
def ofNanos? (n : Int) : Option Instant := do
  let s := n / nanosPerSecond
  let date ← Date.ofDayNumber? (s / 86400)
  ofParts? date (s % 86400).toNat (n % nanosPerSecond).toNat

end Instant

end PageHarvest.Time
