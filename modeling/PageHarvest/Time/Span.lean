import PageHarvest.Number.Binary
import PageHarvest.Time.Instant

/-!
# Lengths of time

A `Span` is a whole number of nanoseconds.  Its seconds are read from binary fractions and written
as such.  Taking a length of time off an instant can lead out of the calendar.
-/

namespace PageHarvest.Time

/-- A length of time. -/
structure Span where
  nanos : Nat
  deriving DecidableEq, Repr, Inhabited

/-- Why a number of seconds is no length of time. -/
inductive SpanError
  | negative | tooLong
  deriving DecidableEq, Repr

/-- The wording. -/
def SpanError.message : SpanError → String
  | negative => "cannot convert float seconds to Duration: value is negative"
  | tooLong => "cannot convert float seconds to Duration: value is either too big or NaN"

namespace Span

/-- So many seconds. -/
def ofSeconds (n : Nat) : Span := ⟨n * nanosPerSecond⟩

/-- So many milliseconds. -/
def ofMillis (n : Nat) : Span := ⟨n * 1000000⟩

/-- The whole seconds. -/
def seconds (s : Span) : Nat := s.nanos / nanosPerSecond

/-- The whole milliseconds. -/
def millis (s : Span) : Nat := s.nanos / 1000000

/-- The nanoseconds beyond the whole seconds. -/
def subsecond (s : Span) : Nat := s.nanos % nanosPerSecond

/-- A number of seconds, with a minus sign or without, rounded to nanoseconds. -/
def ofBinary (minus : Bool) : Number.Binary → Except SpanError Span
  | .nan => .error .tooLong
  | .infinite => .error (if minus then .negative else .tooLong)
  | .finite m q =>
    let (num, den) := Number.Binary.quotient m q
    if minus && m != 0 then .error .negative
    else if Number.beyondBits 64 * den ≤ num then .error .tooLong
    else .ok ⟨Number.roundDiv (num * nanosPerSecond) den⟩

/-- The number of seconds, the whole ones and the others rounded one after the other. -/
def toBinary (s : Span) : Number.Binary :=
  (Number.Binary.nearest s.seconds 1).add (Number.Binary.nearest s.subsecond nanosPerSecond)

/-- The longest length of time that can be taken off an instant: as many milliseconds as fit in 63
bits. -/
def longest : Span := .ofMillis (Number.beyondBits 63 - 1)

end Span

/-- The instant so long before.  There is none if that is too long, or before the calendar.  As long as
its nanoseconds last, an instant stays in its second, which may be a leap second. -/
def Instant.earlier? (t : Instant) (age : Span) : Option Instant :=
  if Span.longest.nanos < age.nanos then none
  else if age.nanos ≤ t.nano then ofParts? t.date t.second (t.nano - age.nanos)
  else ofNanos? (t.nanos - age.nanos)

end PageHarvest.Time
