import PageHarvest.Number.Bits
import PageHarvest.Text.Blank
import PageHarvest.Text.Hex

/-!
# Trace parents

A job may carry the position in a trace of the request that it comes from: four fields with hyphens
between them, for the version of the format, the trace, the span, and flags.  `TraceParent.ofText?`
reads it.  Fields may be shorter than usual, and versions after the first may have further fields.
-/

namespace PageHarvest

/-- A position in a trace. -/
structure TraceParent where
  traceId : Nat
  spanId : Nat
  sampled : Bool
  deriving DecidableEq, Repr

namespace TraceParent

/-- The fields of the text; nothing after the last hyphen is no field. -/
def fields (s : List Char) : List (List Char) :=
  let parts := Text.split (· == '-') s
  if parts.getLast? = some [] then parts.dropLast else parts

/-- A number of so many bits in hexadecimal digits, with a plus sign or without. -/
def number? (bits : Nat) (s : List Char) : Option Nat :=
  let digits := match s with
    | '+' :: r => r
    | _ => s
  (Text.Hex.toNat? digits).filter (· < Number.beyondBits bits)

/-- An identifier: a number other than zero, without upper case digits. -/
def id? (bits : Nat) (s : List Char) : Option Nat :=
  if s.any Char.isUpper then none else (number? bits s).filter (· ≠ 0)

/-- The position in a trace that the text denotes.  The first version of the format has exactly four
fields and knows the two lowest flags only. -/
def ofText? (s : List Char) : Option TraceParent :=
  match fields (Text.trim s) with
  | version :: trace :: span :: flags :: more => do
    let v ← number? 8 version
    let traceId ← id? 128 trace
    let spanId ← id? 64 span
    let f ← number? 8 flags
    if v = 255 || (v = 0 && (!more.isEmpty || f > 2)) then none
    else some ⟨traceId, spanId, f % 2 = 1⟩
  | _ => none

end TraceParent

end PageHarvest
