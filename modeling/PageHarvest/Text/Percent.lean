import PageHarvest.Text.Hex

/-!
# Percent encoding

A character that may not stand for itself is written as the bytes of its UTF-8 form, each of them a
percent sign and two digits.  `unescape` gives the bytes back.
-/

namespace PageHarvest.Text.Percent

/-- A byte as a percent sign and two digits. -/
def escapeByte (b : UInt8) : List Char :=
  ['%', Hex.upperDigit (Hex.lastValue (b.toNat / 16)), Hex.upperDigit (Hex.lastValue b.toNat)]

/-- A character, which stands for itself if it is plain. -/
def escapeChar (isPlain : Char → Bool) (c : Char) : List Char :=
  if isPlain c then [c] else (String.utf8EncodeChar c).flatMap escapeByte

/-- A text whose plain characters stand for themselves. -/
def escape (isPlain : Char → Bool) (s : List Char) : List Char :=
  s.flatMap (escapeChar isPlain)

/-- The bytes that a text stands for.  A percent sign without two digits stands for itself. -/
def unescape : List Char → List UInt8
  | '%' :: a :: b :: s =>
    match Hex.value? a, Hex.value? b with
    | some x, some y => UInt8.ofNat (16 * x.val + y.val) :: unescape s
    | _, _ => 0x25 :: unescape (a :: b :: s)
  | c :: s => String.utf8EncodeChar c ++ unescape s
  | [] => []
termination_by s => s.length

end PageHarvest.Text.Percent
