import PageHarvest.Number.Bits

/-!
# Binary fractions of 53 bits

A `Binary` is a number that a machine word of 64 bits holds as a binary fraction: a whole number of
at most 53 bits times a power of two, or something beyond.  `nearest` finds the one nearest to a
quotient, exactly; `ofText?` reads decimal digits as the number nearest to them.
-/

namespace PageHarvest.Number

/-- A quotient rounded to the nearest whole number, a half to the even one. -/
def roundDiv (num den : Nat) : Nat :=
  let q := num / den
  let r := num % den
  if den < 2 * r ∨ (2 * r = den ∧ q % 2 = 1) then q + 1 else q

/-- A number that is not negative, as a binary fraction. -/
inductive Binary
  /-- The number `m * 2 ^ q`. -/
  | finite (m : Nat) (q : Int)
  | infinite
  | nan
  deriving DecidableEq, Repr

namespace Binary

/-- The least exponent. -/
def minExponent : Int := -1074

/-- The greatest exponent. -/
def maxExponent : Int := 971

/-- A power of two as a quotient. -/
def scale (q : Int) : Nat × Nat := (beyondBits q.toNat, beyondBits (-q).toNat)

/-- The exponent of the highest binary digit of a quotient other than zero. -/
def highest (num den : Nat) : Int :=
  let guess : Int := num.log2 - den.log2
  -- The difference of the lengths is this exponent or one more.
  let (a, b) := scale guess
  if den * a ≤ num * b then guess else guess - 1

/-- The number nearest to a quotient; of two that are equally near, the even one. -/
def nearest (num den : Nat) : Binary :=
  if num = 0 then finite 0 minExponent
  else
    let q := max (highest num den - 52) minExponent
    let (a, b) := scale q
    let m := roundDiv (num * b) (den * a)
    -- Rounding up can lead to one more digit, which is then a zero at the end.
    let (m, q) := if m = beyondBits 53 then (beyondBits 52, q + 1) else (m, q)
    if maxExponent < q then infinite else finite m q

/-- The value of a finite number as a quotient. -/
def quotient (m : Nat) (q : Int) : Nat × Nat :=
  let (a, b) := scale q
  (m * a, b)

/-- The sum, rounded. -/
def add : Binary → Binary → Binary
  | finite m q, finite n r =>
    let (a, b) := quotient m q
    let (c, d) := quotient n r
    nearest (a * d + c * b) (b * d)
  | nan, _ => nan
  | _, nan => nan
  | _, _ => infinite

/-! ### Reading -/

/-- The number nearest to `n` times a power of ten.  Beyond the exponents tried the outcome is sure,
because `n` has the given number of digits. -/
def ofDecimal (n digits : Nat) (exponent : Int) : Binary :=
  if n = 0 then finite 0 minExponent
  else if 310 < digits + exponent then infinite
  else if digits + exponent < -330 then finite 0 minExponent
  else nearest (n * Nat.pow 10 exponent.toNat) (Nat.pow 10 (-exponent).toNat)

/-- The exponent at the end of a number, and nothing after it. -/
def exponent? (s : List Char) : Option Int :=
  match s with
  | [] => some 0
  | c :: s =>
    if c = 'e' ∨ c = 'E' then
      let (sign, ds) : Int × List Char := match s with
        | '-' :: ds => (-1, ds)
        | '+' :: ds => (1, ds)
        | ds => (1, ds)
      if ds.isEmpty || !ds.all Char.isDigit then none
      else some (sign * (Nat.ofDigitChars 10 ds 0 : Nat))
    else none

/-- A number without a sign: digits with a point among them or next to them, and an exponent. -/
def ofDigits? (s : List Char) : Option Binary :=
  let whole := s.takeWhile Char.isDigit
  let (fraction, rest) := match s.dropWhile Char.isDigit with
    | '.' :: r => (r.takeWhile Char.isDigit, r.dropWhile Char.isDigit)
    | r => ([], r)
  let ds := (whole ++ fraction).dropWhile (· == '0')
  if whole.isEmpty && fraction.isEmpty then none
  else (exponent? rest).map fun e =>
    ofDecimal (Nat.ofDigitChars 10 ds 0) ds.length (e - fraction.length)

/-- The number that a text without a sign stands for. -/
def ofUnsigned? (s : List Char) : Option Binary :=
  let word := s.map Char.toLower
  if word = "inf".toList ∨ word = "infinity".toList then some infinite
  else if word = "nan".toList then some nan
  else ofDigits? s

/-- The number that a text stands for, and whether it has a minus sign. -/
def ofText? (s : List Char) : Option (Bool × Binary) :=
  match s with
  | '-' :: s => (ofUnsigned? s).map (true, ·)
  | '+' :: s => (ofUnsigned? s).map (false, ·)
  | s => (ofUnsigned? s).map (false, ·)

/-! ### Shortest decimal text -/

/-- The exponent of the highest decimal digit of a quotient other than zero; `n` bounds how far
below the point it is looked for. -/
def highestDecimal (num den : Nat) : Nat → Int
  | 0 => 0
  | n + 1 =>
    if den ≤ num then (Nat.toDigits 10 (num / den)).length - 1
    else highestDecimal (10 * num) den n - 1

/-- The bounds of the numbers that are nearest to `m * 2 ^ q`, as quotients: what is halfway to the
neighbours.  The one below is nearer where the exponent changes. -/
def bounds (m : Nat) (q : Int) : (Nat × Nat) × (Nat × Nat) :=
  let low := if m = beyondBits 52 ∧ minExponent < q then quotient (4 * m - 1) (q - 2)
    else quotient (2 * m - 1) (q - 1)
  (low, quotient (2 * m + 1) (q - 1))

/-- The quotient lies between the bounds, or on one of them if that counts. -/
def between (closed : Bool) (low high : Nat × Nat) (num den : Nat) : Bool :=
  let a := low.1 * den
  let b := num * low.2
  let c := num * high.2
  let d := high.1 * den
  if closed then a ≤ b && c ≤ d else a < b && c < d

/-- The fewest digits, from `digits` on and `n` more at most, that lie nearest to `m * 2 ^ q`, with
the power of ten that goes with them. -/
def fewestDigits (m : Nat) (q highest : Int) : Nat → Int → Nat × Int
  | 0, _ => (0, 0)
  | n + 1, digits =>
    let (num, den) := quotient m q
    let e := highest - digits + 1
    let (num', den') := (num * Nat.pow 10 (-e).toNat, den * Nat.pow 10 e.toNat)
    let below := num' / den'
    let inside (k : Nat) : Bool :=
      let (low, high) := bounds m q
      between (m % 2 == 0) low high (k * Nat.pow 10 e.toNat) (Nat.pow 10 (-e).toNat)
    let nearer := roundDiv num' den'
    -- Of the two numbers with so many digits around this one, the nearer is tried first.
    let other := if nearer = below then below + 1 else below
    if inside nearer then (nearer, e)
    else if inside other then (other, e)
    else fewestDigits m q highest n (digits + 1)

/-- A whole number times a power of ten, written without an exponent. -/
def positional (n : Nat) (e : Int) : List Char :=
  let ds := Nat.toDigits 10 n
  if 0 ≤ e then ds ++ List.replicate e.toNat '0'
  else
    let places := (-e).toNat
    let ds := List.replicate (places + 1 - ds.length) '0' ++ ds
    let fraction := ((ds.drop (ds.length - places)).reverse.dropWhile (· == '0')).reverse
    ds.take (ds.length - places) ++ if fraction.isEmpty then [] else '.' :: fraction

/-- The shortest decimal text that stands for the number. -/
def toText : Binary → List Char
  | finite m q =>
    if m = 0 then ['0']
    else
      let (num, den) := quotient m q
      let (n, e) := fewestDigits m q (highestDecimal num den 400) 17 1
      positional n e
  | infinite => "inf".toList
  | nan => "NaN".toList

end Binary

end PageHarvest.Number
