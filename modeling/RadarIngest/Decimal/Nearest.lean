import RadarIngest.Decimal.Shortest

/-!
**The binary64 value nearest to a decimal.**

Reading a decimal numeral as a binary64 value rounds the exact value `m · 10 ^ e` to the nearest
representable value, ties to the even significand.  Here the rounding is done exactly: the value
is the fraction `num / den` of two natural numbers, and the binary exponent `k` is chosen so that
`num / (den · 2 ^ k)` has 53 bits, or is the subnormal exponent `-1074`; the quotient and the
remainder of that division decide the rounding.

Values beyond the largest finite one round to infinity; values below half the smallest subnormal
round to zero.  Numerals far outside the range are settled from their number of digits alone,
before any power is computed.

Main definitions:

* `RadarIngest.Decimal.nearestBits` — the bit pattern of the value nearest to `m · 10 ^ e`;
* `RadarIngest.Decimal.readFloat?` — a numeral of the form `[+-] digits [. digits] [e [+-] digits]`
  read as a binary64 bit pattern.
-/

set_option autoImplicit false

namespace RadarIngest

namespace Decimal

/-- The quotient of `num · 2 ^ -k` by `den`, for an exponent of either sign. -/
def scaledQuotient (num den : Nat) (k : Int) : Nat × Nat × Nat :=
  let n := if k < 0 then num * Nat.pow 2 (-k).toNat else num
  let d := if k < 0 then den else den * Nat.pow 2 k.toNat
  (n / d, n % d, d)

/-- The binary exponent that gives `num / den` a significand of 53 bits, not below the subnormal
exponent. -/
def binaryExponent (num den : Nat) : Int :=
  let k0 : Int := (num.log2 : Int) - (den.log2 : Int) - 52
  let k1 :=
    if (scaledQuotient num den k0).1 ≥ Nat.pow 2 53 then k0 + 1
    else if (scaledQuotient num den k0).1 < Nat.pow 2 52 then k0 - 1
    else k0
  max k1 (-1074)

/-- The bit pattern of the positive value `num / den` rounded to nearest, ties to even. -/
def roundFraction (num den : Nat) : UInt64 :=
  let k := binaryExponent num den
  let (q, r, d) := scaledQuotient num den k
  let q := if 2 * r > d || (2 * r == d && q % 2 == 1) then q + 1 else q
  let (q, k) := if q == Nat.pow 2 53 then (Nat.pow 2 52, k + 1) else (q, k)
  if q < Nat.pow 2 52 then q.toUInt64
  else
    let biased := k + 1075
    if biased ≥ 2047 then 0x7FF0000000000000
    else (biased.toNat * Nat.pow 2 52 + (q - Nat.pow 2 52)).toUInt64

/-- The bit pattern of the binary64 value nearest to `m · 10 ^ e`, positive. -/
def nearestBits (m : Nat) (e : Int) : UInt64 :=
  if m == 0 then 0
  else
    let digits : Int := digitCount m
    if digits + e > 310 then 0x7FF0000000000000
    else if digits + e < -330 then 0
    else if e ≥ 0 then roundFraction (m * Nat.pow 10 e.toNat) 1
    else roundFraction m (Nat.pow 10 (-e).toNat)

/-- The value of a run of decimal digits, their number, and what follows them. -/
def digitRun (acc count : Nat) : List Char → Nat × Nat × List Char
  | c :: cs => if '0' ≤ c && c ≤ '9' then digitRun (acc * 10 + (c.toNat - 48)) (count + 1) cs
    else (acc, count, c :: cs)
  | [] => (acc, count, [])

/-- The exponent part `[+-] digits`, which must end the numeral. -/
def exponentPart? : List Char → Option Int
  | '+' :: cs => match digitRun 0 0 cs with
    | (v, n, []) => if n > 0 then some v else none
    | _ => none
  | '-' :: cs => match digitRun 0 0 cs with
    | (v, n, []) => if n > 0 then some (-(v : Int)) else none
    | _ => none
  | cs => match digitRun 0 0 cs with
    | (v, n, []) => if n > 0 then some v else none
    | _ => none

/-- A numeral `[+-] digits [. digits] [(e|E) [+-] digits]` with at least one digit before the
exponent, as its sign, its digits as one number, and the power of ten they are scaled by. -/
def parts? (s : String) : Option (Bool × Nat × Int) :=
  let (negative, cs) := match s.toList with
    | '-' :: cs => (true, cs)
    | '+' :: cs => (false, cs)
    | cs => (false, cs)
  let (whole, n1, rest) := digitRun 0 0 cs
  let (m, n2, rest) := match rest with
    | '.' :: rest => digitRun whole 0 rest
    | rest => (whole, 0, rest)
  if n1 + n2 == 0 then none
  else
    match rest with
    | [] => some (negative, m, -(n2 : Int))
    | 'e' :: rest | 'E' :: rest => (exponentPart? rest).map fun x => (negative, m, x - n2)
    | _ => none

/-- A decimal numeral read as a binary64 bit pattern, rounded to nearest. -/
def readFloat? (s : String) : Option UInt64 :=
  (parts? s).map fun (negative, m, e) =>
    let bits := nearestBits m e
    if negative then bits ||| 0x8000000000000000 else bits

end Decimal

end RadarIngest
