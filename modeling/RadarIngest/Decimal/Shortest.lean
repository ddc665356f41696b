/-!
**The shortest decimal that reads back as a given binary64 value.**

A finite positive binary64 value is `m · 2 ^ e`.  The reals that round to it form an interval
around it, reaching half way to each neighbour, with its ends included exactly when `m` is even
(ties go to the even neighbour).  For `k = 1, 2, …, 17` digits the value lies between two
consecutive points of the decimal grid with `k` significant digits; the first `k` for which one
of those two points lies in the interval gives the answer, the nearer of the two if both do.
Every comparison is exact `Nat` arithmetic.

Main definitions:

* `RadarIngest.Binary64`, the sign, exponent and significand of a bit pattern;
* `RadarIngest.Decimal`, a value `digits · 10 ^ exponent`;
* `RadarIngest.Decimal.shortest` — the shortest decimal of a finite positive value.
-/

set_option autoImplicit false

namespace RadarIngest

/-- The fields of a binary64 bit pattern. -/
structure Binary64 where
  negative : Bool
  /-- The biased exponent, `0 .. 2047`. -/
  biased : Nat
  /-- The 52 stored bits of the significand. -/
  fraction : Nat
  deriving DecidableEq, Repr

namespace Binary64

/-- Splits a bit pattern into its fields. -/
def ofBits (bits : UInt64) : Binary64 :=
  ⟨bits.toNat ≥ Nat.pow 2 63, bits.toNat / Nat.pow 2 52 % 2048, bits.toNat % Nat.pow 2 52⟩

/-- Neither an infinity nor a NaN. -/
def isFinite (x : Binary64) : Bool := x.biased != 2047

/-- Zero of either sign. -/
def isZero (x : Binary64) : Bool := x.biased == 0 && x.fraction == 0

/-- The integer significand `m` of the value `m · 2 ^ e`. -/
def significand (x : Binary64) : Nat :=
  if x.biased == 0 then x.fraction else x.fraction + Nat.pow 2 52

/-- The exponent `e` of the value `m · 2 ^ e`. -/
def exponent (x : Binary64) : Int :=
  if x.biased == 0 then -1074 else (x.biased : Int) - 1075

/-- The gap to the next smaller value is half the gap to the next larger one: the significand
is a power of two and a smaller exponent exists. -/
def narrowBelow (x : Binary64) : Bool :=
  x.fraction == 0 && x.biased > 1

end Binary64

/-- The value `digits · 10 ^ exponent`. -/
structure Decimal where
  digits : Nat
  exponent : Int
  deriving DecidableEq, Repr

namespace Decimal

/-- `a · base ^ i` as a fraction of natural numbers. -/
def scaled (a : Nat) (i : Int) (base : Nat) : Nat × Nat :=
  if 0 ≤ i then (a * Nat.pow base i.toNat, 1) else (a, Nat.pow base (-i).toNat)

/-- Compares `a · 10 ^ p` with `b · 2 ^ s`: `lt`, `eq` or `gt`. -/
def compareScaled (a : Nat) (p : Int) (b : Nat) (s : Int) : Ordering :=
  let (an, ad) := scaled a p 10
  let (bn, bd) := scaled b s 2
  compare (an * bd) (bn * ad)

/-- The number of decimal digits of a positive natural number. -/
def digitCount (n : Nat) : Nat := (Nat.toDigits 10 n).length

/-- Drops trailing zero digits, raising the exponent. -/
def normalize (d : Decimal) : Decimal :=
  go d.digits.log2 d
where
  go : Nat → Decimal → Decimal
    | 0, d => d
    | fuel + 1, d =>
      if d.digits ≠ 0 ∧ d.digits % 10 = 0 then go fuel ⟨d.digits / 10, d.exponent + 1⟩ else d

/-- The largest `p` with `10 ^ p ≤ m · 2 ^ e`, for `m > 0`. -/
def decimalExponent (m : Nat) (e : Int) : Int :=
  let (num, den) := scaled m e 2
  let guess : Int := (digitCount num : Int) - (digitCount den : Int)
  if compareScaled 1 guess m e == .gt then guess - 1 else guess

/-- The decimal with `digits` significant digits nearest below `m · 2 ^ e` on its grid, as the
grid exponent and the count of grid steps. -/
def gridBelow (m : Nat) (e : Int) (digits : Nat) : Int × Nat :=
  let p := decimalExponent m e - digits + 1
  let (vn, vd) := scaled m e 2
  let (gn, gd) := scaled 1 p 10
  (p, (vn * gd) / (vd * gn))

/-- Whether `d · 10 ^ p` lies in the interval `[lo, hi] · 2 ^ s`, ends included or not. -/
def inInterval (d : Nat) (p : Int) (lo hi : Nat) (s : Int) (closed : Bool) : Bool :=
  let below := compareScaled d p lo s
  let above := compareScaled d p hi s
  if closed then below != .lt && above != .gt else below == .gt && above == .lt

/-- The distance of `d · 10 ^ p` from `v · 2 ^ s`, as a numerator over a denominator that
depends only on `p` and `s`. -/
def distance (d : Nat) (p : Int) (v : Nat) (s : Int) : Nat :=
  let (an, ad) := scaled d p 10
  let (bn, bd) := scaled v s 2
  let x := an * bd
  let y := bn * ad
  if x ≤ y then y - x else x - y

/-- The first grid, from one significant digit up to `fuel`, with a point in the interval. -/
def search (m : Nat) (e : Int) (lo hi : Nat) (closed : Bool) : Nat → Nat → Option Decimal
  | 0, _ => none
  | fuel + 1, k =>
    let (p, d) := gridBelow m e k
    let s := e - 2
    let v := 4 * m
    let downIn := inInterval d p lo hi s closed
    let upIn := inInterval (d + 1) p lo hi s closed
    if downIn && upIn then
      let dd := distance d p v s
      let du := distance (d + 1) p v s
      if dd < du then some ⟨d, p⟩
      else if du < dd then some ⟨d + 1, p⟩
      else if d % 2 == 0 then some ⟨d, p⟩ else some ⟨d + 1, p⟩
    else if downIn then some ⟨d, p⟩
    else if upIn then some ⟨d + 1, p⟩
    else search m e lo hi closed fuel (k + 1)

/-- The shortest decimal reading back as the finite positive value `m · 2 ^ e`: the value itself
when no grid of at most 17 digits has a point in its interval, which does not happen for a
binary64 value. -/
def ofParts (m : Nat) (e : Int) (narrow : Bool) : Decimal :=
  let lo := if narrow then 4 * m - 1 else 4 * m - 2
  let hi := 4 * m + 2
  match search m e lo hi (m % 2 == 0) 17 1 with
  | some d => normalize d
  | none => normalize (if 0 ≤ e then ⟨m * Nat.pow 2 e.toNat, 0⟩ else ⟨m, 0⟩)

/-- The shortest decimal of the magnitude of a finite binary64 value; zero for a zero. -/
def shortest (x : Binary64) : Decimal :=
  if x.isZero then ⟨0, 0⟩ else ofParts x.significand x.exponent x.narrowBelow

/-- The decimal digits of `digits`, most significant first. -/
def digitChars (d : Decimal) : List Char := Nat.toDigits 10 d.digits

end Decimal

end RadarIngest
