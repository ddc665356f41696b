import RadarIngest.Decimal.Shortest

/-!
**Writing a decimal: positional or scientific.**

A `RadarIngest.Notation` records the choices a writer of numbers makes: for which positions of
the leading digit it writes positional notation, whether an integral value keeps a `.0`, and how
it writes an exponent.  Three writers are used: `RadarIngest.Notation.document` for numbers in
JSON answers, `RadarIngest.Notation.positional` for numbers quoted in messages about YAML
documents, which are always positional and always show a decimal point, and
`RadarIngest.Notation.quoted` for numbers quoted in messages about JSON documents.

Main definitions:

* `RadarIngest.Notation`, `RadarIngest.Notation.render`, `RadarIngest.Notation.renderFloat`.
-/

set_option autoImplicit false

namespace RadarIngest

/-- The choices of a writer of decimal numbers. -/
structure Notation where
  /-- Positional notation is used when the leading digit's exponent is at least this, … -/
  positionalFrom : Int
  /-- … and below this. -/
  positionalBelow : Int
  /-- An integral value in positional notation is written with a trailing `.0`. -/
  pointZero : Bool
  /-- A non-negative exponent is written with a `+`. -/
  plusSign : Bool
  /-- The least number of exponent digits. -/
  exponentWidth : Nat

namespace Notation

/-- Numbers in answers: positional from `1e-4` up to below `1e16`, `.0` kept, exponents with a
sign and at least two digits. -/
def document : Notation := ⟨-4, 16, true, true, 2⟩

/-- Numbers in messages about YAML documents: always positional, always with a decimal point. -/
def positional : Notation := ⟨-400, 400, true, false, 1⟩

/-- Numbers in messages about JSON documents: positional from `1e-5` up to below `1e16`, `.0`
kept; otherwise one digit before the point and an exponent with a sign. -/
def quoted : Notation := ⟨-5, 16, true, true, 1⟩

/-- `n` zeros. -/
def zeros (n : Nat) : String := String.ofList (List.replicate n '0')

/-- The text of an exponent: its sign, and its digits padded to the least width. -/
def exponentText (w : Notation) (e : Int) : String :=
  let digits := Nat.toDigits 10 e.natAbs
  let padded := List.replicate (w.exponentWidth - digits.length) '0' ++ digits
  let sign := if e < 0 then "-" else if w.plusSign then "+" else ""
  "e" ++ sign ++ String.ofList padded

/-- The text of a decimal, with a leading `-` when `negative`. -/
def render (w : Notation) (negative : Bool) (d : Decimal) : String :=
  let ds := d.digitChars
  let n := ds.length
  let lead : Int := d.exponent + n - 1
  let body :=
    if w.positionalFrom ≤ lead ∧ lead < w.positionalBelow then
      if 0 ≤ d.exponent then
        String.ofList ds ++ zeros d.exponent.toNat ++ (if w.pointZero then ".0" else "")
      else if 0 ≤ lead then
        let whole := (lead + 1).toNat
        String.ofList (ds.take whole) ++ "." ++ String.ofList (ds.drop whole)
      else
        "0." ++ zeros (-lead - 1).toNat ++ String.ofList ds
    else
      let rest := ds.drop 1
      String.ofList (ds.take 1) ++ (if rest.isEmpty then "" else "." ++ String.ofList rest) ++
        w.exponentText lead
  (if negative then "-" else "") ++ body

/-- The text of a binary64 value: its shortest decimal, or `NaN`, `inf`, `-inf`. -/
def renderBits (w : Notation) (bits : UInt64) : String :=
  let x := Binary64.ofBits bits
  if x.isFinite then w.render x.negative (Decimal.shortest x)
  else if x.fraction != 0 then "NaN"
  else if x.negative then "-inf" else "inf"

/-- The text of a binary64 value. -/
def renderFloat (w : Notation) (x : Float) : String := w.renderBits x.toBits

end Notation

end RadarIngest
