/-!
**Single-precision arithmetic with exact NaN bits.**

A `RadarIngest.Binary32` is the bit pattern of an IEEE 754 single-precision value.  Finite and
infinite results are the correctly rounded results of the hardware.  NaN results follow the rules
of the processor the answers come from, which the hardware of this runtime does not keep:

* an operation with a NaN operand returns the first NaN operand, made quiet (the quiet bit set);
* an invalid operation on non-NaN operands (`∞ - ∞`, `0 · ∞`, `√x` for `x < 0`, …) returns the
  default NaN `0xFFC00000`, which is negative.

Main definitions:

* `RadarIngest.Binary32` with `add`, `sub`, `mul`, `div`, `sqrt`, `sin`, `neg`, the comparisons
  and the conversions from words, from binary64 and to 16-bit words.
-/

set_option autoImplicit false

namespace RadarIngest

/-- The bit pattern of a single-precision value. -/
structure Binary32 where
  bits : UInt32
  deriving DecidableEq, Repr

namespace Binary32

/-- The default NaN an invalid operation produces. -/
def defaultNaN : Binary32 := ⟨0xFFC00000⟩

/-- The quiet NaN written as the constant `NaN`. -/
def nan : Binary32 := ⟨0x7FC00000⟩

/-- Positive infinity. -/
def infinity : Binary32 := ⟨0x7F800000⟩

/-- Zero with the sign bit set. -/
def negZero : Binary32 := ⟨0x80000000⟩

/-- Whether the value is a NaN: all exponent bits set and a non-zero fraction. -/
def isNaN (x : Binary32) : Bool :=
  x.bits &&& 0x7F800000 == 0x7F800000 && x.bits &&& 0x007FFFFF != 0

/-- Whether the value is neither infinite nor a NaN. -/
def isFinite (x : Binary32) : Bool := x.bits &&& 0x7F800000 != 0x7F800000

/-- The same NaN with its quiet bit set. -/
def quiet (x : Binary32) : Binary32 := ⟨x.bits ||| 0x00400000⟩

/-- The value as a hardware single. -/
def toHardware (x : Binary32) : Float32 := Float32.ofBits x.bits

/-- A hardware result, with a NaN read as the default NaN of an invalid operation. -/
def ofHardware (f : Float32) : Binary32 :=
  if f.isNaN then defaultNaN else ⟨f.toBits⟩

/-- A binary operation: NaN operands propagate, the first one first. -/
def lift₂ (op : Float32 → Float32 → Float32) (a b : Binary32) : Binary32 :=
  if a.isNaN then a.quiet
  else if b.isNaN then b.quiet
  else ofHardware (op a.toHardware b.toHardware)

/-- A unary operation: a NaN operand propagates. -/
def lift₁ (op : Float32 → Float32) (a : Binary32) : Binary32 :=
  if a.isNaN then a.quiet else ofHardware (op a.toHardware)

instance : Add Binary32 := ⟨lift₂ (· + ·)⟩
instance : Sub Binary32 := ⟨lift₂ (· - ·)⟩
instance : Mul Binary32 := ⟨lift₂ (· * ·)⟩
instance : Div Binary32 := ⟨lift₂ (· / ·)⟩

/-- The correctly rounded square root. -/
def sqrt (x : Binary32) : Binary32 := lift₁ Float32.sqrt x

/-- The sine, as the platform's single-precision sine computes it. -/
def sin (x : Binary32) : Binary32 := lift₁ Float32.sin x

/-- Negation flips the sign bit, of a NaN too. -/
def neg (x : Binary32) : Binary32 := ⟨x.bits ^^^ 0x80000000⟩

instance : Neg Binary32 := ⟨neg⟩

/-- `a < b`; false when either is a NaN. -/
def lt (a b : Binary32) : Bool :=
  !a.isNaN && !b.isNaN && decide (a.toHardware < b.toHardware)

/-- The nearest single to a 64-bit word. -/
def ofWord (n : Nat) : Binary32 := ofHardware (UInt64.toFloat32 n.toUInt64)

/-- The nearest single to an integer of at most 64 bits, either sign. -/
def ofInt (n : Int) : Binary32 :=
  if n < 0 then neg (ofWord n.natAbs) else ofWord n.toNat

/-- The nearest single to a binary64 value. -/
def ofDouble (x : Float) : Binary32 :=
  if x.isNaN then nan else ofHardware x.toFloat32

/-- The binary64 value of the same magnitude, for a finite value. -/
def toDouble (x : Binary32) : Float := x.toHardware.toFloat

/-- `lo` for a value below `lo`, `hi` for a value above `hi`, otherwise the value; a NaN stays. -/
def clamp (x lo hi : Binary32) : Binary32 :=
  let y := if lt x lo then lo else x
  if lt hi y then hi else y

/-- Conversion to a 16-bit word toward zero, saturating at both ends; a NaN gives zero. -/
def toUInt16 (x : Binary32) : UInt16 :=
  if x.isNaN then 0 else x.toHardware.toUInt16

end Binary32

end RadarIngest
