import RadarIngest.Binary32

/-!
**Mean and root mean square of single-precision samples.**

Sums are taken left to right in single precision, starting from negative zero, so that the sum
of an empty or all-negative-zero list is negative zero.  The mean of no samples, and their root
mean square, is zero.  The AC root mean square removes the mean first, so a constant signal has
none.

Main definitions:

* `RadarIngest.Stats.sum`, `RadarIngest.Stats.mean`, `RadarIngest.Stats.rms`,
  `RadarIngest.Stats.acRms`.
-/

set_option autoImplicit false

namespace RadarIngest

namespace Stats

/-- The left-to-right single-precision sum, starting from negative zero. -/
def sum (xs : List Binary32) : Binary32 := xs.foldl (· + ·) Binary32.negZero

/-- The mean: the sum over the count; zero for no samples. -/
def mean (xs : List Binary32) : Binary32 :=
  if xs.isEmpty then ⟨0⟩ else sum xs / Binary32.ofWord xs.length

/-- The root mean square: the square root of the mean of the squares; zero for no samples. -/
def rms (xs : List Binary32) : Binary32 :=
  if xs.isEmpty then ⟨0⟩ else Binary32.sqrt (sum (xs.map fun v => v * v) / Binary32.ofWord xs.length)

/-- The root mean square of 16-bit samples after their mean is removed. -/
def acRms (samples : List UInt16) : Binary32 :=
  let values := samples.map fun s => Binary32.ofWord s.toNat
  let m := mean values
  rms (values.map fun v => v - m)

end Stats

end RadarIngest
