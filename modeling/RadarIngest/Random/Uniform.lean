import RadarIngest.Random.Seed
import RadarIngest.Binary32
import RadarIngest.Fault

/-!
**Uniform single-precision numbers in a half-open range.**

A word gives a number in `[1, 2)` by keeping its 23 high bits as the fraction; one less is a
number in `[0, 1)`, which is scaled by the width of the range and shifted by its lower end, each
step rounded.  A result that rounds up to the upper end is drawn again.

The range must be finite and not empty, and its width must be finite; otherwise the computation
stops, checking the lower end, the upper end, their order and the width in that order.

Main definitions:

* `RadarIngest.Uniform.unit`, `RadarIngest.Uniform.sample`.
-/

set_option autoImplicit false

namespace RadarIngest

namespace Uniform

/-- The number in `[0, 1)` that a word stands for. -/
def unit (w : UInt32) : Binary32 := ⟨(w >>> 9) ||| 0x3F800000⟩ - ⟨0x3F800000⟩

/-- Draws until a result lies below `high`, at most `fuel` times. -/
def draw (low high scale : Binary32) : Nat → ChaCha.Stream → Binary32 × ChaCha.Stream
  | 0, s => (low, s)
  | fuel + 1, s =>
    let (w, s) := s.next
    let res := unit w * scale + low
    if Binary32.lt res high then (res, s) else draw low high scale fuel s

/-- A number drawn uniformly from `[low, high)`. -/
def sample (low high : Binary32) (s : ChaCha.Stream) : Except Panic (Binary32 × ChaCha.Stream) :=
  if !low.isFinite then .error .lowNotFinite
  else if !high.isFinite then .error .highNotFinite
  else if !Binary32.lt low high then .error .emptyRange
  else
    let scale := high - low
    if !scale.isFinite then .error .rangeOverflow
    else .ok (draw low high scale 64 s)

end Uniform

end RadarIngest
