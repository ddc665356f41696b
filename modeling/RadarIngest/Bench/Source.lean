import RadarIngest.Source.Script
import RadarIngest.Source.Sensor

/-!
**The producers a bench can drive a manager with.**

Main definitions:

* `RadarIngest.Source` — a scripted producer or a synthetic sensor.
-/

set_option autoImplicit false

namespace RadarIngest

/-- A producer of either kind. -/
inductive Source where
  | script (s : Script)
  | sensor (s : Sensor)

namespace Source

/-- Reads from whichever producer it is. -/
def read : Source → List UInt8 → Except Panic (Source × Yield)
  | .script s, region => let (s, y) := s.read region; .ok (.script s, y)
  | .sensor s, region => do
    let (s, y) ← s.read region
    pure (.sensor s, y)

instance : Producer Source := ⟨Source.read⟩

end Source

end RadarIngest
