import RadarIngest.Frame.Document
import RadarIngest.Frame.Sample
import RadarIngest.Manager.Producer
import RadarIngest.Random.Uniform

/-!
**A synthetic radar sensor.**

Every read delivers one whole frame or nothing: a region too small for a frame drops the frame
(and counts it), otherwise the frame is written at the start of the region.  Sample `i` of a
frame of `n` samples is

  `clamp (2048 + sin (i / n · 2 · π · frequency) · amplitude + jitter) 0 4095`,

truncated to a 16-bit word, all in single precision.  The amplitude is the *active* one in every
other run of `activityPeriod` frames (counting emitted and dropped frames), and the *quiet* one
otherwise and when the period is zero.  The jitter is uniform in `[-noise, noise)` when the noise
is positive, and zero otherwise.

Main definitions:

* `RadarIngest.SensorConfig`, with `ofJson` and `toJson`;
* `RadarIngest.Sensor`, `RadarIngest.Sensor.read`.
-/

set_option autoImplicit false

namespace RadarIngest

/-! ### Constants of the sensor, in single precision -/
namespace Level

/-- The midpoint of a 12-bit converter, 2048. -/
def bias : Binary32 := ⟨0x45000000⟩

/-- The largest 12-bit value, 4095. -/
def top : Binary32 := ⟨0x457FF000⟩

/-- Zero. -/
def zero : Binary32 := ⟨0⟩

/-- Two. -/
def two : Binary32 := ⟨0x40000000⟩

/-- π rounded to single precision. -/
def pi : Binary32 := ⟨0x40490FDB⟩

end Level

/-- How a synthetic sensor behaves. -/
structure SensorConfig where
  geometry : FrameGeometry := FrameGeometry.standard
  /-- Sine periods per frame: 8. -/
  frequency : Binary32 := ⟨0x41000000⟩
  /-- Half-width of the jitter: 4. -/
  noise : Binary32 := ⟨0x40800000⟩
  /-- Amplitude of quiet frames: 10. -/
  quietAmplitude : Binary32 := ⟨0x41200000⟩
  /-- Amplitude of active frames: 400. -/
  activeAmplitude : Binary32 := ⟨0x43C80000⟩
  /-- Frames per quiet or active stretch; zero keeps the sensor quiet. -/
  activityPeriod : Nat := 8
  seed : Nat := 0
  deriving DecidableEq, Repr

/-- A synthetic sensor: its configuration, generator and frame counts. -/
structure Sensor where
  config : SensorConfig
  rng : ChaCha.Stream
  emitted : Nat := 0
  dropped : Nat := 0

namespace Sensor

/-- A sensor whose generator is seeded from the configuration. -/
def ofConfig (c : SensorConfig) : Sensor := ⟨c, ChaCha.Stream.ofSeed c.seed.toUInt64, 0, 0⟩

/-- The amplitude of the frame with a given index. -/
def amplitude (c : SensorConfig) (frame : Nat) : Binary32 :=
  if c.activityPeriod > 0 ∧ (frame / c.activityPeriod) % 2 = 1 then c.activeAmplitude
  else c.quietAmplitude

/-- The samples of a frame from sample `i` on, as bytes, with the generator after them. -/
def samples (c : SensorConfig) (n : Nat) (amp : Binary32) :
    Nat → Nat → ChaCha.Stream → Except Panic (List UInt8 × ChaCha.Stream)
  | 0, _, rng => .ok ([], rng)
  | fuel + 1, i, rng => do
    let phase := Binary32.ofWord i / Binary32.ofWord n * Level.two * Level.pi * c.frequency
    let (jitter, rng) ← if Binary32.lt Level.zero c.noise then Uniform.sample (-c.noise) c.noise rng
      else pure (Level.zero, rng)
    let value := (Level.bias + phase.sin * amp + jitter).clamp Level.zero Level.top
    let x := value.toUInt16
    let (rest, rng) ← samples c n amp fuel (i + 1) rng
    pure (Sample.low x :: Sample.high x :: rest, rng)

/-- One read: a whole frame at the start of the region, or a dropped frame. -/
def read (s : Sensor) (region : List UInt8) : Except Panic (Sensor × Yield) := do
  let frameBytes ← s.config.geometry.frameBytes
  if region.length < frameBytes then
    pure ({ s with dropped := s.dropped + 1 }, ⟨region, .ok 0⟩)
  else
    let n ← s.config.geometry.samplesPerFrame
    let amp := amplitude s.config (s.emitted + s.dropped)
    let (bytes, rng) ← samples s.config n amp n 0 s.rng
    pure ({ s with rng := rng, emitted := s.emitted + 1 },
      ⟨bytes ++ region.drop bytes.length, .ok frameBytes⟩)

instance : Producer Sensor := ⟨Sensor.read⟩

end Sensor

namespace SensorConfig

/-- The fields of a sensor configuration, in declaration order; all have defaults. -/
def fieldNames : List (String × Bool) :=
  [("geometry", false), ("frequency", false), ("noise", false), ("quiet_amplitude", false),
    ("active_amplitude", false), ("activity_period", false), ("seed", false)]

/-- Decodes one field of a sensor configuration; other keys are skipped. -/
def checkField (name : String) (v : Json.Value) : Except DecodeError Unit :=
  match name with
  | "geometry" => (FrameGeometry.ofJson v).map fun _ => ()
  | "frequency" | "noise" | "quiet_amplitude" | "active_amplitude" => v.toSingle.map fun _ => ()
  | "activity_period" => (v.toWord "usize").map fun _ => ()
  | "seed" => (v.toWord "u64").map fun _ => ()
  | _ => .ok ()

/-- A sensor configuration from a document; every absent field keeps its default. -/
def ofJson (v : Json.Value) : Except DecodeError SensorConfig := do
  let d : SensorConfig := {}
  let fs ← v.fieldsOf "SensorConfig" fieldNames checkField
  pure {
    geometry := ← fs.withDefault "geometry" FrameGeometry.ofJson d.geometry
    frequency := ← fs.withDefault "frequency" (·.toSingle) d.frequency
    noise := ← fs.withDefault "noise" (·.toSingle) d.noise
    quietAmplitude := ← fs.withDefault "quiet_amplitude" (·.toSingle) d.quietAmplitude
    activeAmplitude := ← fs.withDefault "active_amplitude" (·.toSingle) d.activeAmplitude
    activityPeriod := ← fs.withDefault "activity_period" (·.toWord "usize") d.activityPeriod
    seed := ← fs.withDefault "seed" (·.toWord "u64") d.seed }

/-- A single-precision number as a document: its binary64 value, or null when not finite. -/
def singleJson (x : Binary32) : Json.Value :=
  if x.isFinite then .number (.float x.toDouble) else .null

/-- A sensor configuration as a document. -/
def toJson (c : SensorConfig) : Json.Value :=
  .object [("geometry", c.geometry.toJson), ("frequency", singleJson c.frequency),
    ("noise", singleJson c.noise), ("quiet_amplitude", singleJson c.quietAmplitude),
    ("active_amplitude", singleJson c.activeAmplitude),
    ("activity_period", .nat c.activityPeriod), ("seed", .nat c.seed)]

end SensorConfig

end RadarIngest
