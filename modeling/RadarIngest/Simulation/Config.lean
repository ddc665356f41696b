import RadarIngest.Manager.Config
import RadarIngest.Presence.RateSwitch
import RadarIngest.Source.Sensor
import RadarIngest.Yaml.Decode

/-!
**The configuration of a simulation run.**

A simulation drives a synthetic sensor into a staging manager and lets consumers read the
windows.  Its configuration sizes the staging buffer in frames rather than bytes, and says how
many frames to emit, how many consumers to start, and how the frame rate follows presence.

A configuration is written in YAML; every field may be left out and then takes its default, and
keys that are not fields are ignored.  The frame geometry, when given, must give all three of its
sizes.

Main definitions:

* `RadarIngest.SimulationConfig` with its defaults;
* `RadarIngest.SimulationConfig.ofYaml`, `RadarIngest.SimulationConfig.fromArgs`;
* `RadarIngest.SimulationConfig.toManagerConfig` — buffer and fill level in bytes, stopping when
  a product overflows a machine word;
* `RadarIngest.SimulationConfig.toSensorConfig`.
-/

set_option autoImplicit false

namespace RadarIngest

/-- The configuration of a simulation run. -/
structure SimulationConfig where
  geometry : FrameGeometry := FrameGeometry.standard
  /-- The staging buffer size, in frames. -/
  bufferFrames : Nat := 3
  /-- The frames buffered before subscribers are woken. -/
  fillFrames : Nat := 1
  maxSubscribers : Nat := defaultSlots
  /-- The frames the sensor interrupt fires for. -/
  frames : Nat := 64
  consumers : Nat := 2
  seed : Nat := 0
  /-- The half-width of the sensor's jitter: 4. -/
  noise : Binary32 := ⟨0x40800000⟩
  activityPeriod : Nat := 8
  /-- The window level above which presence is reported: 100. -/
  activityThreshold : Binary32 := ⟨0x42C80000⟩
  mode : PresenceMode := .microIfMacro
  lowRateIntervalMs : Nat := 100
  highRateIntervalMs : Nat := 5
  /-- The grace period for consumers after the last interrupt. -/
  drainMs : Nat := 50
  deriving Repr

/-! ### Reading YAML -/

namespace FrameGeometry

/-- The field names of a geometry in documents. -/
def yamlNames : List String := ["samples_per_chirp", "chirps_per_frame", "rx_antennas"]

/-- Reads one size of a geometry. -/
def yamlField (i : Nat) (path : Yaml.Path) (acc : Array (Option Nat)) : Yaml.Reader (Array (Option Nat)) := do
  let v ← Yaml.Reader.word "usize" path
  pure (acc.setIfInBounds i (some v))

/-- The geometry of the sizes read; the first size missing is refused. -/
def yamlFinish (acc : Array (Option Nat)) (_ : List Nat) : Except DecodeError FrameGeometry :=
  match acc.getD 0 none, acc.getD 1 none, acc.getD 2 none with
  | some s, some c, some r => .ok ⟨s, c, r⟩
  | none, _, _ => .error (.missingField "samples_per_chirp")
  | _, none, _ => .error (.missingField "chirps_per_frame")
  | _, _, none => .error (.missingField "rx_antennas")

/-- Reads a geometry. -/
def readYaml (path : Yaml.Path) : Yaml.Reader FrameGeometry :=
  Yaml.Reader.record "struct FrameGeometry" yamlNames path #[none, none, none] yamlField yamlFinish 2

end FrameGeometry

namespace SimulationConfig

/-- The field names in documents, in declaration order. -/
def fieldNames : List String :=
  ["geometry", "buffer_frames", "fill_frames", "max_subscribers", "frames", "consumers", "seed",
    "noise", "activity_period", "activity_threshold", "mode", "low_rate_interval_ms",
    "high_rate_interval_ms", "drain_ms"]

/-- Reads the field with index `i` into a configuration. -/
def yamlField (i : Nat) (path : Yaml.Path) (c : SimulationConfig) : Yaml.Reader SimulationConfig :=
  match i with
  | 0 => do pure { c with geometry := ← FrameGeometry.readYaml path }
  | 1 => do pure { c with bufferFrames := ← Yaml.Reader.word "usize" path }
  | 2 => do pure { c with fillFrames := ← Yaml.Reader.word "usize" path }
  | 3 => do pure { c with maxSubscribers := ← Yaml.Reader.word "usize" path }
  | 4 => do pure { c with frames := ← Yaml.Reader.word "usize" path }
  | 5 => do pure { c with consumers := ← Yaml.Reader.word "usize" path }
  | 6 => do pure { c with seed := ← Yaml.Reader.word "u64" path }
  | 7 => do pure { c with noise := ← Yaml.Reader.single path }
  | 8 => do pure { c with activityPeriod := ← Yaml.Reader.word "usize" path }
  | 9 => do pure { c with activityThreshold := ← Yaml.Reader.single path }
  | 10 => do
    let name ← Yaml.Reader.variant PresenceMode.names path 2
    pure { c with mode := PresenceMode.ofName name }
  | 11 => do pure { c with lowRateIntervalMs := ← Yaml.Reader.word "u64" path }
  | 12 => do pure { c with highRateIntervalMs := ← Yaml.Reader.word "u64" path }
  | _ => do pure { c with drainMs := ← Yaml.Reader.word "u64" path }

/-- Reads a configuration; fields left out keep their defaults. -/
def readYaml (path : Yaml.Path) : Yaml.Reader SimulationConfig :=
  Yaml.Reader.record "struct SimulationConfig" fieldNames path {} yamlField (fun c _ => .ok c) 2

/-- The configuration a YAML text describes. -/
def ofYaml (text : String) : Except Yaml.Failure SimulationConfig :=
  Yaml.decode text (readYaml .root)

/-! ### Other sources and derived configurations -/

/-- The default configuration with the frame count, consumer count, seed and mode given. -/
def fromArgs (frames consumers seed : Nat) (mode : PresenceMode) : SimulationConfig :=
  { frames, consumers, seed, mode }

/-- The staging manager's configuration: the buffer and the fill level in bytes.  The frame size
is computed first, then the buffer size, then the fill level, each product checked. -/
def toManagerConfig (c : SimulationConfig) : Except Panic ManagerConfig := do
  let frameBytes ← c.geometry.frameBytes
  let bufferSize ← Word.mul frameBytes c.bufferFrames
  let fillLevel ← Word.mul frameBytes c.fillFrames
  pure { bufferSize, fillLevel, maxSubscribers := c.maxSubscribers }

/-- The sensor's configuration: the geometry, noise, activity period and seed; the rest default. -/
def toSensorConfig (c : SimulationConfig) : SensorConfig :=
  { geometry := c.geometry, noise := c.noise, activityPeriod := c.activityPeriod, seed := c.seed }

/-- A configuration as a document. -/
def toJson (c : SimulationConfig) : Json.Value :=
  .object [("geometry", c.geometry.toJson), ("buffer_frames", .nat c.bufferFrames),
    ("fill_frames", .nat c.fillFrames), ("max_subscribers", .nat c.maxSubscribers),
    ("frames", .nat c.frames), ("consumers", .nat c.consumers), ("seed", .nat c.seed),
    ("noise", SensorConfig.singleJson c.noise), ("activity_period", .nat c.activityPeriod),
    ("activity_threshold", SensorConfig.singleJson c.activityThreshold),
    ("mode", .string c.mode.name), ("low_rate_interval_ms", .nat c.lowRateIntervalMs),
    ("high_rate_interval_ms", .nat c.highRateIntervalMs), ("drain_ms", .nat c.drainMs)]

end SimulationConfig

end RadarIngest
