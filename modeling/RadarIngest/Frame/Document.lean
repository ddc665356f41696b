import RadarIngest.Frame.Geometry
import RadarIngest.Schema.FromJson

/-!
**Frame geometry as a JSON document.**

A geometry is an object with the three counts, or an array of them in the order
samples, chirps, antennas.  All three are required.

Main definitions:

* `RadarIngest.FrameGeometry.ofJson`, `RadarIngest.FrameGeometry.toJson`.
-/

set_option autoImplicit false

namespace RadarIngest

namespace FrameGeometry

/-- The fields of a geometry, in declaration order, all required. -/
def fieldNames : List (String × Bool) :=
  [("samples_per_chirp", true), ("chirps_per_frame", true), ("rx_antennas", true)]

/-- Decodes one field of a geometry; other keys are skipped. -/
def checkField (name : String) (v : Json.Value) : Except DecodeError Unit :=
  if fieldNames.any (·.1 == name) then (v.toWord "usize").map fun _ => () else .ok ()

/-- A geometry from a document. -/
def ofJson (v : Json.Value) : Except DecodeError FrameGeometry := do
  let fs ← v.fieldsOf "FrameGeometry" fieldNames checkField
  let s ← fs.require "samples_per_chirp" (·.toWord "usize")
  let c ← fs.require "chirps_per_frame" (·.toWord "usize")
  let r ← fs.require "rx_antennas" (·.toWord "usize")
  pure ⟨s, c, r⟩

/-- A geometry as a document. -/
def toJson (g : FrameGeometry) : Json.Value :=
  .object [("samples_per_chirp", .nat g.samplesPerChirp), ("chirps_per_frame", .nat g.chirpsPerFrame),
    ("rx_antennas", .nat g.rxAntennas)]

end FrameGeometry

end RadarIngest
