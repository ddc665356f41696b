import RadarIngest.Word

/-!
**The shape of a radar frame.**

A frame holds `samplesPerChirp` samples for each of `chirpsPerFrame` chirps on each of
`rxAntennas` receive antennas, two bytes a sample.  Both sizes are machine words: the product is
formed left to right, and a product that leaves the word range stops the computation, even when a
later factor is zero.

Main definitions:

* `RadarIngest.FrameGeometry`, with `RadarIngest.FrameGeometry.standard` (128 × 16 × 1);
* `RadarIngest.FrameGeometry.samplesPerFrame`, `RadarIngest.FrameGeometry.frameBytes`.
-/

set_option autoImplicit false

namespace RadarIngest

/-- Bytes taken by one sample. -/
def bytesPerSample : Nat := 2

/-- How many samples a frame holds along each of its three axes. -/
structure FrameGeometry where
  samplesPerChirp : Nat
  chirpsPerFrame : Nat
  rxAntennas : Nat
  deriving DecidableEq, Repr

namespace FrameGeometry

/-- The geometry used when none is given: 128 samples, 16 chirps, one antenna. -/
def standard : FrameGeometry := ⟨128, 16, 1⟩

instance : Inhabited FrameGeometry := ⟨standard⟩

/-- Samples in one frame, multiplied left to right in machine words. -/
def samplesPerFrame (g : FrameGeometry) : Except Panic Nat := do
  let perAntenna ← Word.mul g.samplesPerChirp g.chirpsPerFrame
  Word.mul perAntenna g.rxAntennas

/-- Bytes in one frame: the sample count times the bytes of a sample. -/
def frameBytes (g : FrameGeometry) : Except Panic Nat := do
  Word.mul (← g.samplesPerFrame) bytesPerSample

end FrameGeometry

end RadarIngest
