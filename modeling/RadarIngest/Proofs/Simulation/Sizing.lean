import Mathlib.Logic.Basic
import RadarIngest.Simulation.Config

/-!
**Sizing a staging manager in frames, with checked products.**

A simulation gives the staging buffer and the fill level in frames; the manager wants bytes.  The
frame size is formed as samples per chirp times chirps, times antennas, times the two bytes of a
sample, and then multiplied by the buffer's frames and by the fill level's frames.  Each of these
five products is a machine-word product that stops on overflow, so the conversion stops exactly
when one of the products, taken as a number, leaves the word range — also when a later factor is
zero and the frame would have no bytes at all.  Otherwise it gives the exact sizes.  Those sizes
pass validation exactly when the frame has bytes and the fill level lies between one frame and the
whole buffer: under a positive frame size the frame size cancels from each comparison.

Main definitions:

* `RadarIngest.FrameGeometry.byteCount` — the bytes of a frame, as a number;
* `RadarIngest.SimulationConfig.sizeProducts` — the five products, in the order they are formed;
* `RadarIngest.SimulationConfig.byteSizes` — the manager configuration sized exactly.

Main results:

* `RadarIngest.FrameGeometry.frameBytes_eq` — the frame size stops exactly when one of its three
  products overflows;
* `RadarIngest.SimulationConfig.toManagerConfig_eq` — the conversion stops exactly when one of the
  five products overflows, and otherwise gives the exact sizes;
* `RadarIngest.SimulationConfig.byteSizes_validate_eq_ok_iff` — when the exact sizes are valid;
* `RadarIngest.SimulationConfig.toManagerConfig_checked_valid_iff` — **both in one statement**.
-/

set_option autoImplicit false

namespace RadarIngest

namespace Word

variable {α : Type}

/-- Work after a checked product is the work on the product when it fits, and the stop
otherwise. -/
theorem mul_bind (a b : Nat) (f : Nat → Except Panic α) :
    Word.mul a b >>= f = if a * b < wordBound then f (a * b) else .error .multiplyOverflow := by
  unfold Word.mul
  split <;> rfl

/-- Work after a result that is the stop unless `P` holds. -/
theorem checked_bind (P : Prop) [Decidable P] (x : Nat) (f : Nat → Except Panic α) :
    (if P then .ok x else .error .multiplyOverflow) >>= f =
      if P then f x else .error .multiplyOverflow := by
  split <;> rfl

/-- A result that is the stop unless `P` holds, when it is a value, is the value given. -/
theorem eq_of_checked_eq_ok (P : Prop) [Decidable P] {x y : α}
    (h : (if P then .ok x else .error .multiplyOverflow : Except Panic α) = .ok y) : y = x := by
  split at h
  · exact (Except.ok.inj h).symm
  · cases h

end Word

namespace FrameGeometry

/-- The bytes of a frame as a number, however large. -/
def byteCount (g : FrameGeometry) : Nat :=
  g.samplesPerChirp * g.chirpsPerFrame * g.rxAntennas * bytesPerSample

/-- The three products the frame size is formed from, in the order they are formed. -/
def partialProducts (g : FrameGeometry) : List Nat :=
  [g.samplesPerChirp * g.chirpsPerFrame, g.samplesPerChirp * g.chirpsPerFrame * g.rxAntennas,
    g.byteCount]

/-- A frame has bytes exactly when each of its three sizes is positive. -/
theorem byteCount_pos_iff (g : FrameGeometry) :
    0 < g.byteCount ↔ 0 < g.samplesPerChirp ∧ 0 < g.chirpsPerFrame ∧ 0 < g.rxAntennas := by
  simp only [byteCount, bytesPerSample, Nat.pos_iff_ne_zero, ne_eq, Nat.mul_eq_zero, reduceCtorEq,
    or_false, not_or, and_assoc]

theorem samplesPerFrame_eq (g : FrameGeometry) :
    g.samplesPerFrame =
      if g.samplesPerChirp * g.chirpsPerFrame < wordBound ∧
          g.samplesPerChirp * g.chirpsPerFrame * g.rxAntennas < wordBound then
        .ok (g.samplesPerChirp * g.chirpsPerFrame * g.rxAntennas)
      else .error .multiplyOverflow := by
  rw [samplesPerFrame, Word.mul_bind, ite_and]
  rfl

/-- **The frame size stops exactly when one of its products overflows**, and is otherwise the
byte count. -/
theorem frameBytes_eq (g : FrameGeometry) :
    g.frameBytes =
      if ∀ p ∈ g.partialProducts, p < wordBound then .ok g.byteCount
      else .error .multiplyOverflow := by
  simp only [partialProducts, List.mem_cons, List.not_mem_nil, or_false, forall_eq_or_imp,
    forall_eq]
  rw [frameBytes, samplesPerFrame_eq, Word.checked_bind]
  simp only [ite_and]
  rfl

/-- A frame size that does not stop is the byte count. -/
theorem eq_byteCount_of_frameBytes_eq_ok {g : FrameGeometry} {F : Nat} (h : g.frameBytes = .ok F) :
    F = g.byteCount :=
  Word.eq_of_checked_eq_ok _ (g.frameBytes_eq ▸ h)

end FrameGeometry

namespace SimulationConfig

/-- The products `toManagerConfig` forms, in the order it forms them: the three of the frame size,
then the buffer size and the fill level. -/
def sizeProducts (c : SimulationConfig) : List Nat :=
  c.geometry.partialProducts ++
    [c.geometry.byteCount * c.bufferFrames, c.geometry.byteCount * c.fillFrames]

/-- The manager configuration with the buffer and the fill level sized exactly in bytes. -/
def byteSizes (c : SimulationConfig) : ManagerConfig where
  bufferSize := c.geometry.byteCount * c.bufferFrames
  fillLevel := c.geometry.byteCount * c.fillFrames
  maxSubscribers := c.maxSubscribers

/-- **Sizing in bytes stops exactly when one of its products overflows**, and otherwise gives the
exact sizes and the configured slots. -/
theorem toManagerConfig_eq (c : SimulationConfig) :
    c.toManagerConfig =
      if ∀ p ∈ c.sizeProducts, p < wordBound then .ok c.byteSizes
      else .error .multiplyOverflow := by
  rw [toManagerConfig, FrameGeometry.frameBytes_eq, Word.checked_bind]
  simp only [sizeProducts, List.forall_mem_append, List.mem_cons, List.not_mem_nil, or_false,
    forall_eq_or_imp, forall_eq, Word.mul_bind, ite_and]
  rfl

/-- A conversion that does not stop gives the exact sizes. -/
theorem eq_byteSizes_of_toManagerConfig_eq_ok {c : SimulationConfig} {mc : ManagerConfig}
    (h : c.toManagerConfig = .ok mc) : mc = c.byteSizes :=
  Word.eq_of_checked_eq_ok _ (c.toManagerConfig_eq ▸ h)

/-- The exact sizes pass validation exactly when the frame has bytes, the fill level is between
one frame and the whole buffer, and there is a slot. -/
theorem byteSizes_validate_eq_ok_iff (c : SimulationConfig) :
    c.byteSizes.validate = .ok () ↔
      0 < c.geometry.samplesPerChirp ∧ 0 < c.geometry.chirpsPerFrame ∧
        0 < c.geometry.rxAntennas ∧ 0 < c.fillFrames ∧ c.fillFrames ≤ c.bufferFrames ∧
          0 < c.maxSubscribers := by
  rw [ManagerConfig.validate_eq_ok_iff]
  simp only [byteSizes]
  constructor
  · rintro ⟨hsize, hfill, hle, hslots⟩
    -- a positive product has positive factors, and the common factor cancels
    have hF : 0 < c.geometry.byteCount := Nat.pos_of_mul_pos_right hsize
    obtain ⟨hs, hc, hr⟩ := (FrameGeometry.byteCount_pos_iff _).1 hF
    exact ⟨hs, hc, hr, Nat.pos_of_mul_pos_left hfill, Nat.le_of_mul_le_mul_left hle hF, hslots⟩
  · rintro ⟨hs, hc, hr, hfill, hle, hslots⟩
    have hF := (FrameGeometry.byteCount_pos_iff _).2 ⟨hs, hc, hr⟩
    exact ⟨Nat.mul_pos hF (Nat.lt_of_lt_of_le hfill hle), Nat.mul_pos hF hfill,
      Nat.mul_le_mul_left _ hle, hslots⟩

/-- **Sizing a manager in frames**: the conversion stops exactly when one of the five products
overflows, otherwise it gives the exact sizes, and these are valid exactly when the frame and the
fill level are. -/
theorem toManagerConfig_checked_valid_iff (c : SimulationConfig) :
    c.toManagerConfig =
        (if ∀ p ∈ c.sizeProducts, p < wordBound then .ok c.byteSizes
        else .error .multiplyOverflow) ∧
      (c.byteSizes.validate = .ok () ↔
        0 < c.geometry.samplesPerChirp ∧ 0 < c.geometry.chirpsPerFrame ∧
          0 < c.geometry.rxAntennas ∧ 0 < c.fillFrames ∧ c.fillFrames ≤ c.bufferFrames ∧
            0 < c.maxSubscribers) :=
  ⟨toManagerConfig_eq c, byteSizes_validate_eq_ok_iff c⟩

/-- The first product overflows although the frame has no bytes. -/
example : ({ geometry := ⟨2 ^ 32, 2 ^ 32, 0⟩ } : SimulationConfig).toManagerConfig =
    .error .multiplyOverflow := rfl

end SimulationConfig

end RadarIngest
