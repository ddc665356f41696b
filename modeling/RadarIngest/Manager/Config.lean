import RadarIngest.Fault
import RadarIngest.Schema.FromJson

/-!
**The configuration of a staging manager.**

A configuration names the staging buffer size, the fill level at which subscribers are woken,
and the number of subscriber slots (four unless given).  It is valid when the size is positive,
the fill level lies in `1..=size` and there is at least one slot; `validate` checks these in that
order and reports the first that fails.

Main definitions:

* `RadarIngest.ManagerConfig`, `RadarIngest.ManagerConfig.validate`;
* `RadarIngest.ManagerConfig.ofJson`, `RadarIngest.ManagerConfig.toJson`.

Main results:

* `RadarIngest.ManagerConfig.validate_eq_ok_iff` — validation accepts exactly the valid
  configurations.
-/

set_option autoImplicit false

namespace RadarIngest

/-- The number of subscriber slots a manager has unless told otherwise. -/
def defaultSlots : Nat := 4

/-- The sizes a staging manager is set up with. -/
structure ManagerConfig where
  bufferSize : Nat
  fillLevel : Nat
  maxSubscribers : Nat := defaultSlots
  deriving DecidableEq, Repr

namespace ManagerConfig

/-- Checks the size, then the fill level, then the slot count. -/
def validate (c : ManagerConfig) : Except ManagerError Unit :=
  if c.bufferSize = 0 then .error (.invalidParam .bufferSizeZero)
  else if c.fillLevel = 0 ∨ c.fillLevel > c.bufferSize then
    .error (.invalidParam (.fillOutside c.fillLevel c.bufferSize))
  else if c.maxSubscribers = 0 then .error (.invalidParam .noSlots)
  else .ok ()

theorem validate_eq_ok_iff (c : ManagerConfig) :
    c.validate = .ok () ↔ 0 < c.bufferSize ∧ 0 < c.fillLevel ∧ c.fillLevel ≤ c.bufferSize ∧
      0 < c.maxSubscribers := by
  unfold validate
  split
  · simp only [reduceCtorEq, false_iff]; omega
  · split
    · simp only [reduceCtorEq, false_iff]; omega
    · split
      · simp only [reduceCtorEq, false_iff]; omega
      · simp only [true_iff]; omega

/-- The fields of a configuration, in declaration order, with whether each is required. -/
def fieldNames : List (String × Bool) :=
  [("buffer_size", true), ("fill_level", true), ("max_subscribers", false)]

/-- Decodes one field of a configuration; other keys are skipped. -/
def checkField (name : String) (v : Json.Value) : Except DecodeError Unit :=
  if fieldNames.any (·.1 == name) then (v.toWord "usize").map fun _ => () else .ok ()

/-- A configuration from a document; a missing slot count is four. -/
def ofJson (v : Json.Value) : Except DecodeError ManagerConfig := do
  let fs ← v.fieldsOf "ManagerConfig" fieldNames checkField
  let size ← fs.require "buffer_size" (·.toWord "usize")
  let fill ← fs.require "fill_level" (·.toWord "usize")
  let slots ← fs.withDefault "max_subscribers" (·.toWord "usize") defaultSlots
  pure ⟨size, fill, slots⟩

/-- A configuration as a document. -/
def toJson (c : ManagerConfig) : Json.Value :=
  .object [("buffer_size", .nat c.bufferSize), ("fill_level", .nat c.fillLevel),
    ("max_subscribers", .nat c.maxSubscribers)]

end ManagerConfig

end RadarIngest
