/-!
**Why an operation is refused, and why a computation stops.**

Every refusal of the staging manager, its registry, its allocators and the sample codec is a
`RadarIngest.ManagerError`.  Its constructors are the six kinds of refusal; each carries the
cause as data rather than as text, so that a statement about an operation can say *which*
refusal it makes.  The wording lives in one place, `RadarIngest.ManagerError.message`.

A computation that cannot go on at all — a machine word that overflows, a random range that
does not fit in single precision — is a `RadarIngest.Panic`, with its text in
`RadarIngest.Panic.message`.

Main definitions:

* `RadarIngest.ParamFault`, `RadarIngest.Blocked`, `RadarIngest.Unready` — the causes;
* `RadarIngest.ManagerError` and `RadarIngest.ManagerError.message`;
* `RadarIngest.Panic` and `RadarIngest.Panic.message`;
* `RadarIngest.Fault` — either of the two, for operations that can do both.
-/

set_option autoImplicit false

namespace RadarIngest

/-- The parameter that made an operation refuse. -/
inductive ParamFault where
  /-- A configuration asks for a staging buffer of no bytes. -/
  | bufferSizeZero
  /-- A fill level lies outside `1..=capacity`. -/
  | fillOutside (fill capacity : Nat)
  /-- A configuration asks for no subscriber slots. -/
  | noSlots
  /-- `init` was given a size and fill level that do not satisfy `0 < fill ≤ size`. -/
  | sizes (size fill : Nat)
  /-- A consumer without a name tried to subscribe. -/
  | emptyName
  /-- A subscriber id lies outside `1..=capacity`. -/
  | idOutside (id capacity : Nat)
  /-- A subscriber id names a free slot. -/
  | unregistered (id : Nat)
  /-- A sample was to be written into fewer than two bytes. -/
  | shortSlot (got : Nat)
  deriving DecidableEq, Repr

/-- What stands in the way of an operation that is refused outright. -/
inductive Blocked where
  /-- `init` on a manager that already holds a staging buffer. -/
  | alreadyInitialized
  /-- `deinit` on a manager that holds no staging buffer. -/
  | notInitialized
  /-- `deinit` while this many subscribers are registered. -/
  | stillRegistered (count : Nat)
  /-- A run from a thread other than the one the manager is bound to. -/
  | foreignThread
  deriving DecidableEq, Repr

/-- What is not ready yet. -/
inductive Unready where
  /-- The manager holds no staging buffer. -/
  | uninitialized
  /-- The subscriber id names a free slot. -/
  | unregistered (id : Nat)
  /-- Fewer bytes than the fill level are buffered. -/
  | belowFill
  deriving DecidableEq, Repr

/-- A refusal of the staging manager or one of its parts. -/
inductive ManagerError where
  | invalidParam (cause : ParamFault)
  | capacityExceeded (slots : Nat)
  | allocationFailed (size : Nat)
  | operationBlocked (cause : Blocked)
  | notReady (cause : Unready)
  /-- The producer failed to deliver; the text is the producer's own. -/
  | producer (message : String)
  deriving DecidableEq, Repr

namespace ParamFault

/-- The text of a parameter fault.  Subscriber ids are written with a leading `#`. -/
def message : ParamFault → String
  | bufferSizeZero => "buffer size must be non-zero"
  | fillOutside fill capacity => s!"fill level {fill} outside 1..={capacity}"
  | noSlots => "at least one subscriber slot is required"
  | sizes size fill => s!"buffer size {size} / fill level {fill} (need 0 < fill <= size)"
  | emptyName => "subscriber name is empty"
  | idOutside id capacity => s!"subscriber #{id} outside 1..={capacity}"
  | unregistered id => s!"subscriber #{id} is not registered"
  | shortSlot got => s!"sample needs 2 bytes, got {got}"

end ParamFault

/-- The text of a blocking cause. -/
def Blocked.message : Blocked → String
  | .alreadyInitialized => "manager already initialized"
  | .notInitialized => "manager not initialized"
  | .stillRegistered count => s!"{count} subscriber(s) still registered"
  | .foreignThread => "run must only be called from the producer thread"

/-- The text of what is not ready. -/
def Unready.message : Unready → String
  | .uninitialized => "manager not initialized"
  | .unregistered id => s!"subscriber #{id} is not registered"
  | .belowFill => "fill level not reached"

/-- The full text of a refusal: the kind's phrase followed by its cause. -/
def ManagerError.message : ManagerError → String
  | .invalidParam cause => s!"invalid parameter: {cause.message}"
  | .capacityExceeded slots => s!"subscriber capacity exceeded ({slots} slots)"
  | .allocationFailed size => s!"failed to allocate {size} byte staging buffer"
  | .operationBlocked cause => s!"operation blocked: {cause.message}"
  | .notReady cause => s!"data not ready: {cause.message}"
  | .producer message => s!"producer failure: {message}"

/-- A computation that stops: an overflowing machine word or an impossible random range. -/
inductive Panic where
  /-- A product of machine words exceeds `2 ^ 64 - 1`. -/
  | multiplyOverflow
  /-- A sum of machine words exceeds `2 ^ 64 - 1`. -/
  | addOverflow
  /-- The lower end of a random range is not finite. -/
  | lowNotFinite
  /-- The upper end of a random range is not finite. -/
  | highNotFinite
  /-- The lower end of a random range is not below the upper end. -/
  | emptyRange
  /-- The width of a random range is not finite. -/
  | rangeOverflow
  deriving DecidableEq, Repr

/-- The text a stopped computation reports. -/
def Panic.message : Panic → String
  | .multiplyOverflow => "attempt to multiply with overflow"
  | .addOverflow => "attempt to add with overflow"
  | .lowNotFinite => "UniformSampler::sample_single called with `low` non-finite."
  | .highNotFinite => "UniformSampler::sample_single called with `high` non-finite."
  | .emptyRange => "UniformSampler::sample_single: low >= high"
  | .rangeOverflow => "UniformSampler::sample_single: range overflow"

/-- Either a refusal or a stop, for operations that can end in both. -/
inductive Fault where
  | refused (error : ManagerError)
  | stopped (panic : Panic)
  deriving DecidableEq, Repr

end RadarIngest
