import RadarIngest.Buffer.Staging
import RadarIngest.Buffer.Supply
import RadarIngest.Subscriber.Registry
import RadarIngest.Telemetry.Metrics
import RadarIngest.Manager.Config
import RadarIngest.Manager.Producer

/-!
**The staging manager: lifecycle, subscribers and reads.**

A manager owns a producer, a staging buffer once initialized, a registry of subscriber slots, a
fill level, the *notified* mark of the current cycle, the producer thread it is bound to, and
counters.  Its buffers come from supplies: the manager keeps the supplies it has been given,
the *current* one (the heap at first) and a *pending* one chosen while a buffer is live, which
becomes current when that buffer is released.

Operations that fail leave the manager unchanged, except that a failed `init` records the
failure in the supply it asked.

Main definitions:

* `RadarIngest.Manager`, `RadarIngest.Manager.withSlots`, `RadarIngest.Manager.withConfig`;
* `init`, `deinit`, `setAllocator`, `subscribe`, `unsubscribe`, `readWindow`, `ack`,
  `setFillLevel`, `state`, `staged`;
* `RadarIngest.CyclePhase`, `RadarIngest.ManagerState`.
-/

set_option autoImplicit false

namespace RadarIngest

/-- Where the current acknowledgement cycle stands. -/
inductive CyclePhase where
  | idle
  | filling
  | notified
  | draining
  deriving DecidableEq, Repr

/-- What a manager reports about itself. -/
structure ManagerState where
  capacity : Nat
  head : Nat
  tail : Nat
  buffered : Nat
  fillLevel : Nat
  subscribers : Nat
  phase : CyclePhase
  deriving DecidableEq, Repr

/-- A staging manager fed by a producer of type `P`. -/
structure Manager (P : Type) where
  producer : P
  /-- Every supply the manager has been given; the first is the heap. -/
  supplies : List Supply
  /-- The supply the next buffer comes from. -/
  current : Nat
  /-- A supply chosen while a buffer was live, current from the next release on. -/
  pending : Option Nat
  staging : Option Staging
  registry : Registry
  fillLevel : Nat
  notified : Bool
  /-- The thread the manager is bound to, once a run has bound it. -/
  thread : Option Nat
  metrics : Recorder

namespace Manager

variable {P : Type}

/-- An uninitialized manager with `n` slots, drawing buffers from the heap. -/
def withSlots (producer : P) (n : Nat) : Manager P :=
  ⟨producer, [Supply.heap], 0, none, none, Registry.empty n, 0, false, none, Recorder.fresh⟩

/-- An uninitialized manager with the default number of slots. -/
def create (producer : P) : Manager P := withSlots producer defaultSlots

/-- Whether the manager holds a staging buffer. -/
def isInitialized (m : Manager P) : Bool := m.staging.isSome

/-- The supply with a given index; the heap for an index the manager does not know. -/
def supply (m : Manager P) (i : Nat) : Supply := m.supplies.getD i Supply.heap

/-- Replaces the supply with a given index. -/
def putSupply (m : Manager P) (i : Nat) (s : Supply) : Manager P :=
  { m with supplies := m.supplies.set i s }

/-- Adds a supply to the manager's list and returns its index; it is not used until chosen. -/
def addSupply (m : Manager P) (s : Supply) : Manager P × Nat :=
  ({ m with supplies := m.supplies ++ [s] }, m.supplies.length)

/-- Chooses the supply for the next buffer: at once when no buffer is live, otherwise as the
pending supply. -/
def setAllocator (m : Manager P) (i : Nat) : Manager P :=
  if m.staging.isSome then { m with pending := some i } else { m with current := i }

/-- Takes a staging buffer of `size` bytes from the current supply and sets the fill level. -/
def init (m : Manager P) (size fill : Nat) : Manager P × Except ManagerError Unit :=
  if m.staging.isSome then (m, .error (.operationBlocked .alreadyInitialized))
  else if size = 0 ∨ fill = 0 ∨ fill > size then (m, .error (.invalidParam (.sizes size fill)))
  else
    let (s, r) := (m.supply m.current).allocate size
    match r with
    | .error e => (m.putSupply m.current s, .error e)
    | .ok block =>
      if block.length ≠ size then
        (m.putSupply m.current (s.release block), .error (.allocationFailed size))
      else
        ({ m.putSupply m.current s with
            staging := some (Staging.ofBytes (List.replicate size 0))
            fillLevel := fill
            notified := false }, .ok ())

/-- Validates a configuration and initializes a fresh manager with it. -/
def withConfig (producer : P) (c : ManagerConfig) : Manager P × Except ManagerError Unit :=
  match c.validate with
  | .error e => (withSlots producer c.maxSubscribers, .error e)
  | .ok () => (withSlots producer c.maxSubscribers).init c.bufferSize c.fillLevel

/-- Returns the staging buffer to its supply; refused while subscribers remain. -/
def deinit (m : Manager P) : Except ManagerError (Manager P) :=
  if m.registry.active > 0 then .error (.operationBlocked (.stillRegistered m.registry.active))
  else
    match m.staging with
    | none => .error (.operationBlocked .notInitialized)
    | some s =>
      let m := m.putSupply m.current ((m.supply m.current).release s.bytes)
      let (current, pending) := match m.pending with
        | some p => (p, none)
        | none => (m.current, none)
      .ok { m with
        staging := none, current := current, pending := pending, fillLevel := 0,
        notified := false, thread := none }

/-- Registers a consumer; refused for an empty name, and while no buffer is live. -/
def subscribe (m : Manager P) (c : Consumer) : Except ManagerError (Manager P × Nat) :=
  if c.name.isEmpty then .error (.invalidParam .emptyName)
  else if m.staging.isNone then .error (.capacityExceeded m.registry.capacity)
  else do
    let (r, id) ← m.registry.subscribe c
    pure ({ m with registry := r }, id)

/-- Frees a subscriber's slot; unknown ids are ignored. -/
def unsubscribe (m : Manager P) (id : Nat) : Manager P :=
  { m with registry := (m.registry.unsubscribe id).1 }

/-- The current window for a subscriber: the first fill-level bytes of the live data. -/
def readWindow (m : Manager P) (id : Nat) : Except ManagerError (List UInt8) :=
  if id = 0 ∨ id > m.registry.capacity then
    .error (.invalidParam (.idOutside id m.registry.capacity))
  else if !m.registry.isRegistered id then .error (.notReady (.unregistered id))
  else
    match m.staging.bind (·.window m.fillLevel) with
    | some w => .ok w
    | none => .error (.notReady .belowFill)

/-- Marks a subscriber as done with the current window. -/
def ack (m : Manager P) (id : Nat) : Except ManagerError (Manager P) := do
  pure { m with registry := ← m.registry.acknowledge id }

/-- Changes the fill level to a value in `1..=capacity`. -/
def setFillLevel (m : Manager P) (fill : Nat) : Except ManagerError (Manager P) :=
  let capacity := match m.staging with
    | some s => s.capacity
    | none => 0
  if fill = 0 ∨ fill > capacity then .error (.invalidParam (.fillOutside fill capacity))
  else .ok { m with fillLevel := fill }

/-- The phase of the cycle: after a wake, notified or (once someone acknowledged) draining;
before it, idle when empty and filling otherwise. -/
def phase (m : Manager P) (buffered : Nat) : CyclePhase :=
  if m.notified then (if m.registry.anyAcknowledged then .draining else .notified)
  else if buffered = 0 then .idle else .filling

/-- What the manager reports about itself; all zero before initialization. -/
def state (m : Manager P) : ManagerState :=
  let (capacity, head, tail) := match m.staging with
    | some s => (s.capacity, s.head, s.tail)
    | none => (0, 0, 0)
  ⟨capacity, head, tail, tail - head, m.fillLevel, m.registry.active, m.phase (tail - head)⟩

/-- Every byte of the staging buffer, spare region included; none before initialization. -/
def staged (m : Manager P) : List UInt8 :=
  match m.staging with
  | some s => s.bytes
  | none => []

end Manager

end RadarIngest
