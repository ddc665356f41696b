import RadarIngest.Manager.Basic

/-!
**One producer run.**

A run pulls bytes from the producer into the spare region and, once the fill level is reached,
wakes the subscribers; when every registered subscriber has acknowledged, the window is
compacted away.  In order:

1. A manager without a buffer is not ready; a manager bound to another thread refuses; the first
   run binds the manager to its thread.
2. If there is room, the producer is asked to fill the spare region.  A count that fits is
   committed; a larger one is an anomaly and nothing is committed; a failure is counted.
3. If at least the fill level is buffered, every subscriber that has not consumed the window is
   woken with it, and the cycle is marked notified.  If then every registered subscriber has
   acknowledged, the first fill-level bytes are compacted away and the flags cleared.
4. A buffer filled to its end with nothing unread is cleared.

Main definitions:

* `RadarIngest.RunReport`, `RadarIngest.Manager.run`;
* its steps `claimThread`, `ingest`, `settle` and `finish`.
-/

set_option autoImplicit false

namespace RadarIngest

/-- A producer that claimed more bytes than it was offered. -/
structure Anomaly where
  reported : Nat
  requested : Nat
  deriving DecidableEq, Repr

/-- What one run did. -/
structure RunReport where
  ingested : Nat := 0
  anomaly : Option Anomaly := none
  producerFailed : Bool := false
  /-- The number of subscribers woken. -/
  notified : Nat := 0
  compacted : Bool := false
  reset : Bool := false
  /-- The consumers woken, in slot order. -/
  woken : List Consumer := []
  /-- The window they were woken with. -/
  window : List UInt8 := []

namespace Manager

variable {P : Type} [Producer P]

/-- Applies a counter update; a stop ends the run with the manager as it then is. -/
def counting (m : Manager P) (update : Recorder → Recorder × Option Panic) :
    Except (Manager P × Panic) (Manager P) :=
  match update m.metrics with
  | (r, none) => .ok { m with metrics := r }
  | (r, some p) => .error ({ m with metrics := r }, p)

/-- Step 1 of a run: an unbound manager is bound to the calling thread; a manager bound to another
thread refuses. -/
def claimThread (m : Manager P) (thread : Nat) : Except ManagerError (Manager P) :=
  match m.thread with
  | some t => if t = thread then .ok m else .error (.operationBlocked .foreignThread)
  | none => .ok { m with thread := some thread }

/-- Step 2 of a run: the producer fills the spare region of `s` and a count that fits is
committed.  Returns the manager, holding the buffer it returns, and the report so far. -/
def ingest (m : Manager P) (s : Staging) :
    Except (Manager P × Panic) (Manager P × Staging × RunReport) :=
  if s.room > 0 then
    match Producer.read m.producer s.spare with
    | .error p => .error ({ m with staging := some s }, p)
    | .ok (p, y) =>
      let s := s.writeSpare y.region
      let m := { m with producer := p, staging := some s }
      match y.report with
      | .ok n =>
        match s.commit n with
        | (s', true) => .ok ({ m with staging := some s' }, s', { ingested := n })
        | (_, false) =>
          (counting m (·.recordAnomaly)).map fun m => (m, s, { anomaly := some ⟨n, s.room⟩ })
      | .error _ => (counting m (·.recordProducerError)).map fun m => (m, s, { producerFailed := true })
  else .ok ({ m with staging := some s }, s, {})

/-- Step 3 of a run: once the fill level is buffered, the subscribers are woken with the window,
and if then every registered subscriber has acknowledged, the window is compacted away. -/
def settle (m : Manager P) (s : Staging) (context : WakeContext) (report : RunReport) :
    Except (Manager P × Panic) (Manager P × Staging × RunReport) :=
  if s.buffered ≥ m.fillLevel then
    let window := (s.window m.fillLevel).getD []
    let woken := m.registry.notifyAll
    let report := { report with notified := woken.2.length, woken := woken.2, window := window }
    match counting { m with registry := woken.1, notified := true }
        (·.recordWakes context woken.2.length) with
    | .error e => .error e
    | .ok m =>
      if m.registry.allAcknowledged then
        let s := s.compact m.fillLevel
        let cleared : Manager P := { m with
          staging := some s
          registry := m.registry.clearAcknowledgements
          notified := false }
        (counting cleared (·.recordCompaction)).map fun m => (m, s, { report with compacted := true })
      else .ok (m, s, report)
  else .ok (m, s, report)

/-- Step 4 of a run: a buffer filled to its end with nothing unread is cleared. -/
def finish (m : Manager P) (s : Staging) (report : RunReport) :
    Except (Manager P × Panic) (Manager P × RunReport) :=
  match s.resetIfExhausted with
  | (s', true) =>
    (counting { m with staging := some s', notified := false } (·.recordOverflowReset)).map
      fun m => (m, { report with reset := true })
  | (_, false) => .ok ({ m with staging := some s }, report)

/-- Steps 2 to 4 of a run on a bound manager with a live buffer. -/
def cycle (m : Manager P) (s : Staging) (context : WakeContext) :
    Except (Manager P × Panic) (Manager P × RunReport) := do
  let (m, s, report) ← ingest m s
  let m ← counting m (·.recordRun report.ingested)
  let (m, s, report) ← settle m s context report
  finish m s report

/-- One producer run from `thread` in `context`. -/
def run (m : Manager P) (context : WakeContext) (thread : Nat) : Manager P × Except Fault RunReport :=
  match m.staging with
  | none => (m, .error (.refused (.notReady .uninitialized)))
  | some s =>
    match m.claimThread thread with
    | .error e => (m, .error (.refused e))
    | .ok m =>
      match cycle m s context with
      | .ok (m, report) => (m, .ok report)
      | .error (m, p) => (m, .error (.stopped p))

end Manager

end RadarIngest
