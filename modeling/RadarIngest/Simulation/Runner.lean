import RadarIngest.Frame.Sample
import RadarIngest.Manager.Run
import RadarIngest.Signal.Stats
import RadarIngest.Simulation.Config
import RadarIngest.Simulation.Failure

/-!
**Running a simulation.**

A simulation builds a synthetic sensor and a staging manager from its configuration, subscribes
`consumers` task consumers named `consumer-0`, `consumer-1`, …, and fires the sensor interrupt
`frames` times.  A woken consumer takes the window it was woken for: it reads it, acknowledges
it, and records the window's AC level.  The first consumer also holds the frame-rate switch and
reports presence whenever the level exceeds the activity threshold.  At the end every consumer is
unsubscribed, and the manager's state, counters and the sensor's frame counts are collected
before the buffer is released.

Consumers here keep up with the interrupt: each woken consumer takes its window before the next
interrupt fires.  For the runs whose outcome does not depend on timing at all
(`RadarIngest.SimulationConfig.isTimingFree`) this is exactly what happens; for the others it is
the schedule in which no consumer ever falls behind.

Main definitions:

* `RadarIngest.ConsumerSummary`, `RadarIngest.SimulationResult`;
* `RadarIngest.RunStop` — a failed step or a stopped computation;
* `RadarIngest.Simulation.execute`.
-/

set_option autoImplicit false

namespace RadarIngest

/-- What one consumer did: its name, the windows it took and the level of the last one. -/
structure ConsumerSummary where
  name : String
  windows : Nat := 0
  lastRms : Binary32 := ⟨0⟩
  deriving DecidableEq, Repr

/-- What a simulation did. -/
structure SimulationResult where
  framesEmitted : Nat
  framesDropped : Nat
  consumers : List ConsumerSummary
  metrics : Counters
  finalState : ManagerState
  frameRate : FrameRate
  rateSwitches : Nat

/-- Why a simulation ended early: a step failed, or a computation stopped the program. -/
inductive RunStop where
  | failed (e : StepFailure)
  | panicked (p : Panic)

/-- Whether the outcome of a run does not depend on how consumers and the interrupt interleave:
there are no consumers, more than can subscribe, no frames, or a single frame followed by a drain
long enough for every consumer to take it. -/
def SimulationConfig.isTimingFree (c : SimulationConfig) : Bool :=
  c.consumers == 0 || c.consumers > c.maxSubscribers || c.frames == 0 ||
    (c.frames == 1 && c.drainMs ≥ 100)

namespace Simulation

/-- A consumer during a run: its subscriber id, its summary so far, whether it has stopped, and
the rate switch if it holds it. -/
structure Worker where
  id : Nat
  summary : ConsumerSummary
  stopped : Bool := false
  switch : Option RateSwitch := none

/-- The handle of the consumer with a given index; the index is its identity. -/
def consumerHandle (i : Nat) : Consumer := ⟨"consumer-" ++ toString i, i, .task⟩

/-- A failure of the manager inside a step. -/
def refusedIn (step : String) (e : ManagerError) : StepFailure :=
  (StepFailure.ofCause (.manager e)).within step

/-- Subscribes the consumers in order; the first holds a fresh rate switch. -/
def subscribeAll (m : Manager Sensor) (mode : PresenceMode) (count : Nat) :
    Except StepFailure (Manager Sensor × Array Worker) :=
  (List.range count).foldlM (fun (m, ws) i =>
    let c := consumerHandle i
    match m.subscribe c with
    | .ok (m, id) =>
      let switch := if i = 0 then some (RateSwitch.start mode) else none
      .ok (m, ws.push { id := id, summary := { name := c.name }, switch := switch })
    | .error e => .error (refusedIn ("subscribing " ++ c.name) e)) (m, #[])

/-- The presence a window level indicates. -/
def presenceOf (threshold level : Binary32) : PresenceState :=
  if Binary32.lt threshold level then .macroPresence else .absence

/-- A woken consumer takes the window unless it has acknowledged it: it reads it, acknowledges it
and records its level, and reports presence to its switch.  A window that is not ready is left
alone; any other refusal stops the consumer. -/
def Worker.take (threshold : Binary32) (m : Manager Sensor) (w : Worker) : Manager Sensor × Worker :=
  if w.stopped || m.registry.isAcknowledged w.id then (m, w)
  else
    match m.readWindow w.id with
    | .error (.notReady _) => (m, w)
    | .error _ => (m, { w with stopped := true })
    | .ok window =>
      match m.ack w.id with
      | .error _ => (m, { w with stopped := true })
      | .ok m =>
        let level := Stats.acRms (Sample.decode window)
        (m, { w with
          summary := { w.summary with windows := w.summary.windows + 1, lastRms := level }
          switch := w.switch.map fun s => (s.observe (presenceOf threshold level)).1 })

/-- Every woken consumer takes its window, in the order they were woken. -/
def deliver (threshold : Binary32) (m : Manager Sensor) (ws : Array Worker) (woken : List Consumer) :
    Manager Sensor × Array Worker :=
  woken.foldl (fun (m, ws) c =>
    match ws[c.key]? with
    | some w =>
      let (m, w) := w.take threshold m
      (m, ws.setIfInBounds c.key w)
    | none => (m, ws)) (m, ws)

/-- Fires the sensor interrupt `n` times, each followed by the consumers it woke. -/
def interrupts (threshold : Binary32) : Nat → Manager Sensor → Array Worker →
    Except RunStop (Manager Sensor × Array Worker)
  | 0, m, ws => .ok (m, ws)
  | n + 1, m, ws =>
    match m.run .interrupt 1 with
    | (_, .error (.stopped _)) =>
      .error (.failed (StepFailure.ofCause (.note "sensor interrupt thread panicked")))
    | (_, .error (.refused e)) => .error (.failed (refusedIn "running radar data manager" e))
    | (m, .ok report) =>
      let (m, ws) := deliver threshold m ws report.woken
      interrupts threshold n m ws

/-- Runs a simulation from its configuration. -/
def execute (c : SimulationConfig) : Except RunStop SimulationResult := do
  let sensor := Sensor.ofConfig c.toSensorConfig
  let mc ← match c.toManagerConfig with
    | .ok mc => pure mc
    | .error p => throw (.panicked p)
  let m ← match Manager.withConfig sensor mc with
    | (m, .ok ()) => pure m
    | (_, .error e) => throw (.failed (refusedIn "initializing radar data manager" e))
  let (m, ws) ← match subscribeAll m c.mode c.consumers with
    | .ok r => pure r
    | .error e => throw (.failed e)
  let (m, ws) ← interrupts c.activityThreshold c.frames m ws
  let (frameRate, rateSwitches) := match ws[0]?.bind (·.switch) with
    | some s => (s.current, s.switches)
    | none => (c.mode.initial, 0)
  let m := ws.foldl (fun m w => m.unsubscribe w.id) m
  let finalState := m.state
  let metrics := m.metrics.snapshot
  let framesEmitted := m.producer.emitted
  let framesDropped := m.producer.dropped
  match m.deinit with
  | .error e => throw (.failed (refusedIn "releasing radar data manager" e))
  | .ok _ =>
    pure {
      framesEmitted, framesDropped, consumers := ws.toList.map (·.summary), metrics,
      finalState, frameRate, rateSwitches }

end Simulation

end RadarIngest
