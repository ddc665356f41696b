import RadarIngest.Json.Value
import RadarIngest.Simulation.Status

/-!
**Simulation records as documents.**

The manager's state, the counters, a run's result and the status record written as JSON objects
with snake-case keys.  Levels are single precision values widened to double precision; a level
that is not finite is written as `null`.

Main definitions:

* `RadarIngest.ManagerState.toJson`, `RadarIngest.Counters.toJson`;
* `RadarIngest.SimulationResult.toJson`, `RadarIngest.StatusModel.toJson`.
-/

set_option autoImplicit false

namespace RadarIngest

/-- The name of a phase in documents. -/
def CyclePhase.name : CyclePhase → String
  | .idle => "idle"
  | .filling => "filling"
  | .notified => "notified"
  | .draining => "draining"

/-- The manager's state as a document. -/
def ManagerState.toJson (st : ManagerState) : Json.Value :=
  .object [("capacity", .nat st.capacity), ("head", .nat st.head), ("tail", .nat st.tail),
    ("buffered", .nat st.buffered), ("fill_level", .nat st.fillLevel),
    ("subscribers", .nat st.subscribers), ("phase", .string st.phase.name)]

/-- The counters as a document. -/
def Counters.toJson (c : Counters) : Json.Value :=
  .object [("runs", .nat c.runs), ("bytes_ingested", .nat c.bytesIngested),
    ("interrupt_wakes", .nat c.interruptWakes), ("task_wakes", .nat c.taskWakes),
    ("compactions", .nat c.compactions), ("overflow_resets", .nat c.overflowResets),
    ("anomalies", .nat c.anomalies), ("producer_errors", .nat c.producerErrors)]

/-- A consumer's summary as a document. -/
def ConsumerSummary.toJson (s : ConsumerSummary) : Json.Value :=
  .object [("name", .string s.name), ("windows", .nat s.windows),
    ("last_rms", SensorConfig.singleJson s.lastRms)]

/-- A run's result as a document. -/
def SimulationResult.toJson (r : SimulationResult) : Json.Value :=
  .object [("frames_emitted", .nat r.framesEmitted), ("frames_dropped", .nat r.framesDropped),
    ("consumers", .array (r.consumers.map (·.toJson))), ("metrics", r.metrics.toJson),
    ("final_state", r.finalState.toJson), ("frame_rate", .string r.frameRate.name),
    ("rate_switches", .nat r.rateSwitches)]

/-- The status record as a document. -/
def StatusModel.toJson (m : StatusModel) : Json.Value :=
  .object [("status", .string m.status), ("frames_emitted", .nat m.framesEmitted),
    ("frames_dropped", .nat m.framesDropped),
    ("consumers", .array (m.consumers.map (·.toJson))), ("metrics", m.metrics.toJson),
    ("manager", match m.manager with
      | some st => st.toJson
      | none => .null),
    ("rate_switches", .nat m.rateSwitches)]

end RadarIngest
