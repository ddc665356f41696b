import RadarIngest.Simulation.Runner

/-!
**The status of a simulation.**

The simulator keeps a status record that a monitoring endpoint would serve: a status word, and
after a run the run's counts, its consumers, counters and the manager's final state.  Every
status message and every published result is also printed as one line prefixed with `[RDM]`.

Main definitions:

* `RadarIngest.StatusModel`, `RadarIngest.StatusModel.ofResult`;
* `RadarIngest.StatusBridge.publishStatus`, `RadarIngest.StatusBridge.publish` — the new status
  and the line printed;
* `RadarIngest.bindAddress`.
-/

set_option autoImplicit false

namespace RadarIngest

/-- The status record. -/
structure StatusModel where
  status : String
  framesEmitted : Nat := 0
  framesDropped : Nat := 0
  consumers : List ConsumerSummary := []
  metrics : Counters := {}
  manager : Option ManagerState := none
  rateSwitches : Nat := 0

/-- The status of a finished run. -/
def StatusModel.ofResult (r : SimulationResult) : StatusModel :=
  { status := "complete", framesEmitted := r.framesEmitted, framesDropped := r.framesDropped,
    consumers := r.consumers, metrics := r.metrics, manager := some r.finalState,
    rateSwitches := r.rateSwitches }

/-- A list of numbers in debugging form: `[1, 2]`. -/
def debugList (xs : List Nat) : String := "[" ++ ", ".intercalate (xs.map toString) ++ "]"

/-- Holds the latest status. -/
structure StatusBridge where
  model : StatusModel := { status := "starting" }

namespace StatusBridge

/-- Sets the status word; the line printed is the message itself. -/
def publishStatus (b : StatusBridge) (message : String) : StatusBridge × String :=
  ({ model := { b.model with status := message } }, "[RDM] " ++ message ++ "\n")

/-- Replaces the status; the line printed gives the windows per consumer, the compactions and
the dropped frames. -/
def publish (_ : StatusBridge) (m : StatusModel) : StatusBridge × String :=
  ({ model := m }, "[RDM] windows consumed: " ++ debugList (m.consumers.map (·.windows)) ++
    ", compactions: " ++ toString m.metrics.compactions ++
    ", dropped frames: " ++ toString m.framesDropped ++ "\n")

end StatusBridge

/-- The local address the status endpoint listens on. -/
def bindAddress (port : Nat) : String := "127.0.0.1:" ++ toString port

end RadarIngest
