import RadarIngest.Schema.FromJson

/-!
**A two-state frame-rate switch driven by presence.**

The sensor runs at a low or a high frame rate.  After each presence reading the switch picks the
rate for it according to a mode, and when the rate changes it counts a switch and asks for the
sensor to be reconfigured.  Only one mode depends on the rate already chosen: under
`PresenceMode.microIfMacro` a macro-presence reading toggles the rate, absence drops it to low
and micro-presence keeps it.  The other modes hold one fixed rate, the one they start at.

Main definitions:

* `RadarIngest.PresenceMode`, `RadarIngest.PresenceState`, `RadarIngest.FrameRate`;
* `RadarIngest.RateSwitch`, `RadarIngest.RateSwitch.observe`, `RadarIngest.RateSwitch.observeAll`.

Main results:

* `RadarIngest.RateSwitch.observe_fixed` — a fixed mode never switches;
* `RadarIngest.RateSwitch.observeAll_switches` — the switch count grows by one for each reading
  that changes the rate.
-/

set_option autoImplicit false

namespace RadarIngest

/-- Which presence readings the frame rate follows. -/
inductive PresenceMode where
  | macroOnly
  | microOnly
  | microIfMacro
  | microAndMacro
  deriving DecidableEq, Repr

/-- A presence reading. -/
inductive PresenceState where
  | absence
  | macroPresence
  | microPresence
  deriving DecidableEq, Repr

/-- The two frame rates of the sensor. -/
inductive FrameRate where
  | low
  | high
  deriving DecidableEq, Repr

/-- The other rate. -/
def FrameRate.other : FrameRate → FrameRate
  | .low => .high
  | .high => .low

@[simp] theorem FrameRate.other_other (r : FrameRate) : r.other.other = r := by
  cases r <;> rfl

theorem FrameRate.other_ne (r : FrameRate) : r.other ≠ r := by
  cases r <;> decide

namespace PresenceMode

/-- The rate a mode starts at. -/
def initial : PresenceMode → FrameRate
  | macroOnly | microIfMacro => .low
  | microOnly | microAndMacro => .high

/-- The rate a mode asks for after a reading, given the current rate. -/
def request : PresenceMode → FrameRate → PresenceState → FrameRate
  | microIfMacro, current, .macroPresence => current.other
  | microIfMacro, _, .absence => .low
  | microIfMacro, current, .microPresence => current
  | microOnly, _, _ | microAndMacro, _, _ => .high
  | macroOnly, _, _ => .low

/-- Whether the mode holds one rate whatever the readings. -/
def isFixed : PresenceMode → Bool
  | microIfMacro => false
  | _ => true

theorem request_fixed (m : PresenceMode) (h : m.isFixed = true) (r : FrameRate)
    (p : PresenceState) : m.request r p = m.initial := by
  cases m <;> simp_all [isFixed, request, initial]

/-- The names of the modes in documents. -/
def names : List String := ["macro_only", "micro_only", "micro_if_macro", "micro_and_macro"]

/-- The name of a mode in documents. -/
def name : PresenceMode → String
  | macroOnly => "macro_only"
  | microOnly => "micro_only"
  | microIfMacro => "micro_if_macro"
  | microAndMacro => "micro_and_macro"

/-- The mode of a name among `names`. -/
def ofName : String → PresenceMode
  | "macro_only" => macroOnly
  | "micro_only" => microOnly
  | "micro_and_macro" => microAndMacro
  | _ => microIfMacro

/-- A mode from a document: a variant name, or an object with one member naming it. -/
def ofJson (v : Json.Value) : Except DecodeError PresenceMode :=
  ofName <$> v.toVariant names

end PresenceMode

namespace PresenceState

/-- The names of the readings in documents. -/
def names : List String := ["absence", "macro_presence", "micro_presence"]

/-- The reading of a name among `names`. -/
def ofName : String → PresenceState
  | "absence" => absence
  | "macro_presence" => macroPresence
  | _ => microPresence

/-- A reading from a document. -/
def ofJson (v : Json.Value) : Except DecodeError PresenceState :=
  ofName <$> v.toVariant names

end PresenceState

/-- The name of a rate in documents. -/
def FrameRate.name : FrameRate → String
  | .low => "low"
  | .high => "high"

/-- The switch: its mode, the rate in force and how often it changed. -/
structure RateSwitch where
  mode : PresenceMode
  current : FrameRate
  switches : Nat

namespace RateSwitch

/-- A switch at its mode's starting rate. -/
def start (mode : PresenceMode) : RateSwitch := ⟨mode, mode.initial, 0⟩

/-- Takes a reading: the switch after it, and the rate to reconfigure the sensor to, if the rate
changed. -/
def observe (s : RateSwitch) (p : PresenceState) : RateSwitch × Option FrameRate :=
  if s.mode.request s.current p = s.current then (s, none)
  else ({ s with current := s.mode.request s.current p, switches := s.switches + 1 },
    some (s.mode.request s.current p))

/-- Takes readings in order: the switch after them and every reconfiguration asked for. -/
def observeAll (s : RateSwitch) : List PresenceState → RateSwitch × List FrameRate
  | [] => (s, [])
  | p :: ps =>
    let (s', r) := s.observe p
    let (s'', rs) := s'.observeAll ps
    (s'', r.toList ++ rs)

theorem observe_mode (s : RateSwitch) (p : PresenceState) : (s.observe p).1.mode = s.mode := by
  unfold observe
  split <;> rfl

/-- A switch in a fixed mode that is at its starting rate never changes. -/
theorem observe_fixed (s : RateSwitch) (h : s.mode.isFixed = true) (hs : s.current = s.mode.initial)
    (p : PresenceState) : s.observe p = (s, none) := by
  unfold observe
  rw [PresenceMode.request_fixed s.mode h, ← hs]
  simp

/-- Each reconfiguration is one switch. -/
theorem observeAll_switches (s : RateSwitch) (ps : List PresenceState) :
    (s.observeAll ps).1.switches = s.switches + (s.observeAll ps).2.length := by
  induction ps generalizing s with
  | nil => rfl
  | cons p ps ih =>
    simp only [observeAll]
    rw [ih]
    unfold observe
    split
    · simp only [Option.toList_none, List.nil_append]
    · -- a change of rate: one more switch and one more reconfiguration
      simp only [Option.toList_some, List.length_append, List.length_singleton]
      omega

end RateSwitch

end RadarIngest
