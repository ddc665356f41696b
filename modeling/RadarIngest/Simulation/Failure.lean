import RadarIngest.Fault
import RadarIngest.Simulation.Config
import RadarIngest.Storage.Tree
import RadarIngest.Yaml.Document

/-!
**Failures with the steps they happened in.**

A simulation fails in one step of a larger task: subscribing the third consumer while running the
simulation, reading the configuration file.  A `RadarIngest.StepFailure` keeps the root cause
together with the steps around it, outermost first, and has two texts: one line with the steps
and the cause joined by `: `, and the longer report the command line prints, with the outermost
step first and each step below it on a line of its own.

Main definitions:

* `RadarIngest.Cause`, `RadarIngest.StepFailure`;
* `RadarIngest.StepFailure.text`, `RadarIngest.StepFailure.report`;
* `RadarIngest.SimulationConfig.ofFile` — a configuration file, read or not.
-/

set_option autoImplicit false

namespace RadarIngest

/-- The root cause of a failed step. -/
inductive Cause where
  /-- The staging manager refused. -/
  | manager (e : ManagerError)
  /-- A file could not be read or written. -/
  | io (e : Storage.IoError)
  /-- A configuration text is not valid. -/
  | yaml (e : Yaml.Failure)
  /-- A failure described by its text alone. -/
  | note (text : String)

/-- The text of a root cause. -/
def Cause.message : Cause → String
  | .manager e => e.message
  | .io e => e.message
  | .yaml e => e.message
  | .note text => text

/-- A failure: the steps it happened in, outermost first, and its root cause. -/
structure StepFailure where
  steps : List String := []
  cause : Cause

namespace StepFailure

/-- A failure of a single step with no steps around it. -/
def ofCause (cause : Cause) : StepFailure := { cause }

/-- The same failure seen from a step around it. -/
def within (step : String) (e : StepFailure) : StepFailure := { e with steps := step :: e.steps }

/-- The steps and the root cause, outermost first. -/
def chain (e : StepFailure) : List String := e.steps ++ [e.cause.message]

/-- The one-line text: the steps and the cause joined by `: `. -/
def text (e : StepFailure) : String := ": ".intercalate e.chain

/-- A number right-aligned in five columns. -/
def padNumber (n : Nat) : String :=
  let s := toString n
  String.ofList (List.replicate (5 - s.length) ' ') ++ s

/-- One entry of the list of causes: indented, numbered when there are several, and with its
later lines indented to the same column. -/
def causeLines (number : Option Nat) (text : String) : String :=
  let lead := match number with
    | some n => padNumber n ++ ": "
    | none => "    "
  let continued := match number with
    | some _ => "       "
    | none => "    "
  lead ++ ("\n" ++ continued).intercalate (text.splitOn "\n")

/-- The report: the outermost step, then, after a blank line, `Caused by:` and every inner step
and the cause on lines of their own. -/
def report (e : StepFailure) : String :=
  match e.chain with
  | [] => ""
  | [only] => only
  | top :: causes =>
    let several := causes.length > 1
    let entries := causes.zipIdx.map fun (c, n) =>
      "\n" ++ causeLines (if several then some n else none) c
    top ++ "\n\nCaused by:" ++ String.join entries

end StepFailure

/-- The configuration in a file, from the outcome of reading it: a failed read is reported in
the step `reading simulation config PATH`, a text that is not a configuration in the step
`parsing simulation config PATH`. -/
def SimulationConfig.ofFile (path : String) (contents : Except Storage.IoError String) :
    Except StepFailure SimulationConfig :=
  match contents with
  | .error e => .error ((StepFailure.ofCause (.io e)).within ("reading simulation config " ++ path))
  | .ok text =>
    match SimulationConfig.ofYaml text with
    | .ok c => .ok c
    | .error e =>
      .error ((StepFailure.ofCause (.yaml e)).within ("parsing simulation config " ++ path))

end RadarIngest
