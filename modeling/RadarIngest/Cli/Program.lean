import RadarIngest.Cli.Args
import RadarIngest.Simulation.Status

/-!
**The simulator's command line.**

`rdmsim` reads its options, takes the configuration from a file or from the options, runs the
simulation, prints a summary, and on request appends a one-line report to a file.  What it
prints and how it ends is an `RadarIngest.Cli.Exit`: the exit code and the texts written to
standard output and standard error.

The program touches the file system only to read the configuration and to append the report.
Those three operations are a `RadarIngest.Cli.Disk` over any monad, so the same program runs on
the real file system or on a `RadarIngest.Storage.Tree`.

Exit codes: `0` for success, help and version; `2` for a usage error; `1` for a failure, reported
on standard error as `Error: ` followed by the failure's report; `101` for a computation that
stops.

Main definitions:

* `RadarIngest.Cli.Disk`, `RadarIngest.Cli.Exit`;
* `RadarIngest.Cli.runWith` — the program over a file system;
* `RadarIngest.Cli.runOnTree` — the program over a directory tree, with the tree afterwards.
-/

set_option autoImplicit false

namespace RadarIngest

namespace Cli

/-- How a run of the program ended. -/
structure Exit where
  code : Nat
  stdout : String := ""
  stderr : String := ""
  deriving Repr

/-- The file operations the program uses. -/
structure Disk (m : Type → Type) where
  read : String → m (Except Storage.IoError String)
  createDirAll : String → m (Except Storage.IoError Unit)
  append : String → String → m (Except Storage.IoError Unit)

/-- The debugging name of a frame rate. -/
def rateName : FrameRate → String
  | .low => "Low"
  | .high => "High"

/-- The summary line printed after a run. -/
def summaryLine (r : SimulationResult) : String :=
  "Simulation -> emitted " ++ toString r.framesEmitted ++ ", dropped " ++
    toString r.framesDropped ++ ", compactions " ++ toString r.metrics.compactions ++
    ", anomalies " ++ toString r.metrics.anomalies ++ ", frame rate " ++ rateName r.frameRate ++
    " (" ++ toString r.rateSwitches ++ " switches)\n"

/-- The line appended to the report file. -/
def reportLine (c : SimulationConfig) (r : SimulationResult) : String :=
  "frames=" ++ toString c.frames ++ " emitted=" ++ toString r.framesEmitted ++
    " dropped=" ++ toString r.framesDropped ++
    " windows=" ++ debugList (r.consumers.map (·.windows)) ++
    " compactions=" ++ toString r.metrics.compactions ++
    " wakes=" ++ toString (r.metrics.interruptWakes + r.metrics.taskWakes) ++ "\n"

/-- The text printed for a failure. -/
def failureText (e : StepFailure) : String := "Error: " ++ e.report ++ "\n"

/-- The text printed when the main thread stops. -/
def panicText (p : Panic) : String :=
  "thread 'main' panicked:\n" ++ p.message ++
    "\nnote: run with `RUST_BACKTRACE=1` environment variable to display a backtrace\n"

/-- The configuration the options ask for: a file's, or the defaults with the options' frame
count, consumer count, seed and mode. -/
def configOf {m : Type → Type} [Monad m] (disk : Disk m) (o : Options) :
    m (Except StepFailure SimulationConfig) :=
  match o.config with
  | some path => do pure (SimulationConfig.ofFile path (← disk.read path))
  | none => pure (.ok (SimulationConfig.fromArgs o.frames o.consumers o.seed o.mode))

/-- Appends the report line, creating the file's directory first. -/
def appendReport {m : Type → Type} [Monad m] (disk : Disk m) (path line : String) :
    m (Except StepFailure Unit) := do
  let made ← match Storage.parent? path with
    | some dir => disk.createDirAll dir
    | none => pure (.ok ())
  match made with
  | .error e => pure (.error (StepFailure.ofCause (.io e)))
  | .ok () =>
    match ← disk.append path line with
    | .error e => pure (.error ((StepFailure.ofCause (.io e)).within ("opening report " ++ path)))
    | .ok () => pure (.ok ())

/-- Runs the program with its arguments over a file system. -/
def runWith {m : Type → Type} [Monad m] (disk : Disk m) (args : List String) : m Exit := do
  match parse args with
  | .help => pure { code := 0, stdout := helpText }
  | .version => pure { code := 0, stdout := versionText }
  | .usage message => pure { code := 2, stderr := message }
  | .run o =>
    match ← configOf disk o with
    | .error e => pure { code := 1, stderr := failureText e }
    | .ok c =>
      let bridge : StatusBridge := {}
      let (bridge, started) := bridge.publishStatus
        ("running " ++ toString c.frames ++ " frames through " ++ toString c.consumers ++
          " consumer(s)")
      match Simulation.execute c with
      | .error (.failed e) =>
        pure { code := 1, stdout := started, stderr := failureText (e.within "running simulation") }
      | .error (.panicked p) => pure { code := 101, stdout := started, stderr := panicText p }
      | .ok r =>
        let (bridge, published) := bridge.publish (StatusModel.ofResult r)
        let out := started ++ summaryLine r ++ published
        let reported ← match o.report with
          | some path => appendReport disk path (reportLine c r)
          | none => pure (.ok ())
        match reported with
        | .error e => pure { code := 1, stdout := out, stderr := failureText e }
        | .ok () =>
          let closing := if o.serve then
              (bridge.publishStatus "status bridge running (Ctrl+C to stop)...").2
            else ""
          pure { code := 0, stdout := out ++ closing }

/-- The file operations on a directory tree. -/
def treeDisk : Disk (StateM Storage.Tree) where
  read path := do pure ((← get).read path)
  createDirAll path := do
    match (← get).createDirAll path with
    | .ok t => set t; pure (.ok ())
    | .error e => pure (.error e)
  append path text := do
    match (← get).append path text with
    | .ok t => set t; pure (.ok ())
    | .error e => pure (.error e)

/-- Runs the program over a directory tree; the tree afterwards holds the appended report. -/
def runOnTree (tree : Storage.Tree) (args : List String) : Exit × Storage.Tree :=
  (runWith treeDisk args).run tree

end Cli

end RadarIngest
