import RadarIngest.Presence.RateSwitch

/-!
**Reading the command line.**

The simulator's command line has eight options and the usual `--help` and `--version`:

```
--config <CONFIG>  --frames <FRAMES>  --consumers <CONSUMERS>  --seed <SEED>
--mode <MODE>  --serve  --port <PORT>  --report <REPORT>  -h, --help  -V, --version
```

Arguments are read left to right.  An option that takes a value takes the next argument, or the
text after `=` in `--name=value`; the value is checked when the next option is met or the
arguments end, so a later unknown argument is reported before a bad value.  An argument that
starts with `-` is never taken as a value.  Giving an option twice, an unknown option, or any
argument that is not an option is a usage error; an unknown long option is answered with the
most similar known one when one is similar enough (Jaro similarity above `0.7`).  Help and
version are answered as soon as they are met.

Main definitions:

* `RadarIngest.Cli.Options` — the values read, with their defaults;
* `RadarIngest.Cli.Outcome` — run, help, version, or a usage error with its text;
* `RadarIngest.Cli.parse`;
* `RadarIngest.Cli.helpText`, `RadarIngest.Cli.versionText`.
-/

set_option autoImplicit false

namespace RadarIngest

namespace Cli

/-- The values of the command line. -/
structure Options where
  config : Option String := none
  frames : Nat := 64
  consumers : Nat := 2
  seed : Nat := 0
  mode : PresenceMode := .microIfMacro
  serve : Bool := false
  port : Nat := 9000
  report : Option String := none
  deriving Repr

/-- An option of the command line. -/
inductive Flag where
  | config
  | frames
  | consumers
  | seed
  | mode
  | serve
  | port
  | report
  | help
  | version
  deriving DecidableEq, Repr

namespace Flag

/-- Every option, in the order they are declared. -/
def all : List Flag := [config, frames, consumers, seed, mode, serve, port, report, help, version]

/-- The long name, without the dashes. -/
def long : Flag → String
  | config => "config"
  | frames => "frames"
  | consumers => "consumers"
  | seed => "seed"
  | mode => "mode"
  | serve => "serve"
  | port => "port"
  | report => "report"
  | help => "help"
  | version => "version"

/-- The name of the value an option takes, none for a switch. -/
def valueName? : Flag → Option String
  | config => some "CONFIG"
  | frames => some "FRAMES"
  | consumers => some "CONSUMERS"
  | seed => some "SEED"
  | mode => some "MODE"
  | port => some "PORT"
  | report => some "REPORT"
  | serve | help | version => none

/-- The option as messages show it: `--frames <FRAMES>`, or `--serve`. -/
def display (f : Flag) : String :=
  match f.valueName? with
  | some v => "--" ++ f.long ++ " <" ++ v ++ ">"
  | none => "--" ++ f.long

/-- The option with a long name. -/
def ofLong? (name : String) : Option Flag := all.find? (·.long == name)

/-- The option with a short name. -/
def ofShort? : Char → Option Flag
  | 'h' => some help
  | 'V' => some version
  | _ => none

end Flag

/-- The names of the modes on the command line. -/
def modeNames : List String := ["macro-only", "micro-only", "micro-if-macro", "micro-and-macro"]

/-- The mode a command-line name stands for. -/
def modeOf? (name : String) : Option PresenceMode :=
  match modeNames.idxOf? name with
  | some 0 => some .macroOnly
  | some 1 => some .microOnly
  | some 2 => some .microIfMacro
  | some 3 => some .microAndMacro
  | _ => none

/-! ### Similar names -/

/-- For each character of `a`, whether it matches a character of `b` not matched yet within the
search window around its position; and the matched positions of `b`. -/
def jaroFlags (a b : List Char) : List Bool × List Bool :=
  let range := max a.length b.length / 2 - 1
  a.zipIdx.foldl (fun (fa, fb) (c, i) =>
    let lo := i - range
    let hi := min b.length (i + range + 1)
    match (List.range hi).find? (fun j => lo ≤ j && b[j]? == some c && !(fb.getD j false)) with
    | some j => (fa ++ [true], fb.set j true)
    | none => (fa ++ [false], fb)) ([], List.replicate b.length false)

/-- The Jaro similarity of two words, `(m / |a| + m / |b| + (m - t) / m) / 3` for `m` matches
and `t` half-transpositions, computed in binary64 arithmetic, one rounding per operation. -/
def jaro (a b : String) : Float :=
  let xs := a.toList
  let ys := b.toList
  if xs.isEmpty && ys.isEmpty then 1
  else if xs.isEmpty || ys.isEmpty then 0
  else
    let (fa, fb) := jaroFlags xs ys
    let ma := (xs.zip fa).filterMap fun (c, f) => if f then some c else none
    let mb := (ys.zip fb).filterMap fun (c, f) => if f then some c else none
    let m := ma.length
    if m = 0 then 0
    else
      let t := ((ma.zip mb).filter fun (x, y) => x != y).length / 2
      (m.toFloat / xs.length.toFloat + m.toFloat / ys.length.toFloat +
        (m - t).toFloat / m.toFloat) / 3

/-- The binary64 value nearest to `0.7`. -/
def confidence : Float := Float.ofBits 0x3FE6666666666666

/-- Whether a similarity is above the confidence `0.7`.  The comparison is in binary64, so a
similarity of exactly seven tenths that rounds above the nearest binary64 value of `0.7` counts. -/
def confident (s : Float) : Bool := s > confidence

/-- The candidate most similar to a word, if any is similar enough; of equally similar ones the
last. -/
def mostSimilar? (word : String) (candidates : List String) : Option String :=
  (candidates.foldl (fun best c =>
    let s := jaro word c
    if !confident s then best
    else match best with
      | some (_, r) => if s ≥ r then some (c, s) else best
      | none => some (c, s)) none).map (·.1)

/-! ### Values -/

/-- The value of decimal digits, checked in order: an invalid digit or an overflow past
`upper`, whichever comes first. -/
def digitsValue (upper : Nat) (cs : List Char) : Except String Nat :=
  cs.foldlM (fun acc c =>
    if '0' ≤ c && c ≤ '9' then
      let v := acc * 10 + (c.toNat - 48)
      if v > upper then .error "number too large to fit in target type" else .ok v
    else .error "invalid digit found in string") 0

/-- An unsigned number of at most `upper`, with an optional leading plus. -/
def unsignedValue (upper : Nat) (s : String) : Except String Nat :=
  match s.toList with
  | [] => .error "cannot parse integer from empty string"
  | ['+'] | ['-'] => .error "invalid digit found in string"
  | '+' :: rest => digitsValue upper rest
  | cs => digitsValue upper cs

/-- A signed 64-bit number with an optional sign. -/
def signedValue (s : String) : Except String Int :=
  match s.toList with
  | '-' :: rest@(_ :: _) =>
    match digitsValue (Nat.pow 2 63) rest with
    | .ok v => .ok (-(v : Int))
    | .error e =>
      .error (if e == "number too large to fit in target type" then
        "number too small to fit in target type" else e)
  | _ => (unsignedValue (Nat.pow 2 63 - 1) s).map Int.ofNat

/-- The trailer every usage error ends with. -/
def tryHelp : String := "\n\nFor more information, try '--help'.\n"

/-- The usage line, listing the options already used, or `[OPTIONS]` when none are. -/
def usageLine (used : List Flag) : String :=
  "Usage: rdmsim " ++ (if used.isEmpty then "[OPTIONS]" else " ".intercalate (used.map (·.display)))

/-- A value the option does not accept: with the reason the value could not be read, or, for a
missing value or one outside a list of names, with the names and the most similar of them. -/
def invalidValue (f : Flag) (value : String) (reason : Option String) : String :=
  match reason with
  | some r =>
    "error: invalid value '" ++ value ++ "' for '" ++ f.display ++ "': " ++ r ++ tryHelp
  | none =>
    let head := if value.isEmpty then
        "error: a value is required for '" ++ f.display ++ "' but none was supplied"
      else "error: invalid value '" ++ value ++ "' for '" ++ f.display ++ "'"
    let values := if f == .mode then "\n  [possible values: " ++ ", ".intercalate modeNames ++ "]"
      else ""
    let tip := if f == .mode then
        match mostSimilar? value modeNames with
        | some v => "\n\n  tip: a similar value exists: '" ++ v ++ "'"
        | none => ""
      else ""
    head ++ values ++ tip ++ tryHelp

/-- An argument that is not an option, with the option suggested for it if any. -/
def unexpectedArgument (arg : String) (suggestion : Option Flag) (used : List Flag) : String :=
  "error: unexpected argument '" ++ arg ++ "' found" ++
    (match suggestion with
      | some f => "\n\n  tip: a similar argument exists: '--" ++ f.long ++ "'"
      | none => "") ++
    "\n\n" ++ usageLine used ++ tryHelp

/-- An option given twice. -/
def usedTwice (f : Flag) : String :=
  "error: the argument '" ++ f.display ++ "' cannot be used multiple times\n\n" ++ usageLine [] ++
    tryHelp

/-- The options of the program's own settings, which the usage line of a switch given a value
names together as one group once any of them is used. -/
def Flag.grouped : Flag → Bool
  | .help | .version => false
  | _ => true

/-- The group of the program's settings, as the usage line writes it. -/
def groupText : String :=
  "<" ++ "|".intercalate ((Flag.all.filter (·.grouped)).map (·.display)) ++ ">"

/-- A value given to a switch with `=`, after the options `used` were recorded: the usage line
names the switch and, once one of the settings was used, the group of all of them instead of
each. -/
def unneededValue (f : Flag) (value : String) (used : List Flag) : String :=
  let named := if used.contains f then used else used ++ [f]
  let line := if used.any (·.grouped) then
      "Usage: rdmsim " ++ " ".intercalate ((named.filter (!·.grouped)).map (·.display) ++ [groupText])
    else usageLine named
  "error: unexpected value '" ++ value ++ "' for '" ++ f.display ++
    "' found; no more were expected\n\n" ++ line ++ tryHelp

/-- Stores the value of an option, or the usage error for a value it does not accept. -/
def setValue (o : Options) (f : Flag) (value : String) : Except String Options :=
  let checked {α : Type} (r : Except String α) (k : α → Options) : Except String Options :=
    match r with
    | .ok v => .ok (k v)
    | .error reason => .error (invalidValue f value (some reason))
  match f with
  | .config => if value.isEmpty then .error (invalidValue f value none)
    else .ok { o with config := some value }
  | .report => if value.isEmpty then .error (invalidValue f value none)
    else .ok { o with report := some value }
  | .frames => checked (unsignedValue (Nat.pow 2 64 - 1) value) fun v => { o with frames := v }
  | .consumers => checked (unsignedValue (Nat.pow 2 64 - 1) value) fun v => { o with consumers := v }
  | .seed => checked (unsignedValue (Nat.pow 2 64 - 1) value) fun v => { o with seed := v }
  | .mode =>
    match modeOf? value with
    | some m => .ok { o with mode := m }
    | none => .error (invalidValue f value none)
  | .port =>
    match signedValue value with
    | .error reason => .error (invalidValue f value (some reason))
    | .ok v =>
      if 0 ≤ v && v ≤ 65535 then .ok { o with port := v.toNat }
      else .error (invalidValue f (toString v) (some (toString v ++ " is not in 0..=65535")))
  | .serve | .help | .version => .ok o

/-! ### Reading the arguments -/

/-- What the command line asks for. -/
inductive Outcome where
  | run (o : Options)
  | help
  | version
  /-- A usage error, with the whole text printed for it. -/
  | usage (message : String)
  deriving Repr

/-- The state of the reader between two arguments. -/
structure Reader where
  options : Options := {}
  /-- The options recorded so far, in the order they were met. -/
  used : List Flag := []
  /-- The option whose value is not checked yet, with the value if it has one. -/
  pending : Option (Flag × Option String) := none
  /-- Whether the pending option still waits for its value. -/
  waiting : Bool := false
  /-- Whether `--` has been met. -/
  trailing : Bool := false

/-- The result of one argument: go on, or stop with an outcome. -/
abbrev Step := Except Outcome Reader

/-- Records an option with its values: an option that takes a value and has none is an error,
and so is a second use. -/
def Reader.record (r : Reader) (f : Flag) (value : Option String) : Step :=
  if f.valueName?.isSome && value.isNone then .error (.usage (invalidValue f "" none))
  else if r.used.contains f then .error (.usage (usedTwice f))
  else
    let r := { r with used := r.used ++ [f] }
    match f, value with
    | .help, _ => .error .help
    | .version, _ => .error .version
    | .serve, _ => .ok { r with options := { r.options with serve := true } }
    | f, some v =>
      match setValue r.options f v with
      | .ok o => .ok { r with options := o }
      | .error e => .error (.usage e)
    | _, none => .ok r

/-- Checks the pending option, if any. -/
def Reader.resolve (r : Reader) : Step :=
  match r.pending with
  | none => .ok r
  | some (f, v) => { r with pending := none, waiting := false }.record f v

/-- Checks the pending option before an unexpected argument is reported, which takes
precedence over what the check finds.  An option with a value is recorded even when the value is
refused, and a second use removes the first. -/
def Reader.settle (r : Reader) : Reader :=
  match r.pending with
  | none => r
  | some (_, none) => { r with pending := none, waiting := false }
  | some (f, some v) =>
    let r := { r with pending := none, waiting := false }
    if r.used.contains f then { r with used := r.used.erase f }
    else
      let r := { r with used := r.used ++ [f] }
      match setValue r.options f v with
      | .ok o => { r with options := o }
      | .error _ => r

/-- Meets an option: a switch, or an option with its value attached by `=`, is recorded at once;
an option without its value waits for it.  A value given to a switch is refused with the options
recorded so far, before the waiting one is checked. -/
def Reader.meet (r : Reader) (f : Flag) (attached : Option String) : Step := do
  if f.valueName?.isNone then
    match attached with
    | some v =>
      let used := if r.used.contains f then r.used else r.used ++ [f]
      .error (.usage (unneededValue f v used))
    | none => (← r.resolve).record f none
  else
    let r ← r.resolve
    match attached with
    | some v => r.record f (some v)
    | none => .ok { r with pending := some (f, none), waiting := true }

/-- An argument that is not an option and is not a value either. -/
def stray (arg : String) : Outcome := .usage (unexpectedArgument arg none [])

/-- Reads one argument. -/
def Reader.step (r : Reader) (arg : String) : Step :=
  if r.trailing then .error (stray arg)
  else if arg == "--" then .ok { r with trailing := true }
  else if arg.startsWith "--" then
    let body := (arg.drop 2).toString
    let (name, attached) := match body.splitOn "=" with
      | [n] => (n, none)
      | n :: rest => (n, some ("=".intercalate rest))
      | [] => (body, none)
    match Flag.ofLong? name with
    | some f => r.meet f attached
    | none =>
      let suggestion := (mostSimilar? name (Flag.all.map (·.long))).bind Flag.ofLong?
      let r := r.settle
      let used := match suggestion with
        | some f => if r.used.contains f then r.used else r.used ++ [f]
        | none => r.used
      .error (.usage (unexpectedArgument ("--" ++ name) suggestion used))
  else if arg.startsWith "-" && arg.length > 1 then
    match arg.toList.drop 1 with
    | c :: _ =>
      match Flag.ofShort? c with
      | some f => r.meet f none
      | none => .error (.usage (unexpectedArgument ("-" ++ String.singleton c) none []))
    | [] => .error (stray arg)
  else if r.waiting then
    match r.pending with
    | some (f, _) => .ok { r with pending := some (f, some arg), waiting := false }
    | none => .error (stray arg)
  else .error (stray arg)

/-- Reads the arguments after the program name. -/
def parse (args : List String) : Outcome :=
  match args.foldlM Reader.step {} with
  | .error o => o
  | .ok r =>
    match r.resolve with
    | .error o => o
    | .ok r => .run r.options

/-- The text printed for `--help`. -/
def helpText : String :=
  "Radar data manager simulator\n\nUsage: rdmsim [OPTIONS]\n\nOptions:\n" ++
  "      --config <CONFIG>        Load a simulation config from YAML\n" ++
  "      --frames <FRAMES>        [default: 64]\n" ++
  "      --consumers <CONSUMERS>  [default: 2]\n" ++
  "      --seed <SEED>            [default: 0]\n" ++
  "      --mode <MODE>            [default: micro-if-macro] [possible values: macro-only, " ++
  "micro-only, micro-if-macro, micro-and-macro]\n" ++
  "      --serve                  Keep the status endpoint alive after the run\n" ++
  "      --port <PORT>            [default: 9000]\n" ++
  "      --report <REPORT>        Append a one-line summary to this file\n" ++
  "  -h, --help                   Print help\n" ++
  "  -V, --version                Print version\n"

/-- The text printed for `--version`. -/
def versionText : String := "simulator 0.1.0\n"

end Cli

end RadarIngest
