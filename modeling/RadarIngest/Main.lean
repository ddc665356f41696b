import RadarIngest.Cli.Program

/-!
**The `rdmsim` executable.**

Runs the simulator's command line on the real file system and prints what it printed; the exit
code is the program's.  Failures of the operating system are mapped to
`RadarIngest.Storage.IoError` by their error numbers.
-/

set_option autoImplicit false

namespace RadarIngest

namespace Cli

/-- An error number as the runtime reports it, which may be negated. -/
def magnitude (code : UInt32) : Nat :=
  if code.toNat ≥ Nat.pow 2 31 then Nat.pow 2 32 - code.toNat else code.toNat

/-- The error number of a failure of the operating system; `2` when it has none. -/
def errorCode : IO.Error → Nat
  | .alreadyExists _ code _ | .otherError code _ | .resourceBusy code _
  | .resourceVanished code _ | .unsupportedOperation code _ | .hardwareFault code _
  | .unsatisfiedConstraints code _ | .illegalOperation code _ | .protocolError code _
  | .timeExpired code _ | .interrupted _ code _ | .noFileOrDirectory _ code _
  | .invalidArgument _ code _ | .permissionDenied _ code _ | .resourceExhausted _ code _
  | .inappropriateType _ code _ | .noSuchThing _ code _ => magnitude code
  | .unexpectedEof | .userError _ => 2

/-- Runs a file operation, keeping its failure as a value. -/
def attempt {α : Type} (action : IO α) : IO (Except Storage.IoError α) := do
  try
    pure (.ok (← action))
  catch e =>
    pure (.error (Storage.IoError.ofCode (errorCode e)))

/-- The file operations on the real file system. -/
def systemDisk : Disk IO where
  read path := attempt (IO.FS.readFile path)
  createDirAll path := if path.isEmpty then pure (.ok ()) else attempt (IO.FS.createDirAll path)
  append path text := attempt do
    let h ← IO.FS.Handle.mk path .append
    h.putStr text
    h.flush

end Cli

end RadarIngest

/-- Runs the command line with the arguments after the program name. -/
def main (args : List String) : IO UInt32 := do
  let exit ← RadarIngest.Cli.runWith RadarIngest.Cli.systemDisk args
  IO.print exit.stdout
  IO.eprint exit.stderr
  pure exit.code.toUInt32
