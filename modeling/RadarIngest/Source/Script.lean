import RadarIngest.Manager.Producer

/-!
**A scripted producer.**

A script holds a queue of byte chunks and two one-shot settings: a failure to report and a
count to over-report.  Each read records the size of the region offered, then, in this order,
reports the pending failure, or over-reports the pending count without writing, or writes as much
of the next chunk as fits (dropping the rest of the chunk); an empty queue writes nothing.

Main definitions:

* `RadarIngest.Script`, `RadarIngest.Script.feed`, `RadarIngest.Script.read`.
-/

set_option autoImplicit false

namespace RadarIngest

/-- The state of a scripted producer. -/
structure Script where
  queue : List (List UInt8) := []
  overreport : Option Nat := none
  failure : Option String := none
  reads : Nat := 0
  /-- The sizes of the regions offered, oldest first. -/
  requests : List Nat := []
  deriving DecidableEq, Repr

namespace Script

/-- The text a failure reports when none is given. -/
def defaultFailure : String := "fifo underrun"

/-- Queues a chunk. -/
def feed (s : Script) (chunk : List UInt8) : Script := { s with queue := s.queue ++ [chunk] }

/-- Answers one read of a region. -/
def read (s : Script) (region : List UInt8) : Script × Yield :=
  let s := { s with reads := s.reads + 1, requests := s.requests ++ [region.length] }
  match s.failure, s.overreport with
  | some message, _ => ({ s with failure := none }, ⟨region, .error (.producer message)⟩)
  | none, some n => ({ s with overreport := none }, ⟨region, .ok n⟩)
  | none, none =>
    match s.queue with
    | [] => (s, ⟨region, .ok 0⟩)
    | chunk :: rest =>
      let n := min chunk.length region.length
      ({ s with queue := rest }, ⟨chunk.take n ++ region.drop n, .ok n⟩)

instance : Producer Script := ⟨fun s region => .ok (s.read region)⟩

end Script

end RadarIngest
