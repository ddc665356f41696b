import RadarIngest.Word
import RadarIngest.Subscriber.Consumer

/-!
**Run counters.**

A recorder keeps eight counters of 64-bit words.  An update that would take a counter past the
word range stops with a `RadarIngest.Panic` and *poisons* the recorder: from then on updates do
nothing and the counters read as zero.

Main definitions:

* `RadarIngest.Counters`, `RadarIngest.Recorder`, `RadarIngest.Recorder.snapshot`;
* `recordRun`, `recordWakes`, `recordCompaction`, `recordOverflowReset`, `recordAnomaly`,
  `recordProducerError`.
-/

set_option autoImplicit false

namespace RadarIngest

/-- The counters a recorder keeps. -/
structure Counters where
  runs : Nat := 0
  bytesIngested : Nat := 0
  interruptWakes : Nat := 0
  taskWakes : Nat := 0
  compactions : Nat := 0
  overflowResets : Nat := 0
  anomalies : Nat := 0
  producerErrors : Nat := 0
  deriving DecidableEq, Repr

/-- A recorder: working, with its counters, or poisoned by an overflow. -/
inductive Recorder where
  | live (counters : Counters)
  | poisoned
  deriving DecidableEq, Repr

namespace Recorder

/-- A working recorder with every counter at zero. -/
def fresh : Recorder := .live {}

/-- The counters as read: zero for a poisoned recorder. -/
def snapshot : Recorder → Counters
  | .live c => c
  | .poisoned => {}

/-- Applies an update; an update that stops poisons the recorder and reports the stop. -/
def update (r : Recorder) (f : Counters → Except Panic Counters) : Recorder × Option Panic :=
  match r with
  | .poisoned => (.poisoned, none)
  | .live c =>
    match f c with
    | .ok c' => (.live c', none)
    | .error p => (.poisoned, some p)

/-- One more run, which ingested `ingested` bytes. -/
def recordRun (r : Recorder) (ingested : Nat) : Recorder × Option Panic :=
  r.update fun c => do
    let runs ← Word.add c.runs 1
    let bytes ← Word.add c.bytesIngested ingested
    pure { c with runs := runs, bytesIngested := bytes }

/-- `count` more wakes from a context. -/
def recordWakes (r : Recorder) (context : WakeContext) (count : Nat) : Recorder × Option Panic :=
  r.update fun c =>
    match context with
    | .interrupt => do pure { c with interruptWakes := ← Word.add c.interruptWakes count }
    | .task => do pure { c with taskWakes := ← Word.add c.taskWakes count }

/-- One more compaction. -/
def recordCompaction (r : Recorder) : Recorder × Option Panic :=
  r.update fun c => do pure { c with compactions := ← Word.add c.compactions 1 }

/-- One more reset of an exhausted buffer. -/
def recordOverflowReset (r : Recorder) : Recorder × Option Panic :=
  r.update fun c => do pure { c with overflowResets := ← Word.add c.overflowResets 1 }

/-- One more producer that reported more bytes than it was offered. -/
def recordAnomaly (r : Recorder) : Recorder × Option Panic :=
  r.update fun c => do pure { c with anomalies := ← Word.add c.anomalies 1 }

/-- One more failed producer read. -/
def recordProducerError (r : Recorder) : Recorder × Option Panic :=
  r.update fun c => do pure { c with producerErrors := ← Word.add c.producerErrors 1 }

end Recorder

end RadarIngest
