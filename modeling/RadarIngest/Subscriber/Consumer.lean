import RadarIngest.Schema.Message

/-!
**Consumers of staged windows.**

A consumer has a name and an identity: two consumers with the same name are different unless
they share the identity `key`.  It is woken in one of two ways.  A *task* consumer is signalled:
it keeps one permit and takes the window later.  A *callback* consumer handles the window during
the wake and thereby consumes it.

Main definitions:

* `RadarIngest.WakeContext` — whether a run comes from an interrupt or a task;
* `RadarIngest.Consumer`, `RadarIngest.Consumer.consumesOnWake`, `RadarIngest.Consumer.describe`.
-/

set_option autoImplicit false

namespace RadarIngest

/-- Where a producer run comes from. -/
inductive WakeContext where
  | interrupt
  | task
  deriving DecidableEq, Repr

/-- How a consumer is woken. -/
inductive ConsumerKind where
  /-- Signalled; takes the window later. -/
  | task
  /-- Handles the window during the wake, consuming it. -/
  | callback
  deriving DecidableEq, Repr

/-- A consumer: a name, an identity and a way of being woken. -/
structure Consumer where
  name : String
  key : Nat
  kind : ConsumerKind
  deriving DecidableEq, Repr

namespace Consumer

/-- Two consumers are the same when they share their identity. -/
def same (a b : Consumer) : Bool := a.key == b.key

/-- Whether a wake consumes the window: true for callbacks. -/
def consumesOnWake (c : Consumer) : Bool := c.kind == .callback

/-- The debugging text of a consumer: its name, quoted, and nothing else. -/
def describe (c : Consumer) : String :=
  "ConsumerHandle \x7b name: " ++ quoteDebug c.name ++ ", .. \x7d"

end Consumer

end RadarIngest
