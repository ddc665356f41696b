import RadarIngest.Bench.Source
import RadarIngest.Manager.Run

/-!
**A bench that drives a manager by commands.**

A session holds a manager fed by a `RadarIngest.Source`, and the objects a driver of the
manager names by label: consumer handles, supplies and threads.  It also holds what the
consumers observe: the permit of each task consumer (a wake stores at most one, taking it
consumes it) and, for callback consumers, the deliveries of each run.

Thread `0` is the session's own thread; other threads are numbered from one in the order their
labels are first used.

Main definitions:

* `RadarIngest.Bench.Command`, `RadarIngest.Bench.Outcome`, `RadarIngest.Bench.Misuse`;
* `RadarIngest.Bench.Session`, `RadarIngest.Bench.Session.step`.
-/

set_option autoImplicit false

namespace RadarIngest

namespace Bench

/-- A window handed to a callback consumer during a run. -/
structure Delivery where
  label : String
  context : WakeContext
  window : List UInt8

/-- A command to the bench. -/
inductive Command where
  | init (size fill : Nat)
  | deinit
  /-- Chooses the supply under a label, first creating it when a supply is given. -/
  | setAllocator (label : String) (supply : Option Supply)
  /-- Reports the supply under a label. -/
  | supplyState (label : String)
  /-- Creates a consumer handle under a label without subscribing it. -/
  | handle (name label : String) (kind : ConsumerKind)
  /-- Subscribes the handle under a label. -/
  | subscribe (label : String)
  /-- Creates a handle and subscribes it. -/
  | subscribeNew (name label : String) (kind : ConsumerKind)
  | unsubscribe (id : Nat)
  /-- A producer run in a context from a thread label (`none` is the bench's own thread). -/
  | run (context : WakeContext) (thread : Option String)
  | read (id : Nat)
  | ack (id : Nat)
  | isAcknowledged (id : Nat)
  | subscriberName (id : Nat)
  | subscribers
  | isInitialized
  | fillLevel
  | setFillLevel (fill : Nat)
  /-- Takes the permit of the task consumer under a label, if it holds one. -/
  | takeNotification (label : String)
  | describeHandle (label : String)
  | staged
  | metrics
  | producer
  | feed (chunk : List UInt8)
  | overreport (count : Nat)
  | fail (message : String)

/-- What a run did, with the deliveries to callback consumers. -/
structure RunOutcome where
  report : RunReport
  deliveries : List Delivery

/-- What the producer reports about itself. -/
inductive ProducerView where
  | script (s : Script)
  | sensor (emitted dropped frameBytes : Nat)

/-- The result of a command. -/
inductive Outcome where
  | none
  | nat (n : Nat)
  | bool (b : Bool)
  | text (s : String)
  | name (s : Option String)
  | bytes (b : List UInt8)
  | run (r : RunOutcome)
  | supply (s : Supply)
  | counters (c : Counters)
  | producer (p : ProducerView)

/-- A command the bench cannot carry out, as opposed to one the manager refuses. -/
inductive Misuse where
  | unknownHandle
  | notTask
  | notScript
  | unknownSupply

/-- Why a command failed. -/
inductive Failure where
  | refused (e : ManagerError)
  | stopped (p : Panic)
  | misuse (m : Misuse)

/-- A bench session. -/
structure Session where
  manager : Manager Source
  /-- Consumer handles by label, latest first. -/
  handles : List (String × Consumer) := []
  /-- The label each consumer was created under, by identity. -/
  labels : List (Nat × String) := []
  /-- The identities of task consumers holding a permit. -/
  permits : List Nat := []
  nextKey : Nat := 0
  /-- Supplies of the manager by label. -/
  supplies : List (String × Nat) := []
  /-- Thread labels in order of first use. -/
  threads : List String := []

namespace Session

/-- The handle under a label. -/
def handle? (s : Session) (label : String) : Option Consumer :=
  (s.handles.find? (·.1 == label)).map (·.2)

/-- Creates a consumer under a label, replacing any handle of that label. -/
def newHandle (s : Session) (name label : String) (kind : ConsumerKind) : Session × Consumer :=
  let c : Consumer := ⟨name, s.nextKey, kind⟩
  ({ s with
      handles := (label, c) :: s.handles.filter (·.1 != label)
      labels := (c.key, label) :: s.labels
      nextKey := s.nextKey + 1 }, c)

/-- The number of a thread label, numbering new labels as they come. -/
def threadId (s : Session) : Option String → Session × Nat
  | none => (s, 0)
  | some "main" => (s, 0)
  | some label =>
    match s.threads.findIdx? (· == label) with
    | some i => (s, i + 1)
    | none => ({ s with threads := s.threads ++ [label] }, s.threads.length + 1)

/-- The label a consumer was created under. -/
def labelOf (s : Session) (c : Consumer) : String :=
  ((s.labels.find? (·.1 == c.key)).map (·.2)).getD c.name

/-- Records the wakes of a run: a permit for each task consumer, a delivery for each callback. -/
def observe (s : Session) (context : WakeContext) (report : RunReport) : Session × List Delivery :=
  report.woken.foldl (fun (s, ds) c =>
    match c.kind with
    | .task => ({ s with permits := if s.permits.contains c.key then s.permits else c.key :: s.permits }, ds)
    | .callback => (s, ds ++ [⟨s.labelOf c, context, report.window⟩])) (s, [])

/-- Applies a change to the scripted producer. -/
def withScript (s : Session) (f : Script → Script) : Except Failure Session :=
  match s.manager.producer with
  | .script p => .ok { s with manager := { s.manager with producer := .script (f p) } }
  | .sensor _ => .error (.misuse .notScript)

/-- What the producer reports; a sensor whose frame size overflows stops. -/
def producerView (s : Session) : Except Failure ProducerView :=
  match s.manager.producer with
  | .script p => .ok (.script p)
  | .sensor p =>
    match p.config.geometry.frameBytes with
    | .ok n => .ok (.sensor p.emitted p.dropped n)
    | .error e => .error (.stopped e)

/-- Lifts a manager result that leaves the manager unchanged on failure. -/
def refuse {α : Type} : Except ManagerError α → Except Failure α
  | .ok a => .ok a
  | .error e => .error (.refused e)

/-- Carries out one command: the session after it and its result.  A failed command leaves the
session as the manager left it. -/
def step (s : Session) : Command → Session × Except Failure Outcome
  | .init size fill =>
    let (m, r) := s.manager.init size fill
    ({ s with manager := m }, (refuse r).map fun _ => .none)
  | .deinit =>
    match s.manager.deinit with
    | .ok m => ({ s with manager := m }, .ok .none)
    | .error e => (s, .error (.refused e))
  | .setAllocator label supply =>
    match supply with
    | some sup =>
      let (m, i) := s.manager.addSupply sup
      ({ s with
          manager := m.setAllocator i
          supplies := (label, i) :: s.supplies.filter (·.1 != label) }, .ok .none)
    | none =>
      match s.supplies.find? (·.1 == label) with
      | some (_, i) => ({ s with manager := s.manager.setAllocator i }, .ok .none)
      | none => (s, .error (.misuse .unknownSupply))
  | .supplyState label =>
    match s.supplies.find? (·.1 == label) with
    | some (_, i) => (s, .ok (.supply (s.manager.supply i)))
    | none => (s, .error (.misuse .unknownSupply))
  | .handle name label kind => ((s.newHandle name label kind).1, .ok .none)
  | .subscribe label =>
    match s.handle? label with
    | none => (s, .error (.misuse .unknownHandle))
    | some c =>
      match s.manager.subscribe c with
      | .ok (m, id) => ({ s with manager := m }, .ok (.nat id))
      | .error e => (s, .error (.refused e))
  | .subscribeNew name label kind =>
    let (s, c) := s.newHandle name label kind
    match s.manager.subscribe c with
    | .ok (m, id) => ({ s with manager := m }, .ok (.nat id))
    | .error e => (s, .error (.refused e))
  | .unsubscribe id => ({ s with manager := s.manager.unsubscribe id }, .ok .none)
  | .run context thread =>
    let (s, t) := s.threadId thread
    let (m, r) := s.manager.run context t
    let s := { s with manager := m }
    match r with
    | .ok report =>
      let (s, ds) := s.observe context report
      (s, .ok (.run ⟨report, ds⟩))
    | .error (.refused e) => (s, .error (.refused e))
    | .error (.stopped p) => (s, .error (.stopped p))
  | .read id => (s, (refuse (s.manager.readWindow id)).map .bytes)
  | .ack id =>
    match s.manager.ack id with
    | .ok m => ({ s with manager := m }, .ok .none)
    | .error e => (s, .error (.refused e))
  | .isAcknowledged id => (s, .ok (.bool (s.manager.registry.isAcknowledged id)))
  | .subscriberName id => (s, .ok (.name (s.manager.registry.name? id)))
  | .subscribers => (s, .ok (.nat s.manager.registry.active))
  | .isInitialized => (s, .ok (.bool s.manager.isInitialized))
  | .fillLevel => (s, .ok (.nat s.manager.fillLevel))
  | .setFillLevel fill =>
    match s.manager.setFillLevel fill with
    | .ok m => ({ s with manager := m }, .ok .none)
    | .error e => (s, .error (.refused e))
  | .takeNotification label =>
    match s.handle? label with
    | none => (s, .error (.misuse .unknownHandle))
    | some c =>
      if c.kind != .task then (s, .error (.misuse .notTask))
      else ({ s with permits := s.permits.filter (· != c.key) }, .ok (.bool (s.permits.contains c.key)))
  | .describeHandle label =>
    match s.handle? label with
    | none => (s, .error (.misuse .unknownHandle))
    | some c => (s, .ok (.text c.describe))
  | .staged => (s, .ok (.bytes s.manager.staged))
  | .metrics => (s, .ok (.counters s.manager.metrics.snapshot))
  | .producer => (s, s.producerView.map .producer)
  | .feed chunk =>
    match s.withScript (·.feed chunk) with
    | .ok s => (s, .ok .none)
    | .error e => (s, .error e)
  | .overreport n =>
    match s.withScript fun p => { p with overreport := some n } with
    | .ok s => (s, .ok .none)
    | .error e => (s, .error e)
  | .fail message =>
    match s.withScript fun p => { p with failure := some message } with
    | .ok s => (s, .ok .none)
    | .error e => (s, .error e)

end Session

end Bench

end RadarIngest
