import RadarIngest.Fault

/-!
**Where staging buffers come from.**

A supply hands out zeroed byte blocks and takes them back.  There are three kinds:

* the heap, which can supply any block smaller than `RadarIngest.heapLimit` bytes;
* a budgeted supply, which refuses a block larger than what is left of its budget and counts the
  bytes it has handed out; taking a block back subtracts its length, stopping at zero, whatever
  the block's origin;
* a fixed supply, which ignores the size asked for and always hands out a block of its own length
  and fill byte.

Every supply keeps an account of its traffic: blocks handed out, refusals, blocks taken back and
their bytes.

Main definitions:

* `RadarIngest.Supply`, `RadarIngest.Supply.allocate`, `RadarIngest.Supply.release`,
  `RadarIngest.Supply.available`.
-/

set_option autoImplicit false

namespace RadarIngest

/-- The heap can supply a block of fewer bytes than this, and no larger one. -/
def heapLimit : Nat := Nat.pow 2 40

/-- The kind of a supply, with its own state. -/
inductive SupplyKind where
  | heap
  | budgeted (budget inUse : Nat)
  | fixed (length : Nat) (fill : UInt8)
  deriving DecidableEq, Repr

/-- The traffic a supply has seen. -/
structure SupplyAccount where
  allocations : Nat := 0
  failures : Nat := 0
  releases : Nat := 0
  releasedBytes : Nat := 0
  deriving DecidableEq, Repr

/-- A supply of staging blocks with its account. -/
structure Supply where
  kind : SupplyKind
  account : SupplyAccount := {}
  deriving DecidableEq, Repr

namespace Supply

/-- The heap. -/
def heap : Supply := ⟨.heap, {}⟩

/-- A supply with a budget of `budget` bytes, none handed out yet. -/
def budgeted (budget : Nat) : Supply := ⟨.budgeted budget 0, {}⟩

/-- A supply that always hands out `length` bytes of `fill`. -/
def fixed (length : Nat) (fill : UInt8) : Supply := ⟨.fixed length fill, {}⟩

/-- What is left of a budgeted supply's budget. -/
def available? (s : Supply) : Option Nat :=
  match s.kind with
  | .budgeted budget inUse => some (budget - inUse)
  | _ => none

/-- The bytes a budgeted supply has handed out and not taken back. -/
def inUse? (s : Supply) : Option Nat :=
  match s.kind with
  | .budgeted _ inUse => some inUse
  | _ => none

/-- What the kind of supply answers to a request of `size` bytes: its new state and a block, or a
refusal. -/
def grant (k : SupplyKind) (size : Nat) : SupplyKind × Except ManagerError (List UInt8) :=
  match k with
  | .heap =>
    if size < heapLimit then (k, .ok (List.replicate size 0)) else (k, .error (.allocationFailed size))
  | .budgeted budget inUse =>
    if budget - inUse < size ∨ heapLimit ≤ size then (k, .error (.allocationFailed size))
    else (.budgeted budget (inUse + size), .ok (List.replicate size 0))
  | .fixed length fill => (k, .ok (List.replicate length fill))

/-- Asks for a block of `size` bytes, and records the outcome in the account. -/
def allocate (s : Supply) (size : Nat) : Supply × Except ManagerError (List UInt8) :=
  let (k, r) := grant s.kind size
  let account := match r with
    | .ok _ => { s.account with allocations := s.account.allocations + 1 }
    | .error _ => { s.account with failures := s.account.failures + 1 }
  (⟨k, account⟩, r)

/-- Takes a block back: a budgeted supply subtracts its length, stopping at zero. -/
def release (s : Supply) (block : List UInt8) : Supply :=
  let kind := match s.kind with
    | .budgeted budget inUse => .budgeted budget (inUse - block.length)
    | k => k
  ⟨kind, { s.account with
    releases := s.account.releases + 1
    releasedBytes := s.account.releasedBytes + block.length }⟩

end Supply

end RadarIngest
