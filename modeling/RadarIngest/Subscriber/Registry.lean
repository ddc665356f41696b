import RadarIngest.Fault
import RadarIngest.Subscriber.Consumer

/-!
**Subscriber slots.**

A registry has a fixed number of slots, numbered from one.  A slot is free or holds a consumer,
with two flags: *acknowledged* (the consumer is done with the current window) and *consumed*
(the consumer handled it during a wake and is not woken again for it).  Subscribing a consumer
that already holds a slot returns that slot; otherwise the lowest free slot is taken.

`notifyAll` wakes, in slot order, every occupied slot whose consumer has not consumed the
current window; a consumer that consumes on waking is marked acknowledged and consumed.

Main definitions:

* `RadarIngest.Registry`, `RadarIngest.Registry.Slot`;
* `subscribe`, `unsubscribe`, `acknowledge`, `notifyAll`, `clearAcknowledgements`,
  `allAcknowledged`, `anyAcknowledged`.
-/

set_option autoImplicit false

namespace RadarIngest

/-- One subscriber slot. -/
structure Slot where
  holder : Option Consumer := none
  acknowledged : Bool := false
  consumed : Bool := false
  deriving DecidableEq, Repr

/-- The slots of a manager and the number of occupied ones. -/
structure Registry where
  slots : List Slot
  active : Nat
  deriving DecidableEq, Repr

namespace Registry

/-- A registry of `n` free slots. -/
def empty (n : Nat) : Registry := ⟨List.replicate n {}, 0⟩

/-- The number of slots. -/
def capacity (r : Registry) : Nat := r.slots.length

/-- The slot with a given id, counting from one. -/
def slot? (r : Registry) (id : Nat) : Option Slot :=
  if id = 0 then none else r.slots[id - 1]?

/-- Whether the slot with a given id holds a consumer. -/
def isRegistered (r : Registry) (id : Nat) : Bool :=
  match r.slot? id with
  | some s => s.holder.isSome
  | none => false

/-- The name of the consumer in a slot. -/
def name? (r : Registry) (id : Nat) : Option String :=
  (r.slot? id).bind fun s => s.holder.map (·.name)

/-- Whether the slot with a given id is acknowledged. -/
def isAcknowledged (r : Registry) (id : Nat) : Bool :=
  match r.slot? id with
  | some s => s.acknowledged
  | none => false

/-- Gives a consumer a slot: the slot it already holds, or the lowest free one. -/
def subscribe (r : Registry) (c : Consumer) : Except ManagerError (Registry × Nat) :=
  if c.name.isEmpty then .error (.invalidParam .emptyName)
  else
    match r.slots.findIdx? (fun s => s.holder.any (·.same c)) with
    | some i => .ok (r, i + 1)
    | none =>
      match r.slots.findIdx? (fun s => s.holder.isNone) with
      | some i => .ok (⟨r.slots.set i ⟨some c, false, false⟩, r.active + 1⟩, i + 1)
      | none => .error (.capacityExceeded r.capacity)

/-- Frees a slot and returns its consumer; nothing happens to a free slot, an unknown id, or a
registry with no occupied slot. -/
def unsubscribe (r : Registry) (id : Nat) : Registry × Option Consumer :=
  if r.active = 0 then (r, none)
  else
    match r.slot? id with
    | some ⟨some c, _, _⟩ => (⟨r.slots.set (id - 1) {}, r.active - 1⟩, some c)
    | _ => (r, none)

/-- Marks a subscriber as done with the current window. -/
def acknowledge (r : Registry) (id : Nat) : Except ManagerError Registry :=
  match r.slot? id with
  | none => .error (.invalidParam (.idOutside id r.capacity))
  | some s =>
    if s.holder.isNone then .error (.invalidParam (.unregistered id))
    else .ok { r with slots := r.slots.set (id - 1) { s with acknowledged := true } }

/-- Whether every occupied slot is acknowledged; true when none is occupied. -/
def allAcknowledged (r : Registry) : Bool :=
  r.slots.all fun s => s.holder.isNone || s.acknowledged

/-- Whether some occupied slot is acknowledged. -/
def anyAcknowledged (r : Registry) : Bool :=
  r.slots.any fun s => s.holder.isSome && s.acknowledged

/-- Clears the flags of every slot. -/
def clearAcknowledgements (r : Registry) : Registry :=
  { r with slots := r.slots.map fun s => { s with acknowledged := false, consumed := false } }

/-- Wakes one slot: `some` of the consumer woken, and the slot after the wake. -/
def wakeSlot (s : Slot) : Slot × Option Consumer :=
  if s.consumed then (s, none)
  else
    match s.holder with
    | some c =>
      if c.consumesOnWake then ({ s with acknowledged := true, consumed := true }, some c)
      else (s, some c)
    | none => (s, none)

/-- Wakes, in slot order, every occupied slot that has not consumed the current window, and
returns the consumers woken. -/
def notifyAll (r : Registry) : Registry × List Consumer :=
  let woken := r.slots.map wakeSlot
  ({ r with slots := woken.map (·.1) }, woken.filterMap (·.2))

@[simp] theorem capacity_empty (n : Nat) : (empty n).capacity = n := by simp [empty, capacity]

@[simp] theorem holder_wakeSlot (s : Slot) : (wakeSlot s).1.holder = s.holder := by
  unfold wakeSlot
  split
  · rfl
  · split
    · split <;> rfl
    · rfl

/-- A slot is acknowledged after a wake when it was before or its consumer consumed the window. -/
@[simp] theorem acknowledged_wakeSlot (s : Slot) :
    (wakeSlot s).1.acknowledged =
      (s.acknowledged || (!s.consumed && s.holder.any (·.consumesOnWake))) := by
  unfold wakeSlot
  cases hc : s.consumed
  · cases hh : s.holder with
    | none => simp
    | some c => cases hw : c.consumesOnWake <;> simp [hw]
  · simp

@[simp] theorem consumed_wakeSlot (s : Slot) :
    (wakeSlot s).1.consumed = (s.consumed || s.holder.any (·.consumesOnWake)) := by
  unfold wakeSlot
  cases hc : s.consumed
  · cases hh : s.holder with
    | none => simp [hc]
    | some c => cases hw : c.consumesOnWake <;> simp [hw, hc]
  · simp [hc]

/-- The consumer a wake reaches: the slot's, unless it already consumed the window. -/
@[simp] theorem woken_wakeSlot (s : Slot) :
    (wakeSlot s).2 = if s.consumed then none else s.holder := by
  unfold wakeSlot
  cases hc : s.consumed
  · cases hh : s.holder with
    | none => simp
    | some c => cases hw : c.consumesOnWake <;> simp [hw]
  · simp

@[simp] theorem slots_notifyAll (r : Registry) :
    r.notifyAll.1.slots = r.slots.map fun s => (wakeSlot s).1 := by
  simp [notifyAll]

@[simp] theorem active_notifyAll (r : Registry) : r.notifyAll.1.active = r.active := rfl

/-- A wake reaches, in slot order, the consumer of every slot that has not consumed the window. -/
theorem woken_notifyAll (r : Registry) :
    r.notifyAll.2 = r.slots.filterMap fun s => if s.consumed then none else s.holder := by
  simp only [notifyAll, List.filterMap_map]
  congr 1
  funext s
  exact woken_wakeSlot s

@[simp] theorem slots_clearAcknowledgements (r : Registry) :
    r.clearAcknowledgements.slots =
      r.slots.map fun s => { s with acknowledged := false, consumed := false } := rfl

@[simp] theorem active_clearAcknowledgements (r : Registry) :
    r.clearAcknowledgements.active = r.active := rfl

end Registry

end RadarIngest
