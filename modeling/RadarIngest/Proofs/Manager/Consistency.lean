import RadarIngest.Proofs.Manager.Calls

/-!
**The reachable states of a manager.**

Every manager a client can reach keeps its parts in step: the registry counts exactly its occupied
slots and no consumer holds two of them; a live buffer holds at least one byte, the fill level lies
within it and its head is at offset zero; without a buffer the fill level is zero, no slot is held, the cycle is not marked
notified, no thread is bound and no supply is pending; and no overflow reset was ever counted.
This is `Manager.Consistent`, and every call preserves it, a run that stops included.

What a client sees follows: the offsets `state` reports are ordered, a buffer with no room holds a
whole window, and the reset of an exhausted buffer never fires, since a buffer of at least one
byte whose head is at offset zero is never filled to the end with nothing unread.

Main definitions:

* `RadarIngest.Manager.FillWithin` — a live buffer is not empty, holds the fill level and has its
  head at offset zero;
* `RadarIngest.Manager.Consistent` — the invariant;
* `RadarIngest.Manager.Sound` — what a client can rely on in every reachable state.

Main results:

* `RadarIngest.Manager.FillWithin.exec`, `RadarIngest.Manager.Consistent.exec` — **every call
  preserves the invariants**;
* `RadarIngest.Manager.Consistent.sound` — the invariant gives what a client relies on;
* `RadarIngest.Manager.created_sessions_sound` — every state reached from a created manager is
  sound.
-/

set_option autoImplicit false

namespace RadarIngest

namespace Manager

variable {P : Type}

/-- A live buffer is not empty, the fill level lies within it and its head is at offset zero.
Every call keeps this. -/
def FillWithin (m : Manager P) : Prop :=
  ∀ s, m.staging = some s → 0 < m.fillLevel ∧ m.fillLevel ≤ s.capacity ∧ s.head = 0

namespace FillWithin

variable {m m' : Manager P}

theorem capacity_pos (h : m.FillWithin) {s : Staging} (hs : m.staging = some s) :
    0 < s.capacity :=
  Nat.lt_of_lt_of_le (h s hs).1 (h s hs).2.1

theorem head_eq_zero (h : m.FillWithin) {s : Staging} (hs : m.staging = some s) : s.head = 0 :=
  (h s hs).2.2

/-- A call that keeps the buffer and the fill level keeps the bound. -/
theorem of_eq (h : m.FillWithin) (hs : m'.staging = m.staging)
    (hfill : m'.fillLevel = m.fillLevel) : m'.FillWithin := by
  intro s hs'
  rw [hfill]
  exact h s (hs ▸ hs')

theorem init (h : m.FillWithin) (size fill : Nat) : (m.init size fill).1.FillWithin := by
  obtain ⟨supplies, ⟨-, heq⟩ | ⟨-, -, hfill, hsize, heq⟩⟩ := init_cases m size fill <;> rw [heq]
  · exact h.of_eq rfl rfl
  · -- the new buffer has `size` bytes, and the sizes were checked
    intro s hs
    cases hs
    simp [Staging.capacity, Staging.ofBytes, hfill, hsize]

theorem deinit (h : m.deinit = .ok m') : m'.FillWithin := by
  obtain ⟨-, -, supplies, current, rfl⟩ := deinit_eq_ok h
  intro s hs
  cases hs

theorem setFillLevel (hm : m.FillWithin) {fill : Nat} (h : m.setFillLevel fill = .ok m') :
    m'.FillWithin := by
  obtain ⟨s, hs, hpos, hle, rfl⟩ := setFillLevel_eq_ok h
  intro s' hs'
  rw [show m.staging = some s' from hs'] at hs
  cases hs
  exact ⟨hpos, hle, hm.head_eq_zero hs'⟩

theorem run [Producer P] (h : m.FillWithin) (context : WakeContext) (thread : Nat) :
    (m.run context thread).1.FillWithin := by
  rcases run_frame (fun s hs => h.head_eq_zero hs) (fun s hs => h.capacity_pos hs) context thread
    with hsame | ⟨s, s', q, reg, b, r, hs, ⟨hcap, hhead⟩, -, -, -, heq⟩
  · rw [hsame]
    exact h
  · rw [heq]
    intro s₂ hs₂
    cases hs₂
    obtain ⟨hpos, hle, -⟩ := h s hs
    exact ⟨hpos, by rw [hcap]; exact hle, hhead⟩

/-- **Every call keeps a live buffer's fill level within it.** -/
theorem exec [Producer P] (h : m.FillWithin) (op : Op) : (m.exec op).1.FillWithin := by
  cases op with
  | init size fill =>
      simp only [Manager.exec]
      split <;> rename_i heq <;>
      · rw [← congrArg Prod.fst heq]
        exact h.init size fill
  | deinit =>
      simp only [Manager.exec]
      split
      · exact deinit ‹_›
      · exact h
  | setAllocator supply =>
      exact h.of_eq (by simp [Manager.exec, addSupply_eq]) (by simp [Manager.exec, addSupply_eq])
  | setSharedAllocator i => exact h.of_eq (by simp [Manager.exec]) (by simp [Manager.exec])
  | subscribe c =>
      simp only [Manager.exec]
      split
      · rename_i hsub
        rw [(subscribe_eq_ok hsub).2.2]
        exact h
      · exact h
  | unsubscribe id => exact h
  | run context thread =>
      rw [exec_run_fst]
      exact h.run context thread
  | read id =>
      simp only [Manager.exec]
      split <;> exact h
  | ack id =>
      simp only [Manager.exec]
      split
      · rename_i hack
        rw [(ack_eq_ok hack).2]
        exact h
      · exact h
  | isAcknowledged id => exact h
  | take id =>
      rcases exec_take m id with htake | ⟨e, htake⟩ | ⟨w, m', -, -, hack, htake⟩ <;> rw [htake]
      · exact h
      · exact h
      · rw [(ack_eq_ok hack).2]
        exact h
  | setFillLevel fill =>
      simp only [Manager.exec]
      split
      · exact h.setFillLevel ‹_›
      · exact h

end FillWithin

/-- **The invariant of every reachable manager.**  Its registry counts its occupied slots and
holds each consumer once; its buffer holds the fill level; without a buffer nothing of a cycle is
set; and no overflow reset was counted. -/
structure Consistent (m : Manager P) : Prop where
  /-- The registry's count of subscribers is the number of occupied slots. -/
  active_eq : m.registry.active = m.registry.occupied
  /-- No consumer holds two slots. -/
  distinct : m.registry.Distinct
  /-- A live buffer is not empty, the fill level lies within it and its head is at zero. -/
  live : m.FillWithin
  /-- Without a buffer nothing of a cycle is set. -/
  idle : m.staging = none →
    m.fillLevel = 0 ∧ m.registry.occupied = 0 ∧ m.notified = false ∧ m.thread = none ∧
      m.pending = none
  /-- No overflow reset was ever counted. -/
  no_resets : m.metrics.snapshot.overflowResets = 0

namespace Consistent

variable {m m' : Manager P}

/-- A fresh manager is consistent. -/
theorem withSlots (p : P) (n : Nat) : (Manager.withSlots p n).Consistent where
  active_eq := (Registry.occupied_empty n).symm
  distinct := Registry.distinct_empty n
  live := fun _ hs => (by cases hs)
  idle := by simp [Manager.withSlots]
  no_resets := rfl

/-! ### One lemma per call -/

theorem init (hm : m.Consistent) (size fill : Nat) : (m.init size fill).1.Consistent := by
  have hlive := hm.live.init size fill
  obtain ⟨supplies, ⟨-, heq⟩ | ⟨-, -, -, -, heq⟩⟩ := init_cases m size fill <;>
    rw [heq] at hlive ⊢
  · exact ⟨hm.active_eq, hm.distinct, hlive, hm.idle, hm.no_resets⟩
  · exact ⟨hm.active_eq, hm.distinct, hlive, by simp, hm.no_resets⟩

theorem deinit (hm : m.Consistent) (h : m.deinit = .ok m') : m'.Consistent := by
  have hlive := FillWithin.deinit h
  obtain ⟨hactive, -, supplies, current, rfl⟩ := deinit_eq_ok h
  -- no subscriber counted means no slot held, by the count invariant
  have hoccupied : m.registry.occupied = 0 := by rw [← hm.active_eq, hactive]
  exact ⟨hm.active_eq, hm.distinct, hlive, fun _ => ⟨rfl, hoccupied, rfl, rfl, rfl⟩,
    hm.no_resets⟩

theorem setAllocator (hm : m.Consistent) (i : Nat) : (m.setAllocator i).Consistent := by
  rw [setAllocator_eq]
  split
  · rename_i hsome
    exact ⟨hm.active_eq, hm.distinct, hm.live,
      fun hnone => absurd hnone (Option.isSome_iff_ne_none.1 hsome), hm.no_resets⟩
  · exact ⟨hm.active_eq, hm.distinct, hm.live, hm.idle, hm.no_resets⟩

theorem addSupply (hm : m.Consistent) (s : Supply) : (m.addSupply s).1.Consistent := by
  rw [addSupply_eq]
  exact ⟨hm.active_eq, hm.distinct, hm.live, hm.idle, hm.no_resets⟩

theorem subscribe (hm : m.Consistent) {c : Consumer} {id : Nat} (h : m.subscribe c = .ok (m', id)) :
    m'.Consistent := by
  obtain ⟨hsome, hsub, heq⟩ := subscribe_eq_ok h
  rw [heq]
  obtain ⟨-, ⟨-, -, -, -, hsame⟩ | ⟨hnew, i, hi, hfree, -, -, hfresh⟩⟩ :=
    Registry.subscribe_eq_ok hsub
  · rw [hsame]
    exact ⟨hm.active_eq, hm.distinct, hm.live, hm.idle, hm.no_resets⟩
  · -- a fresh subscription counts one more subscriber and occupies one more slot
    refine ⟨?_, ?_, hm.live, fun hnone => absurd hnone (Option.isSome_iff_ne_none.1 hsome),
      hm.no_resets⟩
    · rw [hfresh, Registry.occupied_subscribe_fresh hi hfree, ← hm.active_eq]
    · rw [hfresh]
      exact hm.distinct.subscribe_fresh hnew i _

theorem unsubscribe (hm : m.Consistent) (id : Nat) : (m.unsubscribe id).Consistent := by
  rw [unsubscribe_eq]
  rcases Registry.unsubscribe_cases m.registry id with hsame | ⟨c, a, k, -, hslot, hfreed⟩
  · rw [hsame]
    exact ⟨hm.active_eq, hm.distinct, hm.live, hm.idle, hm.no_resets⟩
  · rw [hfreed]
    have hoccupied := Registry.occupied_unsubscribe hslot
    refine ⟨?_, hm.distinct.set_free _ _, hm.live, fun hnone => ?_, hm.no_resets⟩
    · rw [hoccupied, ← hm.active_eq]
    · obtain ⟨hfill, hzero, hnotified, hthread, hpending⟩ := hm.idle hnone
      exact ⟨hfill, by simp only [hoccupied, hzero], hnotified, hthread, hpending⟩

theorem ack (hm : m.Consistent) {id : Nat} (h : m.ack id = .ok m') : m'.Consistent := by
  obtain ⟨hack, heq⟩ := ack_eq_ok h
  obtain ⟨hholders, hactive⟩ := Registry.holders_acknowledge hack
  have hoccupied := Registry.occupied_eq_of_holders hholders
  rw [heq]
  refine ⟨by simp only [hactive, hoccupied, hm.active_eq], hm.distinct.of_holders hholders,
    hm.live, fun hnone => ?_, hm.no_resets⟩
  obtain ⟨hfill, hzero, hnotified, hthread, hpending⟩ := hm.idle hnone
  exact ⟨hfill, by simp only [hoccupied, hzero], hnotified, hthread, hpending⟩

theorem setFillLevel (hm : m.Consistent) {fill : Nat} (h : m.setFillLevel fill = .ok m') :
    m'.Consistent := by
  have hlive := hm.live.setFillLevel h
  obtain ⟨s, hs, -, -, rfl⟩ := setFillLevel_eq_ok h
  exact ⟨hm.active_eq, hm.distinct, hlive, fun hnone => (by cases hs.symm.trans hnone),
    hm.no_resets⟩

/-- A run keeps the invariant whether it returns, stops or is refused. -/
theorem run [Producer P] (hm : m.Consistent) (context : WakeContext) (thread : Nat) :
    (m.run context thread).1.Consistent := by
  have hlive := hm.live.run context thread
  rcases run_frame (fun s hs => hm.live.head_eq_zero hs) (fun s hs => hm.live.capacity_pos hs)
    context thread with hsame | ⟨s, s', q, reg, b, r, hs, -, hholders, hactive, hr, heq⟩
  · rw [hsame]
    exact hm
  · rw [heq] at hlive ⊢
    refine ⟨?_, hm.distinct.of_holders hholders, hlive, fun hnone => (by cases hnone), ?_⟩
    · simp only [hactive, Registry.occupied_eq_of_holders hholders, hm.active_eq]
    · exact Nat.le_zero.1 (hm.no_resets ▸ hr)

/-- **Every call preserves the invariant.** -/
theorem exec [Producer P] (hm : m.Consistent) (op : Op) : (m.exec op).1.Consistent := by
  cases op with
  | init size fill =>
      simp only [Manager.exec]
      split <;> rename_i h <;>
      · rw [← congrArg Prod.fst h]
        exact hm.init size fill
  | deinit =>
      simp only [Manager.exec]
      split
      · exact hm.deinit ‹_›
      · exact hm
  | setAllocator supply => exact (hm.addSupply supply).setAllocator _
  | setSharedAllocator i => exact hm.setAllocator i
  | subscribe c =>
      simp only [Manager.exec]
      split
      · exact hm.subscribe ‹_›
      · exact hm
  | unsubscribe id => exact hm.unsubscribe id
  | run context thread =>
      rw [exec_run_fst]
      exact hm.run context thread
  | read id =>
      simp only [Manager.exec]
      split <;> exact hm
  | ack id =>
      simp only [Manager.exec]
      split
      · exact hm.ack ‹_›
      · exact hm
  | isAcknowledged id => exact hm
  | take id =>
      rcases exec_take m id with htake | ⟨e, htake⟩ | ⟨w, m', -, -, hack, htake⟩ <;> rw [htake]
      · exact hm
      · exact hm
      · exact hm.ack hack
  | setFillLevel fill =>
      simp only [Manager.exec]
      split
      · exact hm.setFillLevel ‹_›
      · exact hm

end Consistent

/-! ### What a client relies on -/

/-- A manager built from a configuration, accepted or not, is consistent. -/
theorem consistent_withConfig (p : P) (c : ManagerConfig) : (withConfig p c).1.Consistent := by
  unfold withConfig
  split
  · exact Consistent.withSlots p _
  · exact (Consistent.withSlots p _).init _ _

/-- The offsets `state` reports, for any manager: the head is within the tail and the tail
within the capacity. -/
theorem state_offsets (m : Manager P) :
    m.state.head ≤ m.state.tail ∧ m.state.tail ≤ m.state.capacity ∧
      m.state.buffered = m.state.tail - m.state.head := by
  cases hs : m.staging with
  | none => simp [state, hs]
  | some s => simp [state, hs, s.head_le, s.tail_le, Staging.capacity]

section Sound

variable [Producer P]

/-- **What a client can rely on in every reachable state.** -/
structure Sound (m : Manager P) : Prop where
  /-- A live buffer starts at offset zero, is not empty, and holds the fill level. -/
  initialized : ∀ s, m.staging = some s →
    s.head = 0 ∧ s.tail ≤ s.capacity ∧ 1 ≤ s.capacity ∧ 1 ≤ m.fillLevel ∧
      m.fillLevel ≤ s.capacity
  /-- Without a buffer: no fill level, no subscriber, no notified cycle, no thread, no pending
  supply. -/
  uninitialized : m.staging = none →
    m.fillLevel = 0 ∧ m.state.subscribers = 0 ∧ (∀ id, m.registry.isRegistered id = false) ∧
      m.notified = false ∧ m.thread = none ∧ m.pending = none
  /-- The offsets reported are ordered and the buffered count is their difference. -/
  offsets : m.state.head ≤ m.state.tail ∧ m.state.tail ≤ m.state.capacity ∧
    m.state.buffered = m.state.tail - m.state.head
  /-- A buffer with no room holds a whole window. -/
  full_window : ∀ s, m.staging = some s → s.room = 0 → m.fillLevel ≤ s.buffered
  /-- No run that returns reports a reset. -/
  run_no_reset : ∀ context thread m' report,
    m.run context thread = (m', .ok report) → report.reset = false
  /-- The count of overflow resets stays zero. -/
  no_resets : m.metrics.snapshot.overflowResets = 0

/-- The invariant gives what a client relies on. -/
theorem Consistent.sound {m : Manager P} (hm : m.Consistent) : m.Sound where
  initialized := fun s hs =>
    ⟨hm.live.head_eq_zero hs, s.tail_le, hm.live.capacity_pos hs, (hm.live s hs).1,
      (hm.live s hs).2.1⟩
  uninitialized := fun hnone => by
    obtain ⟨hfill, hzero, hnotified, hthread, hpending⟩ := hm.idle hnone
    refine ⟨hfill, ?_, Registry.isRegistered_of_occupied_eq_zero hzero, hnotified, hthread,
      hpending⟩
    simp [state, hm.active_eq, hzero]
  offsets := m.state_offsets
  full_window := fun s hs hroom => by
    -- with the head at zero every live byte is buffered, and no room means the tail is at the end
    have hfill := (hm.live s hs).2.1
    have htail := s.tail_le
    simp only [Staging.room, Staging.capacity] at hroom hfill
    rw [Staging.buffered_of_head_eq_zero (hm.live.head_eq_zero hs)]
    omega
  run_no_reset := fun context thread m' report hrun => by
    obtain ⟨s, hs, -, hcycle⟩ := run_ok hrun
    obtain ⟨-, -, -, -, -, -, -, hreset, -⟩ :=
      cycle_ok (hm.live.head_eq_zero hs) (hm.live.capacity_pos hs) hcycle
    exact hreset
  no_resets := hm.no_resets

/-- **Every state reached from a created manager is sound**: from `withSlots`, from `create`, and
from `withConfig` whether it accepted its configuration or not, after any calls. -/
theorem created_sessions_sound (p : P) (n : Nat) (c : ManagerConfig) (ops : List Op) :
    ((withSlots p n).after ops).Sound ∧ ((create p).after ops).Sound ∧
      ((withConfig p c).1.after ops).Sound := by
  have hreach : ∀ m₀ : Manager P, m₀.Consistent → (m₀.after ops).Sound := fun m₀ hm₀ =>
    (after_invariant Consistent (fun m op hm => hm.exec op) hm₀ ops).sound
  exact ⟨hreach _ (Consistent.withSlots p n), hreach _ (Consistent.withSlots p _),
    hreach _ (consistent_withConfig p c)⟩

end Sound

end Manager

end RadarIngest
