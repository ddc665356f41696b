import Mathlib
import RadarIngest.Proofs.Manager.Queue

/-!
**The representation invariant of the subscriber slots.**

A registry of `n` slots is *coherent* when it has `n` slots, counts exactly its occupied slots,
gives no consumer two slots, keeps both flags of a free slot down, and never marks a slot as
having consumed a window it did not acknowledge.  Every registry operation keeps this, and so
does every call of a manager, so every registry a client reaches through a manager is coherent.

Coherence is what makes the operations behave as documented: a subscription returns the one
slot its consumer already holds, or takes the lowest free slot, and is refused for capacity
exactly when all slots hold other consumers; an unsubscription of an occupied slot always frees
it, since the subscriber count is then positive.

Main definitions:

* `RadarIngest.Slot.Tidy` — the flags of one slot;
* `RadarIngest.Registry.Coherent` — the invariant.

Main results:

* `RadarIngest.Registry.Coherent.subscribe`, `unsubscribe`, `acknowledge`, `notifyAll`,
  `clearAcknowledgements` — every registry operation keeps the invariant;
* `RadarIngest.Registry.Coherent.subscribe_held`, `RadarIngest.Registry.subscribe_free`,
  `RadarIngest.Registry.Coherent.subscribe_eq_capacityExceeded_iff`,
  `RadarIngest.Registry.Coherent.unsubscribe_held` — the operations on a coherent registry;
* `RadarIngest.Manager.registry_coherent_along_sessions` — every registry reached through a
  manager is coherent, with the consequences above.
-/

set_option autoImplicit false

namespace RadarIngest

namespace Slot

/-- The flags of a slot are tidy: a free slot has both flags down, and a slot that consumed the
window has acknowledged it. -/
def Tidy (s : Slot) : Prop :=
  (s.holder = none → s.acknowledged = false ∧ s.consumed = false) ∧
    (s.consumed = true → s.acknowledged = true)

theorem tidy_free : ({} : Slot).Tidy := ⟨fun _ => ⟨rfl, rfl⟩, nofun⟩

theorem tidy_taken (c : Consumer) : (⟨some c, false, false⟩ : Slot).Tidy := ⟨nofun, nofun⟩

theorem tidy_cleared (s : Slot) : { s with acknowledged := false, consumed := false }.Tidy :=
  ⟨fun _ => ⟨rfl, rfl⟩, nofun⟩

/-- An acknowledged slot that holds a consumer has tidy flags. -/
theorem tidy_acknowledged {s : Slot} (hheld : s.holder.isSome) :
    { s with acknowledged := true }.Tidy := by
  refine ⟨fun hfree => ?_, fun _ => rfl⟩
  rw [show s.holder = none from hfree] at hheld
  cases hheld

/-- A wake keeps the flags tidy: it raises both flags of a callback's slot, or none. -/
theorem Tidy.wakeSlot {s : Slot} (hs : s.Tidy) : (Registry.wakeSlot s).1.Tidy := by
  obtain ⟨hfree, hcons⟩ := hs
  refine ⟨fun hnone => ?_, fun hk => ?_⟩
  · rw [Registry.holder_wakeSlot] at hnone
    obtain ⟨ha, hk⟩ := hfree hnone
    simp [hnone, ha, hk]
  · rw [Registry.acknowledged_wakeSlot]
    rw [Registry.consumed_wakeSlot] at hk
    cases hk' : s.consumed
    · simp only [hk', Bool.false_or] at hk
      simp [hk]
    · simp [hcons hk']

end Slot

namespace Registry

/-- **A coherent registry of `n` slots**: the representation invariant of the subscriber slots. -/
structure Coherent (n : Nat) (r : Registry) : Prop where
  /-- The registry has `n` slots. -/
  capacity_eq : r.capacity = n
  /-- The subscriber count is the number of occupied slots. -/
  active_eq : r.active = r.occupied
  /-- No consumer holds two slots. -/
  distinct : r.Distinct
  /-- Every slot's flags are tidy. -/
  tidy : ∀ s ∈ r.slots, s.Tidy

namespace Coherent

variable {n : Nat} {r r' : Registry}

theorem empty (n : Nat) : (empty n).Coherent n where
  capacity_eq := capacity_empty n
  active_eq := (occupied_empty n).symm
  distinct := distinct_empty n
  tidy := fun s hs => by
    obtain rfl := List.eq_of_mem_replicate (show s ∈ List.replicate n ({} : Slot) from hs)
    exact Slot.tidy_free

/-- Rewriting one slot with tidy flags keeps every flag tidy. -/
theorem tidy_set (hr : r.Coherent n) {i : Nat} {x : Slot} (hx : x.Tidy) :
    ∀ s ∈ r.slots.set i x, s.Tidy := fun s hs =>
  (List.mem_or_eq_of_mem_set hs).elim (hr.tidy s) fun h => h ▸ hx

/-- The subscriber count is at most the number of slots. -/
theorem active_le (hr : r.Coherent n) : r.active ≤ n := by
  rw [hr.active_eq, ← hr.capacity_eq]
  exact List.countP_le_length

/-! ### Every operation keeps the invariant -/

theorem subscribe (hr : r.Coherent n) {c : Consumer} {id : Nat} (h : r.subscribe c = .ok (r', id)) :
    r'.Coherent n := by
  obtain ⟨-, ⟨-, -, -, -, rfl⟩ | ⟨hnew, i, hi, hfree, -, -, rfl⟩⟩ := subscribe_eq_ok h
  · exact hr
  · -- the lowest free slot is taken, with both flags down
    refine ⟨?_, ?_, hr.distinct.subscribe_fresh hnew i _, hr.tidy_set (Slot.tidy_taken c)⟩
    · simpa [capacity] using hr.capacity_eq
    · rw [occupied_subscribe_fresh hi hfree, ← hr.active_eq]

theorem unsubscribe (hr : r.Coherent n) (id : Nat) : (r.unsubscribe id).1.Coherent n := by
  rcases unsubscribe_cases r id with hsame | ⟨c, a, k, -, hslot, hfreed⟩
  · rw [hsame]
    exact hr
  · -- the slot is freed with both flags down, and counted one fewer
    rw [hfreed]
    refine ⟨?_, ?_, hr.distinct.set_free _ _, hr.tidy_set Slot.tidy_free⟩
    · simpa [capacity] using hr.capacity_eq
    · rw [occupied_unsubscribe hslot, ← hr.active_eq]

theorem acknowledge (hr : r.Coherent n) {id : Nat} (h : r.acknowledge id = .ok r') :
    r'.Coherent n := by
  obtain ⟨hholders, hactive⟩ := holders_acknowledge h
  obtain ⟨s, -, hheld, rfl⟩ := acknowledge_eq_ok h
  refine ⟨?_, ?_, hr.distinct.of_holders hholders, hr.tidy_set (Slot.tidy_acknowledged hheld)⟩
  · simpa [capacity] using hr.capacity_eq
  · rw [hactive, occupied_eq_of_holders hholders, hr.active_eq]

theorem notifyAll (hr : r.Coherent n) : r.notifyAll.1.Coherent n := by
  refine ⟨by simpa [capacity] using hr.capacity_eq, by simp [hr.active_eq],
    hr.distinct.of_holders (holders_notifyAll r), fun s hs => ?_⟩
  rw [slots_notifyAll, List.mem_map] at hs
  obtain ⟨s₀, hs₀, rfl⟩ := hs
  exact (hr.tidy s₀ hs₀).wakeSlot

theorem clearAcknowledgements (hr : r.Coherent n) : r.clearAcknowledgements.Coherent n := by
  refine ⟨by simpa [capacity] using hr.capacity_eq, by simp [hr.active_eq],
    hr.distinct.of_holders (holders_clearAcknowledgements r), fun s hs => ?_⟩
  rw [slots_clearAcknowledgements, List.mem_map] at hs
  obtain ⟨s₀, -, rfl⟩ := hs
  exact Slot.tidy_cleared s₀

/-! ### The operations on a coherent registry -/

/-- **A consumer that holds a slot gets that slot back**, and nothing changes. -/
theorem subscribe_held (hr : r.Coherent n) {c : Consumer} (hname : c.name.isEmpty = false)
    {i : Nat} (hi : i < r.slots.length) {d : Consumer} (hd : r.slots[i].holder = some d)
    (hsame : d.same c = true) : r.subscribe c = .ok (r, i + 1) := by
  have hkey : d.key = c.key := by simpa [Consumer.same] using hsame
  have hfind : r.slots.findIdx? (fun s => s.holder.any (·.same c)) = some i := by
    refine List.findIdx?_eq_some_iff_getElem.2 ⟨hi, by simp [hd, hsame], fun j hj hheld => ?_⟩
    -- an earlier slot holding a consumer with `c`'s key would hold `d`'s key a second time
    cases he : r.slots[j].holder with
    | none => simp [he] at hheld
    | some e =>
        have hkey' : e.key = d.key := by
          simp only [he, Option.any_some, Consumer.same, beq_iff_eq] at hheld
          rw [hheld, hkey]
        have := hr.distinct j i (Nat.lt_trans hj hi) hi e d he hd hkey'
        omega
  simp [Registry.subscribe, hname, hfind]

/-- **A subscription is refused for capacity exactly when every slot holds another consumer.** -/
theorem subscribe_eq_capacityExceeded_iff (hr : r.Coherent n) {c : Consumer}
    (hname : c.name.isEmpty = false) :
    r.subscribe c = .error (.capacityExceeded n) ↔
      ∀ s ∈ r.slots, ∃ d, s.holder = some d ∧ d.same c = false := by
  constructor
  · intro h s hs
    unfold Registry.subscribe at h
    rw [if_neg (by simp [hname])] at h
    split at h
    · cases h
    · rename_i hheld
      split at h
      · cases h
      · rename_i hfull
        have hother := List.findIdx?_eq_none_iff.1 hheld s hs
        cases hh : s.holder with
        | none => simpa [hh] using List.findIdx?_eq_none_iff.1 hfull s hs
        | some d => exact ⟨d, rfl, by simpa [hh] using hother⟩
  · intro hall
    have hheld : r.slots.findIdx? (fun s => s.holder.any (·.same c)) = none :=
      List.findIdx?_eq_none_iff.2 fun s hs => by
        obtain ⟨d, hd, hne⟩ := hall s hs
        simp [hd, hne]
    have hfull : r.slots.findIdx? (fun s => s.holder.isNone) = none :=
      List.findIdx?_eq_none_iff.2 fun s hs => by
        obtain ⟨d, hd, -⟩ := hall s hs
        simp [hd]
    simp [Registry.subscribe, hname, hheld, hfull, ← hr.capacity_eq]

/-- **An unsubscription of an occupied slot frees it**: the subscriber count is then positive, so
the shortcut for a registry without subscribers never hides a slot. -/
theorem unsubscribe_held (hr : r.Coherent n) {id : Nat} {s : Slot} (hs : r.slot? id = some s)
    {d : Consumer} (hd : s.holder = some d) :
    0 < r.active ∧ r.unsubscribe id = (⟨r.slots.set (id - 1) {}, r.active - 1⟩, some d) := by
  have hpos : 0 < r.active := by
    rw [hr.active_eq, occupied, List.countP_pos_iff]
    exact ⟨s, mem_of_slot?_eq_some hs, by simp [hd]⟩
  refine ⟨hpos, ?_⟩
  obtain ⟨holder, a, k⟩ := s
  cases hd
  simp [Registry.unsubscribe, hs, Nat.pos_iff_ne_zero.1 hpos]

end Coherent

/-- **A consumer that holds no slot takes the lowest free one**, with both flags down. -/
theorem subscribe_free {r : Registry} {c : Consumer} (hname : c.name.isEmpty = false)
    (hnew : ∀ s ∈ r.slots, s.holder.any (·.same c) = false) {i : Nat} (hi : i < r.slots.length)
    (hfree : r.slots[i].holder = none)
    (hbefore : ∀ j (hj : j < r.slots.length), j < i → r.slots[j].holder ≠ none) :
    r.subscribe c = .ok (⟨r.slots.set i ⟨some c, false, false⟩, r.active + 1⟩, i + 1) := by
  have hheld : r.slots.findIdx? (fun s => s.holder.any (·.same c)) = none :=
    List.findIdx?_eq_none_iff.2 hnew
  have hfind : r.slots.findIdx? (fun s => s.holder.isNone) = some i :=
    List.findIdx?_eq_some_iff_getElem.2
      ⟨hi, by simp [hfree], fun j hj => by simpa using hbefore j (Nat.lt_trans hj hi) hj⟩
  simp [Registry.subscribe, hname, hheld, hfind]

end Registry

namespace Manager

variable {P : Type} [Producer P] {m : Manager P}

/-- What a run does to the registry, whether it returns, stops or is refused: nothing, a wake, or
a wake and a compaction. -/
theorem registry_run (hm : m.FillWithin) (context : WakeContext) (thread : Nat) :
    (m.run context thread).1.registry = m.registry ∨
      (m.run context thread).1.registry = m.registry.notifyAll.1 ∨
      (m.run context thread).1.registry = m.registry.notifyAll.1.clearAcknowledgements := by
  rcases hrun : m.run context thread with ⟨m', (e | p) | report⟩
  · exact .inl (by rw [(run_refused hrun).1])
  · obtain ⟨s, hs, -, hcycle⟩ := run_stopped hrun
    obtain ⟨q, r, s₁, -, -, -, rfl | ⟨-, rfl⟩ | ⟨-, -, rfl⟩⟩ :=
      cycle_error (hm.head_eq_zero hs) (hm.capacity_pos hs) hcycle
    · exact .inl rfl
    · exact .inr (.inl rfl)
    · exact .inr (.inr rfl)
  · obtain ⟨-, -, hcases⟩ := run_ok_cases hm hrun
    rcases hcases with ⟨-, -, -, hreg, -⟩ | ⟨-, -, -, -, hreg, -⟩
    · exact .inl hreg
    · cases hc : report.compacted <;> simp only [hc] at hreg
      · exact .inr (.inl hreg)
      · exact .inr (.inr hreg)

/-- **Every call keeps the registry coherent.** -/
theorem registry_coherent_exec {n : Nat} (hm : m.FillWithin) (hr : m.registry.Coherent n)
    (op : Op) : (m.exec op).1.registry.Coherent n := by
  cases op
  case subscribe c =>
    simp only [exec]
    split
    · exact hr.subscribe (subscribe_eq_ok ‹_›).2.1
    · exact hr
  case unsubscribe id => exact hr.unsubscribe id
  case ack id =>
    simp only [exec]
    split
    · exact hr.acknowledge (ack_eq_ok ‹_›).1
    · exact hr
  case take id =>
    rcases exec_take m id with htake | ⟨e, htake⟩ | ⟨w, m', -, -, hack, htake⟩ <;> rw [htake]
    · exact hr
    · exact hr
    · exact hr.acknowledge (ack_eq_ok hack).1
  case run context thread =>
    rw [exec_run_fst]
    rcases registry_run hm context thread with h | h | h <;> rw [h]
    · exact hr
    · exact hr.notifyAll
    · exact hr.notifyAll.clearAcknowledgements
  -- the other calls never touch the registry
  all_goals
    rw [registry_exec_of_quiet rfl]
    exact hr

/-- **Every registry reached through a manager of `n` slots is coherent**, after any calls: it has
`n` slots, counts its occupied slots, gives no consumer two slots and keeps its flags tidy.  So
its subscriber count is at most `n`; unsubscribing an occupied slot frees it; and a consumer with
a name that subscribes gets the slot it holds back, unchanged, or else the lowest free slot, and
is refused for capacity exactly when every slot holds another consumer. -/
theorem registry_coherent_along_sessions (p : P) (n : Nat) (ops : List Op) :
    let r := ((withSlots p n).after ops).registry
    r.Coherent n ∧ r.active ≤ n ∧
      (∀ id s d, r.slot? id = some s → s.holder = some d →
        0 < r.active ∧ r.unsubscribe id = (⟨r.slots.set (id - 1) {}, r.active - 1⟩, some d)) ∧
      ∀ c : Consumer, c.name.isEmpty = false →
        (∀ i (hi : i < r.slots.length) d, r.slots[i].holder = some d → d.same c = true →
          r.subscribe c = .ok (r, i + 1)) ∧
        ((∀ s ∈ r.slots, s.holder.any (·.same c) = false) → ∀ i (hi : i < r.slots.length),
          r.slots[i].holder = none → (∀ j (hj : j < i), r.slots[j].holder ≠ none) →
          r.subscribe c = .ok (⟨r.slots.set i ⟨some c, false, false⟩, r.active + 1⟩, i + 1)) ∧
        (r.subscribe c = .error (.capacityExceeded n) ↔
          ∀ s ∈ r.slots, ∃ d, s.holder = some d ∧ d.same c = false) := by
  intro r
  -- a live buffer's fill level, which runs need, and coherence hold together along the session
  have hreach : ((withSlots p n).after ops).FillWithin ∧ r.Coherent n :=
    after_invariant (fun m => m.FillWithin ∧ m.registry.Coherent n)
      (fun m op hm => ⟨hm.1.exec op, registry_coherent_exec hm.1 hm.2 op⟩)
      ⟨(Consistent.withSlots p n).live, Registry.Coherent.empty n⟩ ops
  have hr := hreach.2
  refine ⟨hr, hr.active_le, fun id s d hs hd => hr.unsubscribe_held hs hd, fun c hname =>
    ⟨fun i hi d hd hsame => hr.subscribe_held hname hi hd hsame,
      fun hnew i hi hfree hbefore =>
        Registry.subscribe_free hname hnew hi hfree fun j _ hj => hbefore j hj,
      hr.subscribe_eq_capacityExceeded_iff hname⟩⟩

/-- A slot freed by an unsubscription is the first one a new consumer takes. -/
theorem freed_slot_taken_first :
    let r := ((withSlots ({} : Script) 3).after
      [.init 4 2, .subscribe ⟨"a", 1, .task⟩, .subscribe ⟨"b", 2, .task⟩, .unsubscribe 1]).registry
    r.subscribe ⟨"c", 3, .task⟩ =
      .ok (⟨r.slots.set 0 ⟨some ⟨"c", 3, .task⟩, false, false⟩, r.active + 1⟩, 1) :=
  ((registry_coherent_along_sessions ({} : Script) 3 _).2.2.2 ⟨"c", 3, .task⟩ rfl).2.1
    (by decide) 0 (by decide) (by decide) (fun j hj => absurd hj (Nat.not_lt_zero j))

end Manager

end RadarIngest
