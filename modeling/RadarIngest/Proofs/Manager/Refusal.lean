import RadarIngest.Proofs.Manager.Allocation

/-!
**A refused call changes nothing.**

Every guard of the manager comes before its first change: a call that is refused returns the
manager as it found it.  The one call that can do something before it fails is `init`: it asks
the current supply for a block before it can find the block's length wrong.  Even then the
manager is left with its buffer, fill level, registry, notified mark, thread binding, current and
pending supply, counters and producer as they were; only the supply asked has seen the request,
no supply counts more or fewer bytes in use, and a block of the wrong length has gone straight
back to the supply that handed it out.

Main results:

* `RadarIngest.Manager.exec_eq_self_of_refused` — a refused call other than `init` leaves the
  manager as it was;
* `RadarIngest.Manager.init_refused` — what a refused `init` may have changed;
* `RadarIngest.Manager.refused_call_changes_nothing` — **failing calls are atomic**.
-/

set_option autoImplicit false

namespace RadarIngest

namespace Supply

/-- A block of the wrong length given straight back leaves the bytes in use as they were: only a
fixed supply hands one out, and it counts none. -/
theorem inUse?_release_of_length_ne {s : Supply} {size : Nat} {block : List UInt8}
    (h : (s.allocate size).2 = .ok block) (hlen : block.length ≠ size) :
    ((s.allocate size).1.release block).inUse? = s.inUse? := by
  cases hk : s.kind with
  | fixed length fill => simp [inUse?, release, hk, grant]
  | heap =>
      rw [result_allocate, hk] at h
      exact absurd (length_of_grant rfl h) hlen
  | budgeted budget inUse =>
      rw [result_allocate, hk] at h
      exact absurd (length_of_grant rfl h) hlen

end Supply

namespace Manager

variable {P : Type} [Producer P] {m : Manager P}

/-- **A refused call other than `init` leaves the manager as it was**: a release with subscribers
or without a buffer, a refused subscription, acknowledgement, read, take or fill level, and a run
refused for want of a buffer or from a foreign thread, which binds nothing and never asks the
producer. -/
theorem exec_eq_self_of_refused {op : Op} (hop : ∀ size fill, op ≠ .init size fill)
    {e : ManagerError} (h : (m.exec op).2 = .refused e) : (m.exec op).1 = m := by
  cases op with
  | init size fill => exact absurd rfl (hop size fill)
  | deinit =>
      rcases hd : m.deinit with e' | m'
      · rw [exec_deinit_of_error hd]
      · rw [exec_deinit_of_ok hd] at h
        cases h
  | run context thread =>
      rcases hrun : m.run context thread with ⟨m', (e' | p) | report⟩
      · rw [exec_run_of_refused hrun]
        exact (run_refused hrun).1
      · rw [exec_run_of_stopped hrun] at h
        cases h
      · rw [exec_run_of_ok hrun] at h
        cases h
  | setFillLevel fill =>
      rcases hset : m.setFillLevel fill with e' | m'
      · rw [exec_setFillLevel_of_error hset]
      · rw [exec_setFillLevel_of_ok hset] at h
        cases h
  | setAllocator supply => simp [exec] at h
  | setSharedAllocator i => simp [exec] at h
  | unsubscribe id => simp [exec] at h
  | isAcknowledged id => simp [exec] at h
  | read id =>
      simp only [exec]
      split <;> rfl
  | subscribe c =>
      rcases hsub : m.subscribe c with e' | ⟨m', id⟩
      · simp [exec, hsub]
      · simp [exec, hsub] at h
  | ack id =>
      rcases hack : m.ack id with e' | m'
      · simp [exec, hack]
      · simp [exec, hack] at h
  | take id =>
      rcases exec_take m id with htake | ⟨e', htake⟩ | ⟨w, m', -, -, -, htake⟩ <;>
        rw [htake] at h ⊢
      cases h

omit [Producer P] in
/-- **What a refused `init` may have changed**: the supplies alone.  No supply counts more or
fewer bytes in use, and a block of the wrong length, handed out by the current supply, went
straight back to it. -/
theorem init_refused {size fill : Nat} {e : ManagerError} (h : (m.init size fill).2 = .error e) :
    (m.init size fill).1 = { m with supplies := (m.init size fill).1.supplies } ∧
      (∀ j, ((m.init size fill).1.supply j).inUse? = (m.supply j).inUse?) ∧
      (∀ s' block, m.staging = none → 0 < fill → fill ≤ size →
        (m.supply m.current).allocate size = (s', .ok block) → block.length ≠ size →
        (m.init size fill).1.supplies = m.supplies.set m.current (s'.release block)) := by
  rcases init_eq_cases m size fill with ⟨hrefuse, e', hinit⟩ |
    ⟨-, -, -, s', r, halloc, ⟨e', rfl, hinit⟩ | ⟨block, rfl, hlen, hinit⟩ | ⟨block, rfl, -, hinit⟩⟩
  · -- refused before asking: nothing changes at all
    rw [hinit]
    refine ⟨rfl, fun _ => rfl, fun s' block hnone hpos hle _ _ => ?_⟩
    rcases hrefuse with hlive | hsizes
    · simp [hnone] at hlive
    · exact absurd ⟨hpos, hle⟩ hsizes
  · -- the supply refused: it keeps its kind, and counts what it counted
    rw [hinit]
    have hres : ((m.supply m.current).allocate size).2 = .error e' := by rw [halloc]
    refine ⟨rfl, fun j => ?_, fun s'' block _ _ _ halloc' _ => ?_⟩
    · rw [supply_of_set rfl]
      split
      · rename_i hj
        rw [← hj.1, ← Supply.inUse?_allocate_of_error hres, halloc]
      · rfl
    · rw [halloc] at halloc'
      cases halloc'
  · -- a block of the wrong length went straight back to the supply that handed it out
    rw [hinit]
    have hres : ((m.supply m.current).allocate size).2 = .ok block := by rw [halloc]
    refine ⟨rfl, fun j => ?_, fun s'' block' _ _ _ halloc' _ => ?_⟩
    · rw [supply_of_set rfl]
      split
      · rename_i hj
        rw [← hj.1, ← Supply.inUse?_release_of_length_ne hres hlen, halloc]
      · rfl
    · rw [halloc] at halloc'
      cases halloc'
      rfl
  · rw [hinit] at h
    cases h

/-- **Failing calls are atomic.**  A call that is refused leaves the manager as it was, supplies
apart: its buffer (bytes and offsets), fill level, every slot and the subscriber count, the
notified mark, the thread binding, the current and the pending supply, the counters and the
producer, which was never asked.  No supply counts more or fewer bytes in use.  Only a refused
`init` may have touched a supply, the current one: when it was handed a block of the wrong
length, it gave that block straight back to it.  Every other refused call leaves the manager
exactly as it was. -/
theorem refused_call_changes_nothing (m : Manager P) (op : Op) {e : ManagerError}
    (h : (m.exec op).2 = .refused e) :
    (m.exec op).1 = { m with supplies := (m.exec op).1.supplies } ∧
      (∀ j, ((m.exec op).1.supply j).inUse? = (m.supply j).inUse?) ∧
      ((∀ size fill, op ≠ .init size fill) → (m.exec op).1 = m) ∧
      (∀ size fill s' block, op = .init size fill → m.staging = none → 0 < fill → fill ≤ size →
        (m.supply m.current).allocate size = (s', .ok block) → block.length ≠ size →
        (m.exec op).1.supplies = m.supplies.set m.current (s'.release block)) := by
  cases op
  case init size fill =>
    -- the refusal is the one `init` returned
    have hinit : (m.init size fill).2 = .error e := by
      simp only [exec] at h
      split at h
      · cases h
      · rename_i m' e' hinit
        cases h
        rw [hinit]
    obtain ⟨hframe, hcount, hback⟩ := init_refused hinit
    rw [exec_init_fst]
    refine ⟨hframe, hcount, fun hop => absurd rfl (hop size fill), ?_⟩
    rintro size' fill' s' block ⟨rfl, rfl⟩
    exact hback s' block
  all_goals
    have hsame := exec_eq_self_of_refused (fun _ _ => Op.noConfusion) h
    rw [hsame]
    exact ⟨rfl, fun _ => rfl, fun _ => rfl, fun _ _ _ _ hop => Op.noConfusion hop⟩

/-- A fixed supply hands out eight bytes for a twelve-byte buffer: `init` is refused, gives the
block straight back, and leaves the manager without a buffer. -/
theorem refused_call_changes_nothing_short_block :
    let m := ((withSlots ({} : Script) 4).exec (.setAllocator ⟨.fixed 8 0, {}⟩)).1
    let op : Op := .init 12 4
    (m.exec op).2 = .refused (.allocationFailed 12) ∧
      (m.exec op).1 = { m with supplies := (m.exec op).1.supplies } ∧
      (∀ j, ((m.exec op).1.supply j).inUse? = (m.supply j).inUse?) ∧
      ((∀ size fill, op ≠ .init size fill) → (m.exec op).1 = m) ∧
      (∀ size fill s' block, op = .init size fill → m.staging = none → 0 < fill → fill ≤ size →
        (m.supply m.current).allocate size = (s', .ok block) → block.length ≠ size →
        (m.exec op).1.supplies = m.supplies.set m.current (s'.release block)) := by
  intro m op
  have h : (m.exec op).2 = .refused (.allocationFailed 12) := rfl
  exact ⟨h, refused_call_changes_nothing m op h⟩

end Manager

end RadarIngest
