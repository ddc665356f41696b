import RadarIngest.Proofs.Manager.Cycle
import RadarIngest.Proofs.Subscriber.Slots

/-!
**What each call does to a manager.**

One inversion lemma for each call of a manager: what it needs to succeed and what it changes
when it does.  A refused call changes nothing, except that a refused `init` may have asked its
supply for a block.  Proofs about sessions go through these lemmas and never unfold a call.

Main results:

* `RadarIngest.Manager.init_cases`, `RadarIngest.Manager.deinit_eq_ok` — the lifecycle;
* `RadarIngest.Manager.subscribe_eq_ok`, `RadarIngest.Manager.ack_eq_ok`,
  `RadarIngest.Manager.setFillLevel_eq_ok`, `RadarIngest.Manager.readWindow_eq_ok`;
* `RadarIngest.Manager.run_ok`, `RadarIngest.Manager.run_stopped`,
  `RadarIngest.Manager.run_refused` — a run returns after its cycle, stops inside it, or is
  refused before it and changes nothing.
-/

set_option autoImplicit false

namespace RadarIngest

namespace Manager

variable {P : Type} {m m' : Manager P}

/-! ### The lifecycle -/

/-- **Initialization** either succeeds on a manager without a buffer, for sizes with
`0 < fill ≤ size`, installing a zeroed buffer of `size` bytes, or fails; either way only the
supplies may have changed besides. -/
theorem init_cases (m : Manager P) (size fill : Nat) :
    ∃ supplies : List Supply,
      ((m.init size fill).2 ≠ .ok () ∧ (m.init size fill).1 = { m with supplies := supplies }) ∨
      ((m.init size fill).2 = .ok () ∧ m.staging = none ∧ 0 < fill ∧ fill ≤ size ∧
        (m.init size fill).1 =
          { m with
            supplies := supplies
            staging := some (Staging.ofBytes (List.replicate size 0))
            fillLevel := fill
            notified := false }) := by
  unfold init
  split
  · exact ⟨m.supplies, .inl ⟨by simp, rfl⟩⟩
  · split
    · exact ⟨m.supplies, .inl ⟨by simp, rfl⟩⟩
    · rename_i hstaging hsizes
      dsimp only
      split
      · exact ⟨_, .inl ⟨by simp, rfl⟩⟩
      · split
        · exact ⟨_, .inl ⟨by simp, rfl⟩⟩
        · exact ⟨_, .inr ⟨rfl, by simpa using hstaging, by omega, by omega, rfl⟩⟩

/-- **Releasing the buffer** succeeds only with no subscriber counted and a buffer live; it drops
the buffer, the fill level, the notified mark, the thread binding and any pending supply. -/
theorem deinit_eq_ok (h : m.deinit = .ok m') :
    m.registry.active = 0 ∧ m.staging.isSome ∧
      ∃ (supplies : List Supply) (current : Nat),
        m' =
          { m with
            supplies := supplies
            current := current
            pending := none
            staging := none
            fillLevel := 0
            notified := false
            thread := none } := by
  unfold deinit at h
  split at h
  · cases h
  · rename_i hactive
    split at h
    · cases h
    · rename_i s hs
      dsimp only at h
      split at h <;>
      · cases h
        exact ⟨by omega, by simp [hs], _, _, rfl⟩

/-! ### Subscribers -/

/-- A subscription succeeds only while a buffer is live, and it is the registry's. -/
theorem subscribe_eq_ok {c : Consumer} {id : Nat} (h : m.subscribe c = .ok (m', id)) :
    m.staging.isSome ∧ m.registry.subscribe c = .ok (m'.registry, id) ∧
      m' = { m with registry := m'.registry } := by
  unfold subscribe at h
  split at h
  · cases h
  · split at h
    · cases h
    · rename_i hstaging
      obtain ⟨⟨r, i⟩, hsub, h⟩ := Except.bind_eq_ok.1 h
      cases h
      exact ⟨Option.isSome_iff_ne_none.2 (by simpa using hstaging), hsub, rfl⟩

@[simp] theorem registry_unsubscribe (m : Manager P) (id : Nat) :
    (m.unsubscribe id).registry = (m.registry.unsubscribe id).1 := rfl

theorem unsubscribe_eq (m : Manager P) (id : Nat) :
    m.unsubscribe id = { m with registry := (m.registry.unsubscribe id).1 } := rfl

/-- An acknowledgement that succeeds is the registry's. -/
theorem ack_eq_ok {id : Nat} (h : m.ack id = .ok m') :
    m.registry.acknowledge id = .ok m'.registry ∧ m' = { m with registry := m'.registry } := by
  unfold ack at h
  obtain ⟨r, hack, h⟩ := Except.bind_eq_ok.1 h
  cases h
  exact ⟨hack, rfl⟩

/-- An acknowledgement leaves the slot of every other id as it was. -/
theorem slot?_ack_of_ne {k : Nat} (h : m.ack k = .ok m') {id : Nat} (hne : id ≠ k) :
    m'.registry.slot? id = m.registry.slot? id := by
  obtain ⟨hack, -⟩ := ack_eq_ok h
  obtain ⟨s, hs, -, hr⟩ := Registry.acknowledge_eq_ok hack
  exact Registry.slot?_of_set_other (by rw [hr]) (Registry.slot?_eq_some.1 hs).1 hne

/-- A read succeeds only for a registered subscriber with the fill level buffered, and returns
the first fill-level live bytes. -/
theorem readWindow_eq_ok {id : Nat} {w : List UInt8} (h : m.readWindow id = .ok w) :
    m.registry.isRegistered id = true ∧
      ∃ s, m.staging = some s ∧ m.fillLevel ≤ s.buffered ∧ w = s.live.take m.fillLevel := by
  unfold readWindow at h
  split at h
  · cases h
  · split at h
    · cases h
    · rename_i hreg
      split at h
      · rename_i w' hw
        cases h
        cases hs : m.staging with
        | none => simp [hs] at hw
        | some s =>
            rw [hs] at hw
            simp only [Option.bind_some] at hw
            by_cases hfill : m.fillLevel ≤ s.buffered
            · rw [Staging.window_of_le hfill] at hw
              cases hw
              exact ⟨by simpa using hreg, s, rfl, hfill, rfl⟩
            · rw [Staging.window_of_lt (Nat.lt_of_not_le hfill)] at hw
              cases hw
      · cases h

/-- A fill level can be set only while a buffer is live, to a value in `1..=capacity`. -/
theorem setFillLevel_eq_ok {fill : Nat} (h : m.setFillLevel fill = .ok m') :
    ∃ s, m.staging = some s ∧ 0 < fill ∧ fill ≤ s.capacity ∧ m' = { m with fillLevel := fill } := by
  unfold setFillLevel at h
  cases hs : m.staging with
  | none =>
      simp only [hs] at h
      rw [if_pos (by omega)] at h
      cases h
  | some s =>
      simp only [hs] at h
      split at h
      · cases h
      · rename_i hfill
        cases h
        exact ⟨s, rfl, by omega, by omega, rfl⟩

theorem setAllocator_eq (m : Manager P) (i : Nat) :
    m.setAllocator i =
      if m.staging.isSome then { m with pending := some i } else { m with current := i } := rfl

theorem addSupply_eq (m : Manager P) (s : Supply) :
    (m.addSupply s).1 = { m with supplies := m.supplies ++ [s] } := rfl

@[simp] theorem staging_setAllocator (m : Manager P) (i : Nat) :
    (m.setAllocator i).staging = m.staging := by
  rw [setAllocator_eq]
  split <;> rfl

@[simp] theorem fillLevel_setAllocator (m : Manager P) (i : Nat) :
    (m.setAllocator i).fillLevel = m.fillLevel := by
  rw [setAllocator_eq]
  split <;> rfl

@[simp] theorem registry_setAllocator (m : Manager P) (i : Nat) :
    (m.setAllocator i).registry = m.registry := by
  rw [setAllocator_eq]
  split <;> rfl

@[simp] theorem notified_setAllocator (m : Manager P) (i : Nat) :
    (m.setAllocator i).notified = m.notified := by
  rw [setAllocator_eq]
  split <;> rfl

@[simp] theorem thread_setAllocator (m : Manager P) (i : Nat) :
    (m.setAllocator i).thread = m.thread := by
  rw [setAllocator_eq]
  split <;> rfl

/-! ### Runs -/

section Runs

variable [Producer P] {context : WakeContext} {thread : Nat}

/-- A run that returns went through its cycle from the manager bound to its thread. -/
theorem run_ok {report : RunReport} (h : m.run context thread = (m', .ok report)) :
    ∃ s, m.staging = some s ∧ (m.thread = none ∨ m.thread = some thread) ∧
      ({ m with thread := some thread } : Manager P).cycle s context = .ok (m', report) := by
  unfold run at h
  split at h
  · cases h
  · rename_i s hs
    split at h
    · cases h
    · rename_i mb hclaim
      obtain ⟨rfl, hthread⟩ := claimThread_ok hclaim
      split at h
      · rename_i m'' report' hcycle
        cases h
        exact ⟨s, hs, hthread, hcycle⟩
      · cases h

/-- A run that stops stopped inside its cycle, from the manager bound to its thread. -/
theorem run_stopped {p : Panic} (h : m.run context thread = (m', .error (.stopped p))) :
    ∃ s, m.staging = some s ∧ (m.thread = none ∨ m.thread = some thread) ∧
      ({ m with thread := some thread } : Manager P).cycle s context = .error (m', p) := by
  unfold run at h
  split at h
  · cases h
  · rename_i s hs
    split at h
    · cases h
    · rename_i mb hclaim
      obtain ⟨rfl, hthread⟩ := claimThread_ok hclaim
      split at h
      · cases h
      · rename_i m'' p' hcycle
        cases h
        exact ⟨s, hs, hthread, hcycle⟩

/-- A refused run changes nothing: the manager has no buffer, or is bound to another thread. -/
theorem run_refused {e : ManagerError} (h : m.run context thread = (m', .error (.refused e))) :
    m' = m ∧
      ((m.staging = none ∧ e = .notReady .uninitialized) ∨
        (m.staging.isSome ∧ e = .operationBlocked .foreignThread ∧
          ∃ t, m.thread = some t ∧ t ≠ thread)) := by
  unfold run at h
  split at h
  · rename_i hs
    cases h
    exact ⟨rfl, .inl ⟨hs, rfl⟩⟩
  · rename_i s hs
    split at h
    · rename_i e' hclaim
      cases h
      obtain ⟨rfl, hbound⟩ := claimThread_error hclaim
      exact ⟨rfl, .inr ⟨by simp [hs], rfl, hbound⟩⟩
    · split at h <;> cases h

/-- **What a cycle keeps**, whether it returns or stops: the capacity of the buffer and its head
at offset zero, who holds a slot and the subscriber count; and it never raises the count of
overflow resets.  The producer, the buffer's bytes, the registry's flags, the notified mark and
the counters may change. -/
theorem cycle_frame {s : Staging} (hhead : s.head = 0) (hcap : 0 < s.capacity)
    (h : (∃ report, m.cycle s context = .ok (m', report)) ∨
      ∃ p, m.cycle s context = .error (m', p)) :
    ∃ (q : P) (s' : Staging) (reg : Registry) (notified : Bool) (r : Recorder),
      (s'.capacity = s.capacity ∧ s'.head = 0) ∧ reg.holders = m.registry.holders ∧
      reg.active = m.registry.active ∧
      r.snapshot.overflowResets ≤ m.metrics.snapshot.overflowResets ∧
      m' = { m with
        producer := q
        staging := some s'
        registry := reg
        notified := notified
        metrics := r } := by
  -- the three states a cycle can leave: before the wake, after it, after the compaction
  have hshapes : ∃ (q : P) (r : Recorder) (s₁ : Staging),
      (s₁.capacity = s.capacity ∧ s₁.head = 0) ∧
      r.snapshot.overflowResets ≤ m.metrics.snapshot.overflowResets ∧
      (m' = { m with producer := q, staging := some s₁, metrics := r } ∨
        m' = { m with
          producer := q
          staging := some s₁
          registry := m.registry.notifyAll.1
          notified := true
          metrics := r } ∨
        m' = { m with
          producer := q
          staging := some (s₁.compact m.fillLevel)
          registry := m.registry.notifyAll.1.clearAcknowledgements
          notified := false
          metrics := r }) := by
    rcases h with ⟨report, h⟩ | ⟨p, h⟩
    · obtain ⟨q, r, s₁, -, hcap₁, hr, -, -, -, hshape⟩ := cycle_ok hhead hcap h
      refine ⟨q, r, s₁, hcap₁, hr, ?_⟩
      rcases hshape with ⟨-, -, -, -, rfl⟩ | ⟨-, -, -, -, ⟨-, -, rfl⟩ | ⟨-, -, rfl⟩⟩
      · exact .inl rfl
      · exact .inr (.inl rfl)
      · exact .inr (.inr rfl)
    · obtain ⟨q, r, s₁, -, hcap₁, hr, hshape⟩ := cycle_error hhead hcap h
      refine ⟨q, r, s₁, hcap₁, hr, ?_⟩
      rcases hshape with rfl | ⟨-, rfl⟩ | ⟨-, -, rfl⟩
      · exact .inl rfl
      · exact .inr (.inl rfl)
      · exact .inr (.inr rfl)
  obtain ⟨q, r, s₁, hcap₁, hr, rfl | rfl | rfl⟩ := hshapes
  · exact ⟨q, s₁, m.registry, m.notified, r, hcap₁, rfl, rfl, hr, rfl⟩
  · exact ⟨q, s₁, _, true, r, hcap₁, by simp, by simp, hr, rfl⟩
  · exact ⟨q, _, _, false, r, by simp [hcap₁.1], by simp, by simp, hr, rfl⟩

/-- **What a run keeps**, whether it returns, stops or is refused: besides what a cycle keeps,
the fill level and the pending supply; a run that is not refused binds the manager to its
thread. -/
theorem run_frame (hhead : ∀ s, m.staging = some s → s.head = 0)
    (hcap : ∀ s, m.staging = some s → 0 < s.capacity) (context : WakeContext) (thread : Nat) :
    (m.run context thread).1 = m ∨
      ∃ (s s' : Staging) (q : P) (reg : Registry) (notified : Bool) (r : Recorder),
        m.staging = some s ∧ (s'.capacity = s.capacity ∧ s'.head = 0) ∧
        reg.holders = m.registry.holders ∧
        reg.active = m.registry.active ∧
        r.snapshot.overflowResets ≤ m.metrics.snapshot.overflowResets ∧
        (m.run context thread).1 =
          { m with
            producer := q
            staging := some s'
            registry := reg
            notified := notified
            thread := some thread
            metrics := r } := by
  rcases hrun : m.run context thread with ⟨m', (e | p) | report⟩
  · exact .inl (run_refused hrun).1
  · obtain ⟨s, hs, -, hcycle⟩ := run_stopped hrun
    obtain ⟨q, s', reg, b, r, hcap', hholders, hactive, hr, rfl⟩ :=
      cycle_frame (hhead s hs) (hcap s hs) (.inr ⟨p, hcycle⟩)
    exact .inr ⟨s, s', q, reg, b, r, hs, hcap', hholders, hactive, hr, rfl⟩
  · obtain ⟨s, hs, -, hcycle⟩ := run_ok hrun
    obtain ⟨q, s', reg, b, r, hcap', hholders, hactive, hr, rfl⟩ :=
      cycle_frame (hhead s hs) (hcap s hs) (.inl ⟨report, hcycle⟩)
    exact .inr ⟨s, s', q, reg, b, r, hs, hcap', hholders, hactive, hr, rfl⟩

theorem exec_run_fst (m : Manager P) (context : WakeContext) (thread : Nat) :
    (m.exec (.run context thread)).1 = (m.run context thread).1 := by
  simp only [exec]
  split <;> rename_i hrun <;> rw [hrun]

theorem exec_run_of_ok {report : RunReport} (h : m.run context thread = (m', .ok report)) :
    m.exec (.run context thread) = (m', .ran report) := by
  simp only [exec, h]

theorem exec_run_of_refused {e : ManagerError}
    (h : m.run context thread = (m', .error (.refused e))) :
    m.exec (.run context thread) = (m', .refused e) := by
  simp only [exec, h]

theorem exec_run_of_stopped {p : Panic} (h : m.run context thread = (m', .error (.stopped p))) :
    m.exec (.run context thread) = (m', .stopped p) := by
  simp only [exec, h]

theorem exec_deinit_of_ok (h : m.deinit = .ok m') : m.exec .deinit = (m', .done) := by
  simp only [exec, h]

theorem exec_deinit_of_error {e : ManagerError} (h : m.deinit = .error e) :
    m.exec .deinit = (m, .refused e) := by
  simp only [exec, h]

theorem exec_setFillLevel_of_ok {fill : Nat} (h : m.setFillLevel fill = .ok m') :
    m.exec (.setFillLevel fill) = (m', .done) := by
  simp only [exec, h]

theorem exec_setFillLevel_of_error {fill : Nat} {e : ManagerError}
    (h : m.setFillLevel fill = .error e) : m.exec (.setFillLevel fill) = (m, .refused e) := by
  simp only [exec, h]

/-- A call that cannot touch the registry leaves it as it is. -/
theorem registry_exec_of_quiet {op : Op} (h : op.touchesRegistry = false) :
    (m.exec op).1.registry = m.registry := by
  cases op with
  | init size fill =>
      rw [exec_init_fst]
      obtain ⟨supplies, ⟨-, heq⟩ | ⟨-, -, -, -, heq⟩⟩ := init_cases m size fill <;> rw [heq]
  | deinit =>
      simp only [exec]
      split
      · rename_i m' hdeinit
        obtain ⟨-, -, supplies, current, rfl⟩ := deinit_eq_ok hdeinit
        rfl
      · rfl
  | setAllocator supply => simp [exec, addSupply_eq]
  | setSharedAllocator i => simp [exec]
  | read id =>
      simp only [exec]
      split <;> rfl
  | isAcknowledged id => rfl
  | setFillLevel fill =>
      simp only [exec]
      split
      · rename_i m' hset
        obtain ⟨-, -, -, -, rfl⟩ := setFillLevel_eq_ok hset
        rfl
      · rfl
  | subscribe c => cases h
  | unsubscribe id => cases h
  | ack id => cases h
  | take id => cases h
  | run context thread => cases h

/-- A take finds nothing to take, is refused, or reads the window and acknowledges it. -/
theorem exec_take (m : Manager P) (id : Nat) :
    m.exec (.take id) = (m, .done) ∨ (∃ e, m.exec (.take id) = (m, .refused e)) ∨
      ∃ w m', m.registry.isAcknowledged id = false ∧ m.readWindow id = .ok w ∧
        m.ack id = .ok m' ∧ m.exec (.take id) = (m', .window w) := by
  simp only [exec]
  split
  · exact .inl rfl
  · rename_i hfresh
    split
    · rename_i w hread
      split
      · rename_i m' hack
        exact .inr (.inr ⟨w, m', by simpa using hfresh, hread, hack, rfl⟩)
      · exact .inr (.inl ⟨_, rfl⟩)
    · exact .inl rfl
    · exact .inr (.inl ⟨_, rfl⟩)

/-- **A subscriber's own call changes nothing but the registry.** -/
theorem exec_of_bySubscriber {op : Op} (h : op.bySubscriber = true) :
    (m.exec op).1 = { m with registry := (m.exec op).1.registry } := by
  cases op with
  | subscribe c =>
      simp only [exec]
      split
      · exact (subscribe_eq_ok ‹_›).2.2
      · rfl
  | unsubscribe id => rfl
  | read id =>
      simp only [exec]
      split <;> rfl
  | ack id =>
      simp only [exec]
      split
      · exact (ack_eq_ok ‹_›).2
      · rfl
  | isAcknowledged id => rfl
  | take id =>
      rcases exec_take m id with htake | ⟨e, htake⟩ | ⟨w, m', -, -, hack, htake⟩ <;> rw [htake]
      exact (ack_eq_ok hack).2
  | init size fill => cases h
  | deinit => cases h
  | setAllocator supply => cases h
  | setSharedAllocator i => cases h
  | run context thread => cases h
  | setFillLevel fill => cases h

/-- Only a run that returns answers with a report. -/
theorem exec_eq_ran {op : Op} {report : RunReport} (h : (m.exec op).2 = .ran report) :
    ∃ context thread, op = .run context thread ∧
      m.run context thread = ((m.exec op).1, .ok report) := by
  cases op
  case run context thread =>
    refine ⟨context, thread, rfl, ?_⟩
    rcases hrun : m.run context thread with ⟨m', (e | p) | report'⟩
    · rw [exec_run_of_refused hrun] at h
      cases h
    · rw [exec_run_of_stopped hrun] at h
      cases h
    · rw [exec_run_of_ok hrun] at h ⊢
      cases h
      rfl
  case take id =>
    rcases exec_take m id with htake | ⟨e, htake⟩ | ⟨w, m', -, -, -, htake⟩ <;>
      rw [htake] at h <;> cases h
  -- every other call answers with a constant, or after a `match` on what it called
  all_goals simp only [exec, reduceCtorEq] at h
  all_goals split at h <;> cases h

/-- A step of a session that answered with a report is a run that returned, made from the step's
state. -/
theorem run_of_mem_steps {ops : List Op} {st : Step P} (hmem : st ∈ m.steps ops)
    {report : RunReport} (hran : st.outcome = .ran report) :
    ∃ context thread, st.op = .run context thread ∧
      st.pre.run context thread = (st.post, .ok report) := by
  have hst := eq_stepOf_of_mem_steps hmem
  have hout : (st.pre.exec st.op).2 = .ran report := by rw [← stepOf_outcome, ← hst]; exact hran
  obtain ⟨context, thread, hop, hrun⟩ := exec_eq_ran hout
  rw [← stepOf_post, ← hst] at hrun
  exact ⟨context, thread, hop, hrun⟩

/-- Only a run that stops answers with a stop. -/
theorem exec_eq_stopped {op : Op} {p : Panic} (h : (m.exec op).2 = .stopped p) :
    ∃ context thread, op = .run context thread ∧
      m.run context thread = ((m.exec op).1, .error (.stopped p)) := by
  cases op
  case run context thread =>
    refine ⟨context, thread, rfl, ?_⟩
    rcases hrun : m.run context thread with ⟨m', (e | p') | report⟩
    · rw [exec_run_of_refused hrun] at h
      cases h
    · rw [exec_run_of_stopped hrun] at h ⊢
      cases h
      rfl
    · rw [exec_run_of_ok hrun] at h
      cases h
  case take id =>
    rcases exec_take m id with htake | ⟨e, htake⟩ | ⟨w, m', -, -, -, htake⟩ <;>
      rw [htake] at h <;> cases h
  -- every other call answers with a constant, or after a `match` on what it called
  all_goals simp only [exec, reduceCtorEq] at h
  all_goals split at h <;> cases h

/-- Only a read or a take that succeeds answers with a window: the window read from the state
before it.  A read changes nothing; a take acknowledges the window. -/
theorem exec_eq_window {op : Op} {w : List UInt8} (h : (m.exec op).2 = .window w) :
    ∃ id, m.readWindow id = .ok w ∧
      ((op = .read id ∧ (m.exec op).1 = m) ∨
        (op = .take id ∧ m.registry.isAcknowledged id = false ∧ m.ack id = .ok (m.exec op).1)) := by
  cases op
  case read id =>
    have hsame : (m.exec (.read id)).1 = m := by
      simp only [exec]
      split <;> rfl
    simp only [exec] at h
    split at h
    · rename_i w' hread
      cases h
      exact ⟨id, hread, .inl ⟨rfl, hsame⟩⟩
    · cases h
  case take id =>
    rcases exec_take m id with htake | ⟨e, htake⟩ | ⟨w', m', hfresh, hread, hack, htake⟩ <;>
      rw [htake] at h ⊢
    · cases h
    · cases h
    · cases h
      exact ⟨id, hread, .inr ⟨rfl, hfresh, hack⟩⟩
  case run context thread =>
    rcases hrun : m.run context thread with ⟨m', (e | p) | report⟩
    · rw [exec_run_of_refused hrun] at h
      cases h
    · rw [exec_run_of_stopped hrun] at h
      cases h
    · rw [exec_run_of_ok hrun] at h
      cases h
  -- every other call answers with a constant, or after a `match` on what it called
  all_goals simp only [exec, reduceCtorEq] at h
  all_goals split at h <;> cases h

end Runs

end Manager

end RadarIngest
