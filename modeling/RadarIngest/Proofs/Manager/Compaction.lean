import RadarIngest.Proofs.Manager.Queue

/-!
**When a run compacts.**

A run that reaches the fill level compacts exactly when every subscriber registered at that
moment has *settled* the window: since the later of the subscription that gave it its slot and
the last compaction, its slot was acknowledged (by an `ack` or a take) or a wake of its callback
consumed a window, this run's own wakes included.  A compaction removes one window and clears
every acknowledgement and every consumed flag.

The flags that decide this are written on four paths (acknowledgements, wakes of callbacks, fresh
subscriptions, unsubscriptions) and cleared only by compactions.  The proof keeps a log of what
each step did to the subscribers' standing (`RadarIngest.Step.events`) and shows that along every
session the flag of each occupied slot is what the log says (`RadarIngest.Manager.Tracked`).
Every call moves the slots in one of six ways (`RadarIngest.SlotsMove`), so the flags are
carried along one move at a time.

Main definitions:

* `RadarIngest.WindowEvent`, `RadarIngest.Step.events` — the log of a session;
* `RadarIngest.Settled` — a subscriber has settled the window, read off the log;
* `RadarIngest.SlotsMove` — what one call does to the slots, with the events it logs.

Main results:

* `RadarIngest.Manager.slotsMove_exec` — every call that returns makes one move of the slots;
* `RadarIngest.SlotsMove.acknowledged_follows`, `RadarIngest.Manager.Tracked.step` — every call
  that returns keeps the flags in step with the log;
* `RadarIngest.Manager.compacts_iff_settled` — **a run compacts exactly when it reaches the fill
  level and every registered subscriber has settled the window; it then removes one window and
  clears every flag**.
-/

set_option autoImplicit false

namespace RadarIngest

/-- What a step did to a subscriber's standing towards the current window. -/
inductive WindowEvent where
  /-- The consumer took a free slot. -/
  | took (c : Consumer)
  /-- The consumer's slot was acknowledged, by an `ack` or a take. -/
  | acked (c : Consumer)
  /-- A wake of the consumer's callback consumed the window. -/
  | consumed (c : Consumer)
  /-- A run compacted the window away. -/
  | compacted
  deriving DecidableEq

/-- **`c` has settled the window** in the log: since the later of its last fresh subscription and
the last compaction, its slot was acknowledged or its callback consumed a window. -/
def Settled (log : List WindowEvent) (c : Consumer) : Prop :=
  ∃ pre e post, log = pre ++ e :: post ∧ (e = .acked c ∨ e = .consumed c) ∧
    .compacted ∉ post ∧ .took c ∉ post

namespace Settled

variable {c : Consumer} {log l : List WindowEvent}

/-- In a log with no compaction and no fresh subscription of `c`, `c` has settled the window
exactly when its slot was acknowledged or its callback consumed a window. -/
theorem iff_mem (hl : ∀ e ∈ l, e ≠ .compacted ∧ e ≠ .took c) :
    Settled l c ↔ .acked c ∈ l ∨ .consumed c ∈ l := by
  constructor
  · rintro ⟨pre, e, post, rfl, rfl | rfl, -, -⟩ <;> simp
  · -- the event settling `c` is followed by part of `l`, which holds no reset
    have hpost : ∀ e pre post, l = pre ++ e :: post → .compacted ∉ post ∧ .took c ∉ post := by
      intro e pre post hsplit
      have hsub : ∀ x ∈ post, x ∈ l := fun x hx => by rw [hsplit]; simp [hx]
      exact ⟨fun hmem => (hl _ (hsub _ hmem)).1 rfl, fun hmem => (hl _ (hsub _ hmem)).2 rfl⟩
    rintro (hmem | hmem) <;> obtain ⟨pre, post, hsplit⟩ := List.append_of_mem hmem
    · exact ⟨pre, _, post, hsplit, .inl rfl, hpost _ pre post hsplit⟩
    · exact ⟨pre, _, post, hsplit, .inr rfl, hpost _ pre post hsplit⟩

/-- **What `c` settled in a log extended by `l`**: it settled the window in `l`, or before `l`,
which neither compacts nor subscribes `c` afresh. -/
theorem append :
    Settled (log ++ l) c ↔ Settled l c ∨ (Settled log c ∧ .compacted ∉ l ∧ .took c ∉ l) := by
  constructor
  · rintro ⟨pre, e, post, hsplit, he, hcomp, htook⟩
    rcases List.append_eq_append_iff.1 hsplit with ⟨a, rfl, hl⟩ | ⟨b, hlog, hrest⟩
    · -- the settling event lies in `l`
      exact .inl ⟨a, e, post, hl, he, hcomp, htook⟩
    · cases b with
      | nil =>
          simp only [List.nil_append] at hrest
          exact .inl ⟨[], e, post, by simp [hrest], he, hcomp, htook⟩
      | cons e' b =>
          -- the settling event lies in `log`, and all of `l` follows it
          obtain ⟨rfl, rfl⟩ := List.cons.inj hrest
          refine .inr ⟨⟨pre, e, b, hlog, he, fun h => hcomp (by simp [h]),
            fun h => htook (by simp [h])⟩, fun h => hcomp (by simp [h]),
            fun h => htook (by simp [h])⟩
  · rintro (⟨pre, e, post, rfl, he, hcomp, htook⟩ |
      ⟨⟨pre, e, post, rfl, he, hcomp, htook⟩, hl₁, hl₂⟩)
    · exact ⟨log ++ pre, e, post, by simp, he, hcomp, htook⟩
    · exact ⟨pre, e, post ++ l, by simp, he, by simp [hcomp, hl₁], by simp [htook, hl₂]⟩

/-- Events that neither settle nor reset `c` leave its standing as it was. -/
theorem append_quiet
    (hl : ∀ e ∈ l, e ≠ .acked c ∧ e ≠ .consumed c ∧ e ≠ .compacted ∧ e ≠ .took c) :
    Settled (log ++ l) c ↔ Settled log c := by
  have hnone : ¬ Settled l c := by
    rw [iff_mem fun e he => ⟨(hl e he).2.2.1, (hl e he).2.2.2⟩]
    rintro (hmem | hmem)
    · exact (hl _ hmem).1 rfl
    · exact (hl _ hmem).2.1 rfl
  rw [append]
  constructor
  · rintro (h | ⟨h, -⟩)
    · exact absurd h hnone
    · exact h
  · intro h
    exact .inr ⟨h, fun hmem => (hl _ hmem).2.2.1 rfl, fun hmem => (hl _ hmem).2.2.2 rfl⟩

/-- An acknowledgement settles the window. -/
theorem append_acked : Settled (log ++ [.acked c]) c :=
  append.2 (.inl ⟨[], _, [], rfl, .inl rfl, by simp, by simp⟩)

/-- A fresh subscription leaves the window unsettled. -/
theorem not_append_took : ¬ Settled (log ++ [.took c]) c := by
  rw [append]
  rintro (⟨pre, e, post, hsplit, he, -, -⟩ | ⟨-, -, h⟩)
  · -- the only event is the subscription
    obtain ⟨rfl, rfl⟩ : pre = [] ∧ e = .took c := by
      cases pre with
      | nil => exact ⟨rfl, (List.cons.inj hsplit).1.symm⟩
      | cons _ pre => simp at hsplit
    rcases he with h | h <;> cases h
  · exact h (by simp)

/-- A compaction leaves the window unsettled. -/
theorem not_append_compacted : ¬ Settled (log ++ [.compacted]) c := by
  rw [append]
  rintro (⟨pre, e, post, hsplit, he, -, -⟩ | ⟨-, h, -⟩)
  · obtain ⟨rfl, rfl⟩ : pre = [] ∧ e = .compacted := by
      cases pre with
      | nil => exact ⟨rfl, (List.cons.inj hsplit).1.symm⟩
      | cons _ pre => simp at hsplit
    rcases he with h | h <;> cases h
  · exact h (by simp)

end Settled

/-- The windows a wake consumed: one for each callback among the consumers it woke. -/
def WindowEvent.consumptions (woken : List Consumer) : List WindowEvent :=
  (woken.filter (·.consumesOnWake)).map .consumed

namespace Step

variable {P : Type} [Producer P]

/-- What a step did to the subscribers' standing: a subscription that took a free slot, an
acknowledgement or a take that raised a flag, and the consumptions and compaction of a run. -/
def events (st : Step P) : List WindowEvent :=
  match st.op, st.outcome with
  | .subscribe c, .id i => if st.pre.registry.isRegistered i then [] else [.took c]
  | .ack i, .done => (st.pre.registry.holder? i).toList.map .acked
  | .take i, .window _ => (st.pre.registry.holder? i).toList.map .acked
  | .run _ _, .ran report =>
    WindowEvent.consumptions report.woken ++ if report.compacted then [.compacted] else []
  | _, _ => []

end Step

/-- **What one call does to the slots**, with the events it logs. -/
inductive SlotsMove : Registry → Registry → List WindowEvent → Prop
  /-- The slots as they were, and nothing logged. -/
  | quiet (r : Registry) : SlotsMove r r []
  /-- A consumer that holds no slot takes a free one, with both flags down. -/
  | took {r : Registry} {c : Consumer} {i : Nat}
      (hnew : ∀ s ∈ r.slots, s.holder.any (·.same c) = false) (hi : i < r.slots.length) :
      SlotsMove r ⟨r.slots.set i ⟨some c, false, false⟩, r.active + 1⟩ [.took c]
  /-- An occupied slot is freed. -/
  | freed {r : Registry} {id : Nat} {s : Slot} {c : Consumer} (hs : r.slot? id = some s)
      (hc : s.holder = some c) : SlotsMove r ⟨r.slots.set (id - 1) {}, r.active - 1⟩ []
  /-- An occupied slot is acknowledged, by an `ack` or a take. -/
  | acked {r : Registry} {id : Nat} {s : Slot} {c : Consumer} (hs : r.slot? id = some s)
      (hc : s.holder = some c) :
      SlotsMove r { r with slots := r.slots.set (id - 1) { s with acknowledged := true } }
        [.acked c]
  /-- A run's wake. -/
  | woke (r : Registry) : SlotsMove r r.notifyAll.1 (WindowEvent.consumptions r.notifyAll.2)
  /-- A run's wake, then the compaction that clears every flag. -/
  | compacted (r : Registry) :
      SlotsMove r r.notifyAll.1.clearAcknowledgements
        (WindowEvent.consumptions r.notifyAll.2 ++ [.compacted])

/-- The acknowledged flag of every occupied slot of `r` is what the log says. -/
def AcknowledgedFollows (r : Registry) (log : List WindowEvent) : Prop :=
  ∀ id s c, r.slot? id = some s → s.holder = some c → (s.acknowledged = true ↔ Settled log c)

/-- **After a wake** the slot of a subscriber is acknowledged exactly when the subscriber has
settled the window, counting the windows this wake consumed: a callback's wake consumes the
window exactly when its slot had not consumed it. -/
theorem AcknowledgedFollows.wake_iff {r : Registry} {log : List WindowEvent}
    (hf : AcknowledgedFollows r log) (hd : r.Distinct) {id : Nat} {s : Slot} {c : Consumer}
    (hs : r.slot? id = some s) (hc : s.holder = some c) :
    (Registry.wakeSlot s).1.acknowledged = true ↔
      Settled (log ++ WindowEvent.consumptions r.notifyAll.2) c := by
  have hwake : Settled (WindowEvent.consumptions r.notifyAll.2) c ↔
      s.consumed = false ∧ c.consumesOnWake = true := by
    have hquiet : ∀ e ∈ WindowEvent.consumptions r.notifyAll.2, e ≠ .compacted ∧ e ≠ .took c := by
      intro e he
      obtain ⟨x, -, rfl⟩ := List.mem_map.1 he
      simp
    rw [Settled.iff_mem hquiet, ← Registry.mem_woken_iff_slot? hd hs hc]
    simp [WindowEvent.consumptions]
  rw [Settled.append, hwake, ← hf id s c hs hc]
  cases ha : s.acknowledged <;> cases hk : s.consumed <;>
    simp [WindowEvent.consumptions, hc, ha, hk]

namespace SlotsMove

variable {r r' : Registry} {ev log : List WindowEvent}

/-- **Each move keeps the acknowledged flags in step with the log.**  An acknowledgement settles
the window for its holder and nobody else; a fresh subscription leaves it unsettled for its
consumer; a wake settles it for every callback it reaches; a compaction clears every flag. -/
theorem acknowledged_follows (hmove : SlotsMove r r' ev) (hd : r.Distinct)
    (hf : AcknowledgedFollows r log) : AcknowledgedFollows r' (log ++ ev) := by
  intro id s c hs hc
  cases hmove with
  | quiet => simpa using hf id s c hs hc
  | @took c' i hnew hi =>
      rcases Registry.slot?_set_cases hi _ _ hs with ⟨-, rfl⟩ | ⟨-, hs₀⟩
      · -- the slot taken: both flags down, and its consumer has not settled the window
        cases hc
        exact iff_of_false (by simp) Settled.not_append_took
      · -- another slot is as it was, and holds another consumer
        have hne : c' ≠ c :=
          Registry.ne_holder_of_unheld hnew (Registry.mem_of_slot?_eq_some hs₀) hc
        rw [Settled.append_quiet (by simp [hne])]
        exact hf id s c hs₀ hc
  | @freed id' s' c' hs' hc' =>
      rcases Registry.slot?_set_cases (Registry.index_lt_of_slot? hs') _ _ hs with
        ⟨-, rfl⟩ | ⟨-, hs₀⟩
      · -- the slot freed holds nobody
        cases hc
      · simpa using hf id s c hs₀ hc
  | @acked id' s' c' hs' hc' =>
      rcases Registry.slot?_set_cases (Registry.index_lt_of_slot? hs') _ _ hs with
        ⟨-, rfl⟩ | ⟨hid, hs₀⟩
      · -- the slot acknowledged: its flag is up, and its holder has just settled the window
        obtain rfl : c = c' := Option.some.inj (hc.symm.trans hc')
        exact iff_of_true rfl Settled.append_acked
      · -- another slot keeps its flag, and its holder is not the one acknowledged
        have hne : c' ≠ c := hd.holder_ne hs' hs₀ hc' hc
          (by have := (Registry.slot?_eq_some.1 hs').1; omega)
        rw [Settled.append_quiet (by simp [hne])]
        exact hf id s c hs₀ hc
  | woke =>
      -- each flag is what the wake made it
      rw [Registry.slot?_notifyAll] at hs
      obtain ⟨s₀, hs₀, rfl⟩ := Option.map_eq_some_iff.1 hs
      rw [Registry.holder_wakeSlot] at hc
      exact hf.wake_iff hd hs₀ hc
  | compacted =>
      -- a compaction clears every flag, and the log ends with it
      rw [Registry.slot?_clearAcknowledgements] at hs
      obtain ⟨s₀, -, rfl⟩ := Option.map_eq_some_iff.1 hs
      rw [← List.append_assoc]
      exact iff_of_false (by simp) Settled.not_append_compacted

end SlotsMove

namespace Manager

section Moves

variable {P : Type} [Producer P] {m m' : Manager P}

omit [Producer P] in
/-- An acknowledgement that succeeds, by an `ack` or a take, moves the slots by one
acknowledgement. -/
theorem slotsMove_of_ack {k : Nat} (hack : m.ack k = .ok m') :
    SlotsMove m.registry m'.registry ((m.registry.holder? k).toList.map .acked) := by
  obtain ⟨hackr, -⟩ := ack_eq_ok hack
  obtain ⟨sk, hsk, hheld, hr⟩ := Registry.acknowledge_eq_ok hackr
  obtain ⟨ck, hck⟩ := Option.isSome_iff_exists.1 hheld
  have hev : (m.registry.holder? k).toList.map WindowEvent.acked = [.acked ck] := by
    simp [Registry.holder?, hsk, hck]
  rw [hev, hr]
  exact .acked hsk hck

/-- **Every call that returns makes one move of the slots**, and logs that move's events. -/
theorem slotsMove_exec (hm : m.Consistent) (op : Op) (hgo : (m.exec op).2.stops = false) :
    SlotsMove m.registry (m.exec op).1.registry (m.stepOf op).events := by
  cases op
  case subscribe c' =>
      rcases hsub : m.subscribe c' with e | ⟨m₁, i⟩
      · have hexec : m.exec (.subscribe c') = (m, .refused e) := by simp only [exec, hsub]
        rw [stepOf_eq hexec, hexec]
        exact .quiet _
      · have hexec : m.exec (.subscribe c') = (m₁, .id i) := by simp only [exec, hsub]
        obtain ⟨-, hreg, -⟩ := subscribe_eq_ok hsub
        rw [stepOf_eq hexec, hexec]
        obtain ⟨-, ⟨k, hk, hsame, rfl, hr⟩ | ⟨hnew, k, hk, hfree, -, rfl, hr⟩⟩ :=
          Registry.subscribe_eq_ok hreg
        · -- already subscribed: the slots as they were, and nothing logged
          have hheld : m.registry.isRegistered (k + 1) = true := by
            cases hh : m.registry.slots[k].holder with
            | none => simp [hh] at hsame
            | some d => simp [Registry.isRegistered, Registry.slot?, hk, hh]
          simp only [Step.events, hheld, if_true, hr]
          exact .quiet _
        · -- a fresh slot, logged as taken
          have hunheld : m.registry.isRegistered (k + 1) = false := by
            simp [Registry.isRegistered, Registry.slot?, hk, hfree]
          simp only [Step.events, hunheld, Bool.false_eq_true, if_false, hr]
          exact .took hnew hk
  case unsubscribe id' =>
      have hev : (m.stepOf (.unsubscribe id')).events = [] := rfl
      rw [hev]
      simp only [exec, registry_unsubscribe]
      rcases Registry.unsubscribe_cases m.registry id' with hsame | ⟨c', a, b, -, hslot', hfreed⟩
      · rw [hsame]
        exact .quiet _
      · rw [hfreed]
        exact .freed hslot' rfl
  case ack id' =>
      rcases hok : m.ack id' with e | m₁
      · have hexec : m.exec (.ack id') = (m, .refused e) := by simp only [exec, hok]
        rw [stepOf_eq hexec, hexec]
        exact .quiet _
      · have hexec : m.exec (.ack id') = (m₁, .done) := by simp only [exec, hok]
        rw [stepOf_eq hexec, hexec]
        exact slotsMove_of_ack hok
  case take id' =>
      rcases exec_take m id' with hexec | ⟨e, hexec⟩ | ⟨w, m₁, -, -, hok, hexec⟩
      · rw [stepOf_eq hexec, hexec]
        exact .quiet _
      · rw [stepOf_eq hexec, hexec]
        exact .quiet _
      · rw [stepOf_eq hexec, hexec]
        exact slotsMove_of_ack hok
  case run context thread =>
      rcases hrun : m.run context thread with ⟨m₁, (e | p) | report⟩
      · obtain ⟨rfl, -⟩ := run_refused hrun
        have hexec := exec_run_of_refused hrun
        rw [stepOf_eq hexec, hexec]
        exact .quiet _
      · rw [exec_run_of_stopped hrun] at hgo
        cases hgo
      · have hexec := exec_run_of_ok hrun
        rw [stepOf_eq hexec, hexec]
        simp only [Step.events]
        obtain ⟨-, -, hcases⟩ := run_ok_cases hm.live hrun
        rcases hcases with ⟨-, hwoken, hcomp, hreg, -⟩ | ⟨-, hwoken, -, hcomp, hreg, -⟩
        · -- below the fill level: nobody woken, nothing compacted
          simp only [hwoken, hcomp, hreg, WindowEvent.consumptions, List.filter_nil,
            List.map_nil, Bool.false_eq_true, if_false, List.append_nil]
          exact .quiet _
        · rw [hwoken, hreg]
          cases report.compacted
          · simp only [Bool.false_eq_true, if_false, List.append_nil]
            exact .woke _
          · simp only [if_true]
            exact .compacted _
  -- the other calls never touch the slots, and log nothing
  all_goals
    rw [show (m.stepOf _).events = [] from rfl, registry_exec_of_quiet rfl]
    exact .quiet _

end Moves

variable {P : Type} {m m' : Manager P}

/-- **The flags follow the log**: the manager is consistent, and the slot of every subscriber is
acknowledged exactly when the subscriber has settled the window in the log of the steps `h`. -/
structure Tracked (h : List (Step P)) (m : Manager P) : Prop where
  consistent : m.Consistent
  flags : ∀ id s c, m.registry.slot? id = some s → s.holder = some c →
    (s.acknowledged = true ↔ Settled (h.flatMap Step.events) c)

namespace Tracked

variable {h : List (Step P)}

/-- A consistent manager without subscribers starts a log. -/
theorem start (hm : m.Consistent) (hfree : m.registry.occupied = 0) : Tracked [] m := by
  refine ⟨hm, fun id s c hs hc => ?_⟩
  have := Registry.occupied_eq_zero.1 hfree s (Registry.mem_of_slot?_eq_some hs)
  rw [hc] at this
  cases this

/-! ### Wakes -/

/-- **After a run's wake** the slot of a subscriber is acknowledged exactly when the subscriber
has settled the window, counting the windows this wake consumed. -/
theorem wake_acknowledged_iff (ht : Tracked h m) {id : Nat} {s : Slot} {c : Consumer}
    (hs : m.registry.slot? id = some s) (hc : s.holder = some c) :
    (Registry.wakeSlot s).1.acknowledged = true ↔
      Settled (h.flatMap Step.events ++ WindowEvent.consumptions m.registry.notifyAll.2) c :=
  AcknowledgedFollows.wake_iff ht.flags ht.consistent.distinct hs hc

/-- **Every registered subscriber is acknowledged after a run's wake** exactly when each has
settled the window, counting the windows the wake consumed. -/
theorem allAcknowledged_notifyAll_iff (ht : Tracked h m) :
    m.registry.notifyAll.1.allAcknowledged = true ↔
      ∀ c, some c ∈ m.registry.holders →
        Settled (h.flatMap Step.events ++ WindowEvent.consumptions m.registry.notifyAll.2) c := by
  constructor
  · intro hall c hc
    obtain ⟨id, s, hs, hcs⟩ := Registry.mem_holders_iff.1 hc
    refine (ht.wake_acknowledged_iff hs hcs).1 ?_
    exact Registry.acknowledged_of_allAcknowledged hall
      (by rw [Registry.slot?_notifyAll, hs]; rfl)
      (show (Registry.wakeSlot s).1.holder = some c by simp [hcs])
  · intro hsettled
    refine Registry.allAcknowledged_iff_slot?.2 fun id s c hs hc => ?_
    rw [Registry.slot?_notifyAll] at hs
    obtain ⟨s₀, hs₀, rfl⟩ := Option.map_eq_some_iff.1 hs
    rw [Registry.holder_wakeSlot] at hc
    exact (ht.wake_acknowledged_iff hs₀ hc).2
      (hsettled c (Registry.mem_holders_iff.2 ⟨id, s₀, hs₀, hc⟩))

/-! ### Every call -/

/-- **Every call that returns keeps the flags in step with the log.** -/
theorem step [Producer P] (ht : Tracked h m) {op : Op} (hgo : (m.exec op).2.stops = false) :
    Tracked (h ++ [m.stepOf op]) (m.exec op).1 := by
  refine ⟨ht.consistent.exec op, ?_⟩
  rw [List.flatMap_append, List.flatMap_singleton]
  exact (slotsMove_exec ht.consistent op hgo).acknowledged_follows ht.consistent.distinct ht.flags

end Tracked

/-! ### Sessions -/

variable [Producer P]

/-- **When a run compacts.**  Along a session from a consistent manager without subscribers, a
run that returns compacts exactly when, with its producer's bytes, the fill level is buffered and
every subscriber then registered has settled the window, by the steps before the run and this
run's own wakes.  A run that compacts removes one window, the first fill-level bytes, and clears
every acknowledgement and every consumed flag. -/
theorem compacts_iff_settled (hm : m.Consistent) (hfree : m.registry.occupied = 0) {ops : List Op}
    {before : List (Step P)} {st : Step P} {rest : List (Step P)}
    (hsplit : m.steps ops = before ++ st :: rest) {report : RunReport}
    (hran : st.outcome = .ran report) :
    (report.compacted = true ↔
      st.pre.fillLevel ≤ (st.pre.live ++ st.pre.delivered).length ∧
        ∀ c, some c ∈ st.pre.registry.holders →
          Settled (before.flatMap Step.events ++ WindowEvent.consumptions report.woken) c) ∧
    (report.compacted = true →
      st.post.live = (st.pre.live ++ st.pre.delivered).drop st.pre.fillLevel ∧
        ∀ s ∈ st.post.registry.slots, s.acknowledged = false ∧ s.consumed = false) := by
  -- the flags follow the log up to the run
  have ht : Tracked before st.pre := by
    simpa using history_invariant Tracked (fun _ _ _ _ ht hgo => ht.step hgo)
      (Tracked.start hm hfree) hsplit
  -- the step is a run from its state
  obtain ⟨context, thread, -, hrun⟩ :=
    run_of_mem_steps (show st ∈ m.steps ops by simp [hsplit]) hran
  obtain ⟨-, -, hcases⟩ := run_ok_cases ht.consistent.live hrun
  rcases hcases with ⟨hbelow, -, hcomp, -, -⟩ | ⟨hfill, hwoken, -, hcomp, hreg, hlive⟩
  · -- below the fill level a run never compacts
    rw [hcomp]
    exact ⟨iff_of_false (by simp) (fun h => absurd h.1 (by omega)), by simp⟩
  · -- at the fill level it compacts exactly when every slot is acknowledged after the wake
    refine ⟨?_, fun hc => ?_⟩
    · rw [hcomp, ht.allAcknowledged_notifyAll_iff, hwoken]
      exact ⟨fun h => ⟨hfill, h⟩, fun h => h.2⟩
    · simp only [hc, if_true] at hreg hlive
      refine ⟨hlive, fun s hs => ?_⟩
      rw [hreg] at hs
      simp only [Registry.clearAcknowledgements, List.mem_map] at hs
      obtain ⟨s₀, -, rfl⟩ := hs
      exact ⟨rfl, rfl⟩

/-- A callback alone on a manager settles every window it is woken with: its first run compacts. -/
theorem compacts_iff_settled_scripted :
    let m := withSlots (Script.feed {} [1, 2]) 1
    let d : Consumer := ⟨"s", 1, .callback⟩
    let m₁ := (m.exec (.init 4 2)).1
    let m₂ := (m₁.exec (.subscribe d)).1
    let st := m₂.stepOf (.run .task 0)
    let report : RunReport :=
      { ingested := 2, notified := 1, compacted := true, woken := [d], window := [1, 2] }
    (report.compacted = true ↔
      st.pre.fillLevel ≤ (st.pre.live ++ st.pre.delivered).length ∧
        ∀ c, some c ∈ st.pre.registry.holders →
          Settled ([m.stepOf (.init 4 2), m₁.stepOf (.subscribe d)].flatMap Step.events ++
            WindowEvent.consumptions report.woken) c) ∧
    (report.compacted = true →
      st.post.live = (st.pre.live ++ st.pre.delivered).drop st.pre.fillLevel ∧
        ∀ s ∈ st.post.registry.slots, s.acknowledged = false ∧ s.consumed = false) :=
  compacts_iff_settled (Consistent.withSlots _ 1) rfl
    (show (withSlots (Script.feed {} [1, 2]) 1).steps
        [.init 4 2, .subscribe ⟨"s", 1, .callback⟩, .run .task 0] = _ ++ _ :: [] from rfl) rfl

end Manager

end RadarIngest
