import RadarIngest.Proofs.Manager.Consistency
import RadarIngest.Bench.Session

/-!
**The manager as a FIFO byte queue.**

Seen through its live bytes, a manager is a queue: a run appends what its producer delivered and
may then remove one window, the first fill-level bytes, from the front; no other call touches the
live bytes while the buffer is kept.  Counting from a successful `init`, what the compactions
removed followed by what is live is exactly what the producers delivered, after every call.

A run whose producer fails or over-reports delivers nothing, but it does not skip the rest of its
cycle: when the live bytes already hold a window that every subscriber has acknowledged, that run
compacts it (`RadarIngest.Manager.failed_read_run_compacts`).  Such a run changes the live bytes
by its compaction only.

Main definitions:

* `RadarIngest.Step.accepted`, `RadarIngest.Step.removed` — what a step added at the back of the
  live bytes and took from their front;
* `RadarIngest.Step.Queues`, `RadarIngest.Manager.FifoQueue` — the queue discipline of one step and
  of a session.

Main results:

* `RadarIngest.Manager.run_ok_cases` — what a run that returns does to the live bytes, the
  registry and its report;
* `RadarIngest.Manager.live_run_ok`, `RadarIngest.Manager.live_run_stopped` — what a run does to
  the live bytes;
* `RadarIngest.Manager.queues_stepOf` — one step keeps the discipline;
* `RadarIngest.Manager.steps_balance` — a whole session balances;
* `RadarIngest.Manager.fifo_queue_after_init` — **after a successful `init` the manager is a FIFO
  byte queue**.
-/

set_option autoImplicit false

namespace RadarIngest

namespace Step

variable {P : Type} [Producer P]

/-- The bytes a step accepted into the live data: what the producer delivered to a run that was
carried out, whether it returned or stopped; nothing for any other call. -/
def accepted (st : Step P) : List UInt8 :=
  match st.outcome with
  | .ran _ | .stopped _ => st.pre.delivered
  | _ => []

/-- The bytes a step removed from the front of the live data: the front of the live bytes before
it followed by what it accepted, as far as the live bytes after it are shorter. -/
def removed (st : Step P) : List UInt8 :=
  (st.pre.live ++ st.accepted).take ((st.pre.live ++ st.accepted).length - st.post.live.length)

theorem removed_of_drop (st : Step P) {j : Nat}
    (h : st.post.live = (st.pre.live ++ st.accepted).drop j) :
    st.removed = (st.pre.live ++ st.accepted).take j := by
  unfold removed
  rw [h, List.length_drop, List.take_eq_take_iff]
  omega

/-- The queue discipline of one step. -/
structure Queues (st : Step P) : Prop where
  /-- What was live, then what was accepted, is what was removed, then what is live. -/
  balance : st.pre.live ++ st.accepted = st.removed ++ st.post.live
  /-- A step removes nothing, or the first fill-level bytes of what was there to remove. -/
  removes_window : st.removed = [] ∨
    (st.removed = (st.pre.live ++ st.accepted).take st.pre.fillLevel ∧
      st.pre.fillLevel ≤ (st.pre.live ++ st.accepted).length)
  /-- A run that returns removes a window exactly when it reports a compaction, hands its wakers
  the first window of what it held, and accepts nothing from a failed or over-reported read. -/
  runs : ∀ report, st.outcome = .ran report →
    (report.compacted = true ↔ st.removed ≠ []) ∧
      (report.woken ≠ [] → report.window = (st.pre.live ++ st.accepted).take st.pre.fillLevel) ∧
      (report.producerFailed = true ∨ report.anomaly.isSome → st.accepted = [])
  /-- A read returns the first window of the live bytes. -/
  reads : ∀ w, st.outcome = .window w → w = st.pre.live.take st.pre.fillLevel

end Step

namespace Manager

variable {P : Type} {m m' : Manager P}

theorem live_of_staging {s : Staging} (hs : m.staging = some s) : m.live = s.live := by
  simp [live, hs]

/-- A successful `init` leaves an empty buffer holding the fill level. -/
theorem fillWithin_of_init_ok {m₀ : Manager P} {size fill : Nat}
    (hinit : m₀.init size fill = (m, .ok ())) : m.FillWithin ∧ m.live = [] := by
  obtain ⟨supplies, ⟨hfail, -⟩ | ⟨-, -, hpos, hsize, heq⟩⟩ := init_cases m₀ size fill
  · rw [hinit] at hfail
    exact absurd rfl hfail
  · rw [hinit] at heq
    simp only at heq
    subst heq
    refine ⟨fun s hs => ?_, by simp [live, Staging.live, Staging.ofBytes]⟩
    cases hs
    simp [Staging.capacity, Staging.ofBytes, hpos, hsize]

variable [Producer P] {context : WakeContext} {thread : Nat}

theorem delivered_of_staging {s : Staging} (hs : m.staging = some s) :
    m.delivered = s.intake m.producer := by
  simp [delivered, hs]

theorem stepOf_eq {op : Op} {out : Outcome} (h : m.exec op = (m', out)) :
    m.stepOf op = ⟨m, op, out, m'⟩ := by
  simp [stepOf, h]

/-! ### What a run does to the live bytes -/

/-- **A run that returns**, read against the live bytes after its ingest.  Below the fill level
it wakes nobody and keeps the registry.  At the fill level it wakes every slot that has not
consumed the window and hands them the first window; it compacts exactly when every occupied slot
is then acknowledged, removing that window and clearing every flag.  A failed or over-reported
read delivers nothing. -/
theorem run_ok_cases (hm : m.FillWithin) {report : RunReport}
    (h : m.run context thread = (m', .ok report)) :
    m'.fillLevel = m.fillLevel ∧
      (report.producerFailed = true ∨ report.anomaly.isSome → m.delivered = []) ∧
      (((m.live ++ m.delivered).length < m.fillLevel ∧ report.woken = [] ∧
          report.compacted = false ∧ m'.registry = m.registry ∧
          m'.live = m.live ++ m.delivered) ∨
        (m.fillLevel ≤ (m.live ++ m.delivered).length ∧ report.woken = m.registry.notifyAll.2 ∧
          report.window = (m.live ++ m.delivered).take m.fillLevel ∧
          report.compacted = m.registry.notifyAll.1.allAcknowledged ∧
          m'.registry = (if report.compacted then m.registry.notifyAll.1.clearAcknowledgements
            else m.registry.notifyAll.1) ∧
          m'.live =
            (m.live ++ m.delivered).drop (if report.compacted then m.fillLevel else 0))) := by
  obtain ⟨s, hs, -, hcycle⟩ := run_ok h
  obtain ⟨q, r, s₁, hlive, -, -, -, -, hfail, hshape⟩ :=
    cycle_ok (hm.head_eq_zero hs) (hm.capacity_pos hs) hcycle
  -- after the ingest the live bytes are the old ones followed by the producer's
  have hgrown : m.live ++ m.delivered = s₁.live := by
    rw [live_of_staging hs, delivered_of_staging hs, hlive]
  have hnothing : report.producerFailed = true ∨ report.anomaly.isSome → m.delivered = [] :=
    fun hf => by
      rw [delivered_of_staging hs]
      exact hfail hf.symm
  rw [hgrown]
  rcases hshape with ⟨hbelow, hwoken, -, hcomp, rfl⟩ |
    ⟨hfill, hwoken, -, hwindow, ⟨hall, hcomp, rfl⟩ | ⟨hall, hcomp, rfl⟩⟩
  · -- below the fill level: no wake and no compaction
    exact ⟨rfl, hnothing, .inl ⟨by simpa using hbelow, hwoken, hcomp, rfl, rfl⟩⟩
  · -- a wake that leaves some subscriber to acknowledge
    exact ⟨rfl, hnothing, .inr ⟨by simpa using hfill, hwoken, hwindow, by rw [hcomp, hall],
      by simp [hcomp], by simp [hcomp, live]⟩⟩
  · -- a wake after which every subscriber has acknowledged: the window goes
    refine ⟨rfl, hnothing, .inr ⟨by simpa using hfill, hwoken, hwindow, by rw [hcomp, hall],
      by simp [hcomp], ?_⟩⟩
    simp only [hcomp, if_true]
    exact Staging.live_compact_of_le hfill

/-- What a run that returns does to the live bytes: it appends what its producer delivered and,
when it reports a compaction, removes the first fill-level bytes, of which there are at least
that many.  Every window it hands to a waker is the first fill-level bytes after the producer's. -/
theorem live_run_ok (hm : m.FillWithin) {report : RunReport}
    (h : m.run context thread = (m', .ok report)) :
    m'.live = (m.live ++ m.delivered).drop (if report.compacted then m.fillLevel else 0) ∧
      (report.compacted = true → m.fillLevel ≤ (m.live ++ m.delivered).length) ∧
      (report.woken ≠ [] → report.window = (m.live ++ m.delivered).take m.fillLevel) ∧
      (report.producerFailed = true ∨ report.anomaly.isSome → m.delivered = []) := by
  obtain ⟨-, hnothing, hcases⟩ := run_ok_cases hm h
  rcases hcases with ⟨-, hwoken, hcomp, -, hlive⟩ | ⟨hfill, -, hwindow, -, -, hlive⟩
  · exact ⟨by simp [hcomp, hlive], by simp [hcomp], fun hne => absurd hwoken hne, hnothing⟩
  · exact ⟨hlive, fun _ => hfill, fun _ => hwindow, hnothing⟩

/-- A run that stops leaves the live bytes after its producer's, less one window if it compacted
before it stopped. -/
theorem live_run_stopped (hm : m.FillWithin) {p : Panic}
    (h : m.run context thread = (m', .error (.stopped p))) :
    m'.live = m.live ++ m.delivered ∨
      (m'.live = (m.live ++ m.delivered).drop m.fillLevel ∧
        m.fillLevel ≤ (m.live ++ m.delivered).length) := by
  obtain ⟨s, hs, -, hcycle⟩ := run_stopped h
  obtain ⟨q, r, s₁, hlive, -, -, hshape⟩ :=
    cycle_error (hm.head_eq_zero hs) (hm.capacity_pos hs) hcycle
  have hgrown : m.live ++ m.delivered = s₁.live := by
    rw [live_of_staging hs, delivered_of_staging hs, hlive]
  rw [hgrown]
  rcases hshape with rfl | ⟨-, rfl⟩ | ⟨hfill, -, rfl⟩
  · exact .inl rfl
  · exact .inl rfl
  · exact .inr ⟨Staging.live_compact_of_le hfill, by simpa using hfill⟩

/-- A call other than a run or a release leaves the live bytes as they are. -/
theorem live_exec_of_not_run {op : Op} (hrun : ∀ context thread, op ≠ .run context thread)
    (hop : op ≠ .deinit) : (m.exec op).1.live = m.live := by
  cases op with
  | init size fill =>
      rw [exec_init_fst]
      obtain ⟨supplies, ⟨-, heq⟩ | ⟨-, hnone, -, -, heq⟩⟩ := init_cases m size fill <;> rw [heq]
      · rfl
      · -- a buffer is installed only where there was none, and it starts empty
        simp [live, hnone, Staging.live, Staging.ofBytes]
  | deinit => exact absurd rfl hop
  | setAllocator supply => simp [live, Manager.exec, addSupply_eq]
  | setSharedAllocator i => simp [live, Manager.exec]
  | subscribe c =>
      simp only [Manager.exec]
      split
      · rename_i hsub
        rw [(subscribe_eq_ok hsub).2.2]
        rfl
      · rfl
  | unsubscribe id => rfl
  | run context thread => exact absurd rfl (hrun context thread)
  | read id =>
      simp only [Manager.exec]
      split <;> rfl
  | ack id =>
      simp only [Manager.exec]
      split
      · rename_i hack
        rw [(ack_eq_ok hack).2]
        rfl
      · rfl
  | isAcknowledged id => rfl
  | take id =>
      rcases exec_take m id with htake | ⟨e, htake⟩ | ⟨w, m', -, -, hack, htake⟩
      · rw [htake]
      · rw [htake]
      · rw [htake, (ack_eq_ok hack).2]
        rfl
  | setFillLevel fill =>
      simp only [Manager.exec]
      split
      · rename_i hset
        obtain ⟨-, -, -, -, rfl⟩ := setFillLevel_eq_ok hset
        rfl
      · rfl

/-- A call other than a run accepts nothing. -/
theorem accepted_of_not_run {op : Op} (hrun : ∀ context thread, op ≠ .run context thread) :
    (m.stepOf op).accepted = [] := by
  unfold Step.accepted
  split
  · rename_i report hout
    obtain ⟨c, t, rfl, -⟩ := exec_eq_ran hout
    exact absurd rfl (hrun c t)
  · rename_i p hout
    obtain ⟨c, t, rfl, -⟩ := exec_eq_stopped hout
    exact absurd rfl (hrun c t)
  · rfl

/-! ### One step -/

/-- **One step of the queue.**  A call other than a release leaves as live bytes what was live
and what it accepted, less nothing or one window from the front. -/
theorem stepOf_live (hm : m.FillWithin) {op : Op} (hop : op ≠ .deinit) :
    ∃ j, (m.stepOf op).post.live = (m.live ++ (m.stepOf op).accepted).drop j ∧
      (j = 0 ∨ (j = m.fillLevel ∧ m.fillLevel ≤ (m.live ++ (m.stepOf op).accepted).length)) := by
  by_cases hrun : ∃ context thread, op = .run context thread
  · obtain ⟨context, thread, rfl⟩ := hrun
    rcases hres : m.run context thread with ⟨m', (e | p) | report⟩
    · -- a refused run changes nothing and accepts nothing
      obtain ⟨rfl, -⟩ := run_refused hres
      rw [stepOf_eq (exec_run_of_refused hres)]
      exact ⟨0, by simp [Step.accepted], .inl rfl⟩
    · rw [stepOf_eq (exec_run_of_stopped hres)]
      rcases live_run_stopped hm hres with hlive | hwindow
      · exact ⟨0, by simpa [Step.accepted] using hlive, .inl rfl⟩
      · exact ⟨m.fillLevel, hwindow.1, .inr ⟨rfl, hwindow.2⟩⟩
    · rw [stepOf_eq (exec_run_of_ok hres)]
      obtain ⟨hlive, hlen, -, -⟩ := live_run_ok hm hres
      refine ⟨_, hlive, ?_⟩
      cases hcomp : report.compacted
      · exact .inl rfl
      · exact .inr ⟨rfl, hlen hcomp⟩
  · have hrun' : ∀ context thread, op ≠ .run context thread :=
      fun context thread heq => hrun ⟨context, thread, heq⟩
    refine ⟨0, ?_, .inl rfl⟩
    rw [accepted_of_not_run hrun', List.append_nil, List.drop_zero]
    exact live_exec_of_not_run hrun' hop

/-- The reports of a run, read against the live bytes. -/
theorem queues_ran (hm : m.FillWithin) {op : Op} {report : RunReport}
    (hout : (m.stepOf op).outcome = .ran report) :
    (report.compacted = true ↔ (m.stepOf op).removed ≠ []) ∧
      (report.woken ≠ [] →
        report.window = (m.live ++ (m.stepOf op).accepted).take m.fillLevel) ∧
      (report.producerFailed = true ∨ report.anomaly.isSome → (m.stepOf op).accepted = []) := by
  obtain ⟨context, thread, rfl, hres⟩ := exec_eq_ran hout
  obtain ⟨s, hs, -, -⟩ := run_ok hres
  have hfill := (hm s hs).1
  have hacc : (m.stepOf (.run context thread)).accepted = m.delivered := by
    rw [stepOf_eq (exec_run_of_ok hres)]
    rfl
  obtain ⟨hlive, hlen, hwindow, hnothing⟩ := live_run_ok hm hres
  have hremoved := Step.removed_of_drop (m.stepOf (.run context thread))
    (by rw [stepOf_post, stepOf_pre, hacc]; exact hlive)
  rw [hremoved, stepOf_pre, hacc]
  refine ⟨?_, hwindow, hnothing⟩
  cases hcomp : report.compacted
  · simp
  · -- a compaction removes the first window, which is not empty
    have hlen' := hlen hcomp
    rw [if_pos rfl]
    exact ⟨fun _ => List.ne_nil_of_length_pos (by simp only [List.length_take]; omega),
      fun _ => rfl⟩

/-- **Every call other than a release keeps the queue discipline.** -/
theorem queues_stepOf (hm : m.FillWithin) {op : Op} (hop : op ≠ .deinit) :
    (m.stepOf op).Queues := by
  obtain ⟨j, hdrop, hj⟩ := stepOf_live hm hop
  have hremoved := Step.removed_of_drop _ hdrop
  refine ⟨?_, ?_, fun report hout => queues_ran hm hout, fun w hout => ?_⟩
  · rw [hremoved, hdrop, stepOf_pre, List.take_append_drop]
  · rcases hj with rfl | ⟨rfl, hlen⟩
    · exact .inl (by simp [hremoved])
    · exact .inr ⟨hremoved, hlen⟩
  · obtain ⟨id, hread, -⟩ := exec_eq_window hout
    obtain ⟨-, s, hs, -, rfl⟩ := readWindow_eq_ok hread
    simp [live_of_staging hs]

/-! ### A session -/

/-- **A session of the queue balances**: from a manager whose fill level lies within its buffer,
a session without a release removes, and then leaves live, what was live before it followed by
what it accepted. -/
theorem steps_balance (hm : m.FillWithin) {ops : List Op} (hops : ∀ op ∈ ops, op ≠ .deinit) :
    m.live ++ (m.steps ops).flatMap Step.accepted =
      (m.steps ops).flatMap Step.removed ++ (m.after ops).live := by
  induction ops generalizing m with
  | nil => simp
  | cons op ops ih =>
      have hstep := (queues_stepOf hm (hops op List.mem_cons_self)).balance
      simp only [stepOf_pre, stepOf_post] at hstep
      rw [steps_cons, after_cons]
      split
      · simpa using hstep
      · have hrest := ih (hm.exec op) (fun op' h' => hops op' (List.mem_cons_of_mem _ h'))
        simp only [List.flatMap_cons, ← List.append_assoc]
        rw [hstep, List.append_assoc, hrest, List.append_assoc]

/-- **The manager as a FIFO byte queue** along the session `ops` from `m`. -/
structure FifoQueue (m : Manager P) (ops : List Op) : Prop where
  /-- After the session, the blocks the compactions removed followed by the bytes between the
  head and the tail that `state` reports are what the producers delivered. -/
  balance : (m.steps ops).flatMap Step.removed ++
      ((m.after ops).staged.drop (m.after ops).state.head).take
        ((m.after ops).state.tail - (m.after ops).state.head) =
    (m.steps ops).flatMap Step.accepted
  /-- Every step keeps the queue discipline. -/
  steps : ∀ st ∈ m.steps ops, st.Queues

/-- **After a successful `init` the manager is a FIFO byte queue**, over any session that does not
release the buffer. -/
theorem fifo_queue_after_init (m₀ : Manager P) (size fill : Nat)
    (hinit : m₀.init size fill = (m, .ok ())) (ops : List Op)
    (hops : ∀ op ∈ ops, op ≠ .deinit) : m.FifoQueue ops := by
  obtain ⟨hm, hempty⟩ := fillWithin_of_init_ok hinit
  refine ⟨?_, fun st hst => ?_⟩
  · rw [staged_between, ← List.nil_append ((m.steps ops).flatMap Step.accepted), ← hempty]
    exact (steps_balance hm hops).symm
  · -- each step is a call from a state the session reached, which keeps the fill level within
    have hpre := (steps_invariant FillWithin (fun m op h => h.exec op) hm hst).1
    rw [eq_stepOf_of_mem_steps hst]
    exact queues_stepOf hpre (hops st.op (op_mem_of_mem_steps hst))

/-- The queue discipline over one run of a scripted producer, from a manager with one slot. -/
theorem fifo_queue_after_init_scripted :
    (withSlots (Script.feed {} [1, 2, 3]) 1).init 4 2 =
        (((withSlots (Script.feed {} [1, 2, 3]) 1).init 4 2).1, .ok ()) ∧
      (∀ op ∈ [Op.run .task 0], op ≠ .deinit) ∧
      ((withSlots (Script.feed {} [1, 2, 3]) 1).init 4 2).1.FifoQueue [.run .task 0] :=
  ⟨rfl, by simp,
    fifo_queue_after_init (withSlots (Script.feed {} [1, 2, 3]) 1) 4 2 rfl _ (by simp)⟩

/-- **A run whose producer fails still compacts.**  Once a task subscriber has acknowledged a full
window, the next run drops that window from the live bytes, although its read failed and
delivered nothing. -/
theorem failed_read_run_compacts :
    let session := ([.subscribeNew "s" "s" .task, .feed [1, 2, 3, 4], .run .task none, .ack 1,
        .fail "fifo underrun"] : List Bench.Command).foldl
      (fun (s : Bench.Session) c => (s.step c).1)
      { manager := (withConfig (.script {}) { bufferSize := 12, fillLevel := 4 }).1 }
    session.manager.live = [1, 2, 3, 4] ∧
      (session.step (.run .task none)).1.manager.live = [] ∧
      (match (session.step (.run .task none)).2 with
        | .ok (.run r) => r.report.producerFailed && r.report.compacted
        | _ => false) = true := by
  decide

end Manager

end RadarIngest
