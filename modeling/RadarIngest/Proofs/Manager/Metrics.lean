import Mathlib
import RadarIngest.Proofs.Manager.Queue

/-!
**The counters are the tally of the run reports.**

A manager's recorder is bumped at six points of a run: once for every run with the bytes it
ingested, once with the number of subscribers it woke (even none), and once each for an
anomaly, a failed producer read, a compaction and a reset.  Each bump is recorded in the run's
report as well, so the counters are a function of the reports: `RadarIngest.Counters.afterRuns`
adds to the counters one run for each report, its ingested bytes, its wakes under its context,
and one compaction, reset, anomaly or producer error for each report that has one.

Every call that is not a run leaves the counters alone, and so does a refused run; a run that
returns adds its own report.  So along every session the counters are the tally of the reports
of the runs that returned, across releases and new buffers alike.

Main definitions:

* `RadarIngest.Counters.afterRuns` — the counters after a list of run reports;
* `RadarIngest.Step.ran` — the context and report of a step that is a run that returned.

Main results:

* `RadarIngest.Manager.cycle_counts` — a run that returns adds its report to the counters;
* `RadarIngest.Manager.metrics_exec` — what one call does to the counters;
* `RadarIngest.Manager.counters_history`, `RadarIngest.Manager.counters_after` — along a session;
* `RadarIngest.Manager.counters_tally_runs` — **the counters are the tally of the reports of the
  runs that returned, and nothing else changes them**.
-/

set_option autoImplicit false

namespace RadarIngest

namespace Counters

/-- The counters after the runs `runs`, each given by its context and its report: one more run
each, with its ingested bytes and its wakes under its context, and one more compaction, reset,
anomaly or producer error for each run that reports one. -/
def afterRuns (c : Counters) (runs : List (WakeContext × RunReport)) : Counters where
  runs := c.runs + runs.length
  bytesIngested := c.bytesIngested + (runs.map (·.2.ingested)).sum
  interruptWakes := c.interruptWakes + ((runs.filter (·.1 == .interrupt)).map (·.2.notified)).sum
  taskWakes := c.taskWakes + ((runs.filter (·.1 == .task)).map (·.2.notified)).sum
  compactions := c.compactions + runs.countP (·.2.compacted)
  overflowResets := c.overflowResets + runs.countP (·.2.reset)
  anomalies := c.anomalies + runs.countP (·.2.anomaly.isSome)
  producerErrors := c.producerErrors + runs.countP (·.2.producerFailed)

@[simp] theorem afterRuns_nil (c : Counters) : c.afterRuns [] = c := by
  simp [afterRuns]

theorem afterRuns_append (c : Counters) (xs ys : List (WakeContext × RunReport)) :
    c.afterRuns (xs ++ ys) = (c.afterRuns xs).afterRuns ys := by
  simp only [afterRuns, List.length_append, List.map_append, List.sum_append, List.filter_append,
    List.countP_append, Nat.add_assoc]

end Counters

/-! ### The counter updates that do not stop -/

namespace Recorder

variable {c : Counters} {r : Recorder}

theorem update_live {f : Counters → Except Panic Counters} (h : (live c).update f = (r, none)) :
    ∃ c', f c = .ok c' ∧ r = .live c' := by
  simp only [update] at h
  split at h
  · rename_i c' hf
    cases h
    exact ⟨c', hf, rfl⟩
  · cases h

theorem recordRun_live {n : Nat} (h : (live c).recordRun n = (r, none)) :
    r = .live { c with runs := c.runs + 1, bytesIngested := c.bytesIngested + n } := by
  obtain ⟨c', hf, rfl⟩ := update_live h
  obtain ⟨runs, hruns, hf⟩ := Except.bind_eq_ok.1 hf
  obtain ⟨bytes, hbytes, hf⟩ := Except.bind_eq_ok.1 hf
  cases hf
  rw [((Word.add_eq_ok_iff _ _ _).1 hruns).2, ((Word.add_eq_ok_iff _ _ _).1 hbytes).2]

theorem recordWakes_live {context : WakeContext} {n : Nat}
    (h : (live c).recordWakes context n = (r, none)) :
    r = .live { c with
      interruptWakes := c.interruptWakes + if context = .interrupt then n else 0
      taskWakes := c.taskWakes + if context = .task then n else 0 } := by
  obtain ⟨c', hf, rfl⟩ := update_live h
  cases context <;> obtain ⟨w, hw, hf⟩ := Except.bind_eq_ok.1 hf <;> cases hf <;>
    simp [((Word.add_eq_ok_iff _ _ _).1 hw).2]

theorem recordCompaction_live (h : (live c).recordCompaction = (r, none)) :
    r = .live { c with compactions := c.compactions + 1 } := by
  obtain ⟨c', hf, rfl⟩ := update_live h
  obtain ⟨w, hw, hf⟩ := Except.bind_eq_ok.1 hf
  cases hf
  rw [((Word.add_eq_ok_iff _ _ _).1 hw).2]

theorem recordOverflowReset_live (h : (live c).recordOverflowReset = (r, none)) :
    r = .live { c with overflowResets := c.overflowResets + 1 } := by
  obtain ⟨c', hf, rfl⟩ := update_live h
  obtain ⟨w, hw, hf⟩ := Except.bind_eq_ok.1 hf
  cases hf
  rw [((Word.add_eq_ok_iff _ _ _).1 hw).2]

theorem recordAnomaly_live (h : (live c).recordAnomaly = (r, none)) :
    r = .live { c with anomalies := c.anomalies + 1 } := by
  obtain ⟨c', hf, rfl⟩ := update_live h
  obtain ⟨w, hw, hf⟩ := Except.bind_eq_ok.1 hf
  cases hf
  rw [((Word.add_eq_ok_iff _ _ _).1 hw).2]

theorem recordProducerError_live (h : (live c).recordProducerError = (r, none)) :
    r = .live { c with producerErrors := c.producerErrors + 1 } := by
  obtain ⟨c', hf, rfl⟩ := update_live h
  obtain ⟨w, hw, hf⟩ := Except.bind_eq_ok.1 hf
  cases hf
  rw [((Word.add_eq_ok_iff _ _ _).1 hw).2]

end Recorder

namespace Manager

variable {P : Type} {m m' : Manager P} {k : Counters}

/-- A counter update that does not stop is the update the recorder made. -/
theorem counting_live {u : Recorder → Recorder × Option Panic} {k' : Counters}
    (h : m.counting u = .ok m') (hk : m.metrics = .live k)
    (hu : ∀ r, u (.live k) = (r, none) → r = .live k') : m'.metrics = .live k' := by
  unfold counting at h
  split at h
  · rename_i r hr
    cases h
    rw [hk] at hr
    exact hu r hr
  · cases h

/-! ### The stages of a run -/

section Stages

variable [Producer P] {s s' : Staging} {report report' : RunReport}

/-- The ingest step counts an anomaly or a failed read exactly when its report has one. -/
theorem ingest_counts (h : m.ingest s = .ok (m', s', report)) (hk : m.metrics = .live k) :
    m'.metrics = .live { k with
      anomalies := k.anomalies + if report.anomaly.isSome then 1 else 0
      producerErrors := k.producerErrors + if report.producerFailed then 1 else 0 } := by
  unfold ingest at h
  split at h
  · split at h
    · cases h
    · dsimp only at h
      split at h
      · split at h
        · -- a count that fits: nothing to count
          cases h
          simpa using hk
        · obtain ⟨m₁, hcount, hm⟩ := Except.map_eq_ok.1 h
          cases hm
          exact counting_live hcount hk fun r hr => by simp [Recorder.recordAnomaly_live hr]
      · obtain ⟨m₁, hcount, hm⟩ := Except.map_eq_ok.1 h
        cases hm
        exact counting_live hcount hk fun r hr => by simp [Recorder.recordProducerError_live hr]
  · -- no room: no read
    cases h
    simpa using hk

omit [Producer P] in
/-- The wake step keeps the producer and what the ingest step reported. -/
theorem settle_keeps {context : WakeContext}
    (h : m.settle s context report = .ok (m', s', report')) :
    m'.producer = m.producer ∧ report'.ingested = report.ingested ∧
      report'.anomaly = report.anomaly ∧ report'.producerFailed = report.producerFailed ∧
      report'.reset = report.reset := by
  rcases settle_ok h with ⟨-, rfl, -, rfl⟩ | ⟨-, r, -, ⟨-, -, rfl, rfl⟩ | ⟨-, -, rfl, rfl⟩⟩ <;>
    exact ⟨rfl, rfl, rfl, rfl, rfl⟩

omit [Producer P] in
/-- The wake step counts the subscribers it woke under its context, and a compaction when it
compacts, starting from a report that has neither. -/
theorem settle_counts {context : WakeContext} (h : m.settle s context report = .ok (m', s', report'))
    (hk : m.metrics = .live k) (hnotified : report.notified = 0)
    (hcompacted : report.compacted = false) :
    m'.metrics = .live { k with
      interruptWakes := k.interruptWakes + if context = .interrupt then report'.notified else 0
      taskWakes := k.taskWakes + if context = .task then report'.notified else 0
      compactions := k.compactions + if report'.compacted then 1 else 0 } := by
  unfold settle at h
  split at h
  · dsimp only at h
    split at h
    · cases h
    · rename_i m₁ hwake
      have hk₁ := counting_live hwake hk fun r hr => Recorder.recordWakes_live hr
      split at h
      · -- every subscriber has acknowledged: the window is compacted
        obtain ⟨m₂, hcompact, hm⟩ := Except.map_eq_ok.1 h
        cases hm
        rw [counting_live hcompact hk₁ fun r hr => Recorder.recordCompaction_live hr]
        simp
      · cases h
        rw [hk₁]
        simp [hcompacted]
  · -- below the fill level: nobody woken, nothing compacted
    cases h
    rw [hk]
    simp [hnotified, hcompacted]

omit [Producer P] in
/-- The last step keeps the producer and adds at most a reset to the report. -/
theorem finish_keeps (h : m.finish s report = .ok (m', report')) :
    m'.producer = m.producer ∧ report' = { report with reset := report'.reset } := by
  unfold finish at h
  split at h
  · obtain ⟨m₁, hcount, hm⟩ := Except.map_eq_ok.1 h
    cases hm
    rw [counting_ok hcount]
    exact ⟨rfl, rfl⟩
  · cases h
    exact ⟨rfl, rfl⟩

omit [Producer P] in
/-- The last step counts a reset exactly when it reports one. -/
theorem finish_counts (h : m.finish s report = .ok (m', report')) (hk : m.metrics = .live k)
    (hreset : report.reset = false) :
    m'.metrics = .live { k with overflowResets := k.overflowResets + if report'.reset then 1 else 0 } := by
  unfold finish at h
  split at h
  · obtain ⟨m₁, hcount, hm⟩ := Except.map_eq_ok.1 h
    cases hm
    simpa using counting_live hcount hk fun r hr => Recorder.recordOverflowReset_live hr
  · cases h
    simpa [hreset] using hk

/-- **A run that returns adds its report to the counters.** -/
theorem cycle_counts {context : WakeContext} (h : m.cycle s context = .ok (m', report))
    (hk : m.metrics = .live k) : m'.metrics = .live (k.afterRuns [(context, report)]) := by
  unfold cycle at h
  obtain ⟨⟨m₁, s₁, r₁⟩, hingest, h⟩ := Except.bind_eq_ok.1 h
  obtain ⟨m₂, hrun, h⟩ := Except.bind_eq_ok.1 h
  obtain ⟨⟨m₃, s₃, r₃⟩, hsettle, h⟩ := Except.bind_eq_ok.1 h
  dsimp only at h
  obtain ⟨-, -, hr₁, -⟩ := ingest_ok hingest
  have hk₂ := counting_live hrun (ingest_counts hingest hk) fun r hr => Recorder.recordRun_live hr
  have hk₃ := settle_counts hsettle hk₂ (by rw [hr₁]) (by rw [hr₁])
  obtain ⟨-, hi, ha, hf, hz⟩ := settle_keeps hsettle
  have hk' := finish_counts h hk₃ (by rw [hz, hr₁])
  obtain ⟨-, hreport⟩ := finish_keeps h
  rw [hk', hreport]
  -- each counter is the one before plus what the report says
  cases context <;> simp [Counters.afterRuns, hi, ha, hf]

/-- **A run that returns takes its producer, and what it reports of the producer's read, from its
ingest step**: the later steps touch neither. -/
theorem cycle_ingest {context : WakeContext} (h : m.cycle s context = .ok (m', report)) :
    ∃ m₁ s₁ r₁, m.ingest s = .ok (m₁, s₁, r₁) ∧ m'.producer = m₁.producer ∧
      report.ingested = r₁.ingested ∧ report.anomaly = r₁.anomaly ∧
      report.producerFailed = r₁.producerFailed := by
  unfold cycle at h
  obtain ⟨⟨m₁, s₁, r₁⟩, hingest, h₁⟩ := Except.bind_eq_ok.1 h
  obtain ⟨m₂, hrun, h₂⟩ := Except.bind_eq_ok.1 h₁
  obtain ⟨⟨m₃, s₃, r₃⟩, hsettle, hfinish⟩ := Except.bind_eq_ok.1 h₂
  obtain ⟨hq₃, hi, ha, hf, -⟩ := settle_keeps hsettle
  obtain ⟨hq, hreport⟩ := finish_keeps hfinish
  refine ⟨m₁, s₁, r₁, hingest, ?_, (congrArg RunReport.ingested hreport).trans hi,
    (congrArg RunReport.anomaly hreport).trans ha,
    (congrArg RunReport.producerFailed hreport).trans hf⟩
  rw [hq, hq₃, counting_ok hrun]

end Stages

end Manager

namespace Step

variable {P : Type}

/-- The context and the report of a step that is a run that returned. -/
def ran (st : Step P) : Option (WakeContext × RunReport) :=
  match st.op, st.outcome with
  | .run context _, .ran report => some (context, report)
  | _, _ => none

/-- The runs of a history that returned, each with its context and its report. -/
def runsOf (h : List (Step P)) : List (WakeContext × RunReport) := h.filterMap ran

theorem ran_eq_some {st : Step P} {context : WakeContext} {report : RunReport}
    (h : st.ran = some (context, report)) :
    (∃ thread, st.op = .run context thread) ∧ st.outcome = .ran report := by
  unfold ran at h
  split at h
  · rename_i thread report' hop hout
    cases h
    exact ⟨⟨thread, hop⟩, hout⟩
  · cases h

@[simp] theorem runsOf_nil : runsOf ([] : List (Step P)) = [] := rfl

theorem runsOf_append_singleton (h : List (Step P)) (st : Step P) :
    runsOf (h ++ [st]) = runsOf h ++ st.ran.toList := by
  cases hst : st.ran <;> simp [runsOf, List.filterMap_append, hst]

end Step

namespace Manager

variable {P : Type} [Producer P] {m : Manager P} {k : Counters}

omit [Producer P] in
theorem producer_setAllocator (m : Manager P) (i : Nat) :
    (m.setAllocator i).producer = m.producer := by
  rw [setAllocator_eq]
  split <;> rfl

omit [Producer P] in
theorem metrics_setAllocator (m : Manager P) (i : Nat) : (m.setAllocator i).metrics = m.metrics := by
  rw [setAllocator_eq]
  split <;> rfl

/-- A call whose step is a run that returned is that run. -/
theorem run_of_ran {op : Op} {context : WakeContext} {report : RunReport}
    (h : (m.stepOf op).ran = some (context, report)) :
    ∃ thread, op = .run context thread ∧ m.run context thread = ((m.exec op).1, .ok report) := by
  obtain ⟨⟨thread, hop⟩, hout⟩ := Step.ran_eq_some h
  rw [stepOf_op] at hop
  subst hop
  obtain ⟨context', thread', hop', hrun⟩ := exec_eq_ran hout
  cases hop'
  exact ⟨thread, rfl, hrun⟩

/-- **A call that is not a run that returned leaves the producer and the counters as they are**,
unless it stops. -/
theorem exec_frame_of_not_ran {op : Op} (hran : (m.stepOf op).ran = none)
    (hgo : (m.exec op).2.stops = false) :
    (m.exec op).1.producer = m.producer ∧ (m.exec op).1.metrics = m.metrics := by
  cases op
  case run context thread =>
    rcases hrun : m.run context thread with ⟨m', (e | p) | report⟩
    · rw [exec_run_of_refused hrun, (run_refused hrun).1]
      exact ⟨rfl, rfl⟩
    · rw [exec_run_of_stopped hrun] at hgo
      cases hgo
    · rw [stepOf_eq (exec_run_of_ok hrun)] at hran
      cases hran
  case init size fill =>
    rw [exec_init_fst]
    obtain ⟨supplies, ⟨-, heq⟩ | ⟨-, -, -, -, heq⟩⟩ := init_cases m size fill <;> rw [heq] <;>
      exact ⟨rfl, rfl⟩
  case deinit =>
    simp only [exec]
    split
    · obtain ⟨-, -, supplies, current, rfl⟩ := deinit_eq_ok ‹_›
      exact ⟨rfl, rfl⟩
    · exact ⟨rfl, rfl⟩
  case setAllocator supply =>
    simp [exec, addSupply_eq, producer_setAllocator, metrics_setAllocator]
  case setSharedAllocator i => simp [exec, producer_setAllocator, metrics_setAllocator]
  case setFillLevel fill =>
    simp only [exec]
    split
    · obtain ⟨-, -, -, -, rfl⟩ := setFillLevel_eq_ok ‹_›
      exact ⟨rfl, rfl⟩
    · exact ⟨rfl, rfl⟩
  -- a subscriber's own call changes nothing but the registry
  all_goals
    rw [exec_of_bySubscriber rfl]
    exact ⟨rfl, rfl⟩

/-- **What one call does to working counters**: a call that does not stop adds the report of the
run it is, when it is a run that returned, and nothing otherwise. -/
theorem metrics_exec (hk : m.metrics = .live k) (op : Op) (hgo : (m.exec op).2.stops = false) :
    (m.exec op).1.metrics = .live (k.afterRuns (m.stepOf op).ran.toList) := by
  cases hran : (m.stepOf op).ran with
  | none =>
      rw [(exec_frame_of_not_ran hran hgo).2, hk]
      rfl
  | some run =>
      -- only a run that returned has a report, and it adds it to the counters
      obtain ⟨context, report⟩ := run
      obtain ⟨thread, rfl, hrun⟩ := run_of_ran hran
      obtain ⟨s, -, -, hcycle⟩ := run_ok hrun
      exact cycle_counts hcycle hk

/-- **Along a session the counters follow the runs**: before each call, a recorder that started
with the counters `c` holds `c` with the reports of the runs that returned so far. -/
theorem counters_history {c : Counters} (hm : m.metrics = .live c) {ops : List Op}
    {before : List (Step P)} {st : Step P} {rest : List (Step P)}
    (hsplit : m.steps ops = before ++ st :: rest) :
    st.pre.metrics = .live (c.afterRuns (Step.runsOf before)) := by
  have := history_invariant (fun h m' => m'.metrics = .live (c.afterRuns (Step.runsOf h)))
    (fun h m' op _ hk hgo => by
      rw [metrics_exec hk op hgo, Step.runsOf_append_singleton, Counters.afterRuns_append])
    (show m.metrics = .live (c.afterRuns (Step.runsOf ([] : List (Step P)))) by simpa using hm)
    hsplit
  simpa using this

/-- The same after a session in which no call stops. -/
theorem counters_after {c : Counters} (hm : m.metrics = .live c) {ops : List Op}
    (hgo : ∀ st ∈ m.steps ops, st.outcome.stops = false) :
    (m.after ops).metrics = .live (c.afterRuns (Step.runsOf (m.steps ops))) := by
  have := history_after (fun h m' => m'.metrics = .live (c.afterRuns (Step.runsOf h)))
    (fun h m' op _ hk hgo => by
      rw [metrics_exec hk op hgo, Step.runsOf_append_singleton, Counters.afterRuns_append])
    (show m.metrics = .live (c.afterRuns (Step.runsOf ([] : List (Step P)))) by simpa using hm) hgo
  simpa using this

/-- **The counters are the tally of the run reports.**  Along every session from a manager whose
recorder holds the counters `c` (none, for a created manager), the counters read before every
call, and after the session when no call stops, are `c` with the reports of the runs that
returned so far, across releases and new buffers: one more run each, their ingested bytes, their
wakes under their context, and one compaction, reset, anomaly or producer error for each that
reports one.  Every other call, a refused run included, leaves the counters as they were. -/
theorem counters_tally_runs (m : Manager P) (c : Counters) (hm : m.metrics = .live c)
    (ops : List Op) :
    (∀ before st rest, m.steps ops = before ++ st :: rest →
      st.pre.metrics.snapshot = c.afterRuns (Step.runsOf before)) ∧
    ((∀ st ∈ m.steps ops, st.outcome.stops = false) →
      (m.after ops).metrics.snapshot = c.afterRuns (Step.runsOf (m.steps ops))) ∧
    ∀ st ∈ m.steps ops, st.ran = none → st.outcome.stops = false →
      st.post.metrics = st.pre.metrics := by
  refine ⟨fun before st rest hsplit => by rw [counters_history hm hsplit]; rfl,
    fun hgo => by rw [counters_after hm hgo]; rfl, fun st hst hran hgo => ?_⟩
  -- each step is a call from the state before it
  have hst := eq_stepOf_of_mem_steps hst
  rw [hst] at hran hgo ⊢
  exact (exec_frame_of_not_ran hran hgo).2

/-- A session that releases its buffer and starts another: its counters are the tally of its two
runs, one from an interrupt and one from a task. -/
theorem counters_tally_runs_across_release :
    let m := withSlots (Script.feed {} [1, 2]) 1
    let ops := [.init 4 2, .subscribe ⟨"s", 1, .callback⟩, .run .interrupt 0, .unsubscribe 1,
      .deinit, .init 4 2, .run .task 0]
    (m.after ops).metrics.snapshot = Counters.afterRuns {} (Step.runsOf (m.steps ops)) :=
  (counters_tally_runs _ {} rfl _).2.1 (by decide)

end Manager

end RadarIngest
