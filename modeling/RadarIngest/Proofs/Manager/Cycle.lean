import RadarIngest.Proofs.Manager.Session

/-!
**What one run does.**

A run takes in what its producer delivers, wakes the subscribers once the fill level is buffered,
and compacts the window away when every registered subscriber has acknowledged.  This module
says so once, for each step of a run and then for the whole run, so that no later proof opens
`RadarIngest.Manager.cycle`.

What the producer delivers is a specification in its own right: `RadarIngest.Staging.accepted`
is the first `n` bytes of the spare region *as the producer left it* when it claims a count `n`
that fits, and nothing when it claims too many or fails.  The live data after the ingest step
is the live data before it followed by those bytes.

Counter updates can stop a run (a counter that would leave the word range).  They change nothing
but the counters, and the reset counter only when a reset is counted; so every way a run can end
is described by the buffer, the registry and the flags at the point where it ended.

Main definitions:

* `RadarIngest.Staging.accepted`, `RadarIngest.Staging.intake` — what a producer delivers;
* `RadarIngest.Manager.live`, `RadarIngest.Manager.delivered` — the live bytes of a manager and
  what its next run takes in.

Main results:

* `RadarIngest.Manager.ingest_ok`, `RadarIngest.Manager.settle_ok` and their stopping versions —
  the steps of a run;
* `RadarIngest.Manager.cycle_ok` — **a run that returns**: the live data after it is the live
  data before it, followed by what the producer delivered, less the first fill-level bytes when it
  compacts; it wakes and compacts exactly as the registry after the wake says;
* `RadarIngest.Manager.cycle_error` — a run that stops ends before the wake, after it, or after
  the compaction.
-/

set_option autoImplicit false

namespace Except

variable {ε α β : Type}

theorem bind_eq_ok {x : Except ε α} {f : α → Except ε β} {b : β} :
    x >>= f = .ok b ↔ ∃ a, x = .ok a ∧ f a = .ok b := by
  cases x <;> simp [bind, Except.bind]

theorem bind_eq_error {x : Except ε α} {f : α → Except ε β} {e : ε} :
    x >>= f = .error e ↔ x = .error e ∨ ∃ a, x = .ok a ∧ f a = .error e := by
  cases x <;> simp [bind, Except.bind]

theorem map_eq_ok {x : Except ε α} {f : α → β} {b : β} :
    x.map f = .ok b ↔ ∃ a, x = .ok a ∧ f a = b := by
  cases x <;> simp [Except.map]

theorem map_eq_error {x : Except ε α} {f : α → β} {e : ε} : x.map f = .error e ↔ x = .error e := by
  cases x <;> simp [Except.map]

end Except

namespace RadarIngest

/-! ### What a producer delivers -/

namespace Staging

/-- The bytes a producer's answer adds to the live data: the first `n` bytes of the spare region
as the producer left it, when it claims a count `n` that fits; nothing otherwise. -/
def accepted (s : Staging) (y : Yield) : List UInt8 :=
  match y.report with
  | .ok n => if n ≤ s.room then (s.writeSpare y.region).spare.take n else []
  | .error _ => []

/-- What the next read of a producer in state `p` adds to the live data of `s`: nothing when
there is no room or the producer stops. -/
def intake {P : Type} [Producer P] (s : Staging) (p : P) : List UInt8 :=
  if s.room > 0 then
    match Producer.read p s.spare with
    | .ok (_, y) => s.accepted y
    | .error _ => []
  else []

/-- A run never accepts more bytes than the buffer has room for. -/
theorem length_accepted_le (s : Staging) (y : Yield) : (s.accepted y).length ≤ s.room := by
  unfold accepted
  split
  · split
    · simp only [List.length_take, length_spare, room_writeSpare]
      omega
    · simp
  · simp

end Staging

/-! ### Counters -/

namespace Recorder

/-- An update that never raises the reset counter. -/
def KeepsResets (u : Recorder → Recorder × Option Panic) : Prop :=
  ∀ r, (u r).1.snapshot.overflowResets ≤ r.snapshot.overflowResets

theorem keepsResets_update {f : Counters → Except Panic Counters}
    (hf : ∀ c c', f c = .ok c' → c'.overflowResets = c.overflowResets) :
    KeepsResets fun r => r.update f := by
  intro r
  cases r with
  | poisoned => simp [update, snapshot]
  | live c =>
      simp only [update]
      split
      · rename_i c' h
        simp [snapshot, hf c c' h]
      · simp [snapshot]

theorem keepsResets_recordRun (n : Nat) : KeepsResets fun r => r.recordRun n := by
  apply keepsResets_update
  intro c c' h
  obtain ⟨runs, -, h⟩ := Except.bind_eq_ok.1 h
  obtain ⟨bytes, -, h⟩ := Except.bind_eq_ok.1 h
  cases h
  rfl

theorem keepsResets_recordWakes (context : WakeContext) (n : Nat) :
    KeepsResets fun r => r.recordWakes context n := by
  apply keepsResets_update
  intro c c' h
  cases context with
  | interrupt =>
      obtain ⟨w, -, h⟩ := Except.bind_eq_ok.1 h
      cases h
      rfl
  | task =>
      obtain ⟨w, -, h⟩ := Except.bind_eq_ok.1 h
      cases h
      rfl

theorem keepsResets_recordCompaction : KeepsResets fun r => r.recordCompaction := by
  apply keepsResets_update
  intro c c' h
  obtain ⟨w, -, h⟩ := Except.bind_eq_ok.1 h
  cases h
  rfl

theorem keepsResets_recordAnomaly : KeepsResets fun r => r.recordAnomaly := by
  apply keepsResets_update
  intro c c' h
  obtain ⟨w, -, h⟩ := Except.bind_eq_ok.1 h
  cases h
  rfl

theorem keepsResets_recordProducerError : KeepsResets fun r => r.recordProducerError := by
  apply keepsResets_update
  intro c c' h
  obtain ⟨w, -, h⟩ := Except.bind_eq_ok.1 h
  cases h
  rfl

end Recorder

namespace Manager

variable {P : Type}

/-- The live bytes of a manager, oldest first; none before initialization. -/
def live (m : Manager P) : List UInt8 :=
  match m.staging with
  | some s => s.live
  | none => []

/-- What the next run of a manager takes in from its producer. -/
def delivered [Producer P] (m : Manager P) : List UInt8 :=
  match m.staging with
  | some s => s.intake m.producer
  | none => []

/-- The live bytes are what `staged` holds between the head and the tail that `state` reports. -/
theorem staged_between (m : Manager P) :
    (m.staged.drop m.state.head).take (m.state.tail - m.state.head) = m.live := by
  unfold staged state live
  cases m.staging with
  | none => rfl
  | some s => simp only [Staging.live, List.drop_take]

/-! ### Counter updates -/

section Counting

variable {m m' : Manager P} {u : Recorder → Recorder × Option Panic}

theorem counting_ok (h : m.counting u = .ok m') : m' = { m with metrics := (u m.metrics).1 } := by
  unfold counting at h
  split at h
  · rename_i r hu
    cases h
    simp [hu]
  · cases h

theorem counting_error {p : Panic} (h : m.counting u = .error (m', p)) :
    m' = { m with metrics := (u m.metrics).1 } := by
  unfold counting at h
  split at h
  · cases h
  · rename_i r p' hu
    cases h
    simp [hu]

end Counting

/-! ### The steps of a run -/

theorem claimThread_ok {m m' : Manager P} {thread : Nat} (h : m.claimThread thread = .ok m') :
    m' = { m with thread := some thread } ∧ (m.thread = none ∨ m.thread = some thread) := by
  unfold claimThread at h
  split at h
  · rename_i t ht
    split at h
    · cases h
      subst t
      exact ⟨by cases m; simp_all, .inr ht⟩
    · cases h
  · cases h
    exact ⟨rfl, .inl ‹_›⟩

theorem claimThread_error {m : Manager P} {thread : Nat} {e : ManagerError}
    (h : m.claimThread thread = .error e) :
    e = .operationBlocked .foreignThread ∧ ∃ t, m.thread = some t ∧ t ≠ thread := by
  unfold claimThread at h
  split at h
  · rename_i t ht
    split at h
    · cases h
    · cases h
      exact ⟨rfl, t, ht, ‹_›⟩
  · cases h

/-- A buffer of at least one byte with its head at offset zero is never reset. -/
theorem finish_of_pos {m : Manager P} {s : Staging} {report : RunReport} (hhead : s.head = 0)
    (hcap : 0 < s.capacity) : m.finish s report = .ok ({ m with staging := some s }, report) := by
  unfold finish
  rw [Staging.resetIfExhausted_of_pos hhead hcap]

section Stages

variable [Producer P] {m m' : Manager P} {s s' : Staging} {report report' : RunReport}

/-- **The ingest step, when it returns**: the live data grows by what the producer delivered, the
head stays where it was, and only the producer, the buffer and the counters change.  A report of
an over-count or of a failure comes with nothing delivered. -/
theorem ingest_ok (h : m.ingest s = .ok (m', s', report)) :
    s'.live = s.live ++ s.intake m.producer ∧ (s'.capacity = s.capacity ∧ s'.head = s.head) ∧
      report =
        { ingested := (s.intake m.producer).length, anomaly := report.anomaly,
          producerFailed := report.producerFailed } ∧
      (report.anomaly.isSome ∨ report.producerFailed → s.intake m.producer = []) ∧
      ∃ (q : P) (r : Recorder), r.snapshot.overflowResets ≤ m.metrics.snapshot.overflowResets ∧
        m' = { m with producer := q, staging := some s', metrics := r } := by
  unfold ingest at h
  split at h
  · rename_i hroom
    split at h
    · cases h
    · rename_i q y hread
      have hintake : s.intake m.producer = s.accepted y := by
        simp [Staging.intake, hroom, hread]
      dsimp only at h
      split at h
      · rename_i n hn
        split at h
        · rename_i s'' hc
          cases h
          have hle : n ≤ s.room := Nat.le_of_not_lt fun hlt => by
            rw [Staging.commit_of_lt (by simpa using hlt)] at hc
            cases hc
          have haccept : s.accepted y = (s.writeSpare y.region).spare.take n := by
            simp [Staging.accepted, hn, hle]
          have hs' : ((s.writeSpare y.region).commit n).1 = s' := by rw [hc]
          subst hs'
          refine ⟨?_, by simp, ?_, by simp, q, m.metrics, Nat.le_refl _, rfl⟩
          · rw [Staging.live_commit _ _ (by simpa using hle), hintake, haccept,
              Staging.live_writeSpare]
          · simp [hintake, haccept, hle]
        · rename_i s'' hc
          obtain ⟨m'', hcount, hm⟩ := Except.map_eq_ok.1 h
          cases hm
          have hlt : s.room < n := Nat.lt_of_not_le fun hle => by
            have hacc : ((s.writeSpare y.region).commit n).2 = true :=
              Staging.commit_of_le (by simpa using hle)
            rw [hc] at hacc
            cases hacc
          have haccept : s.accepted y = [] := by
            simp [Staging.accepted, hn, Nat.not_le.2 hlt]
          refine ⟨by simp [hintake, haccept], by simp, by simp [hintake, haccept],
            fun _ => by rw [hintake, haccept], q, _, Recorder.keepsResets_recordAnomaly _, ?_⟩
          rw [counting_ok hcount]
      · rename_i err hn
        obtain ⟨m'', hcount, hm⟩ := Except.map_eq_ok.1 h
        cases hm
        have haccept : s.accepted y = [] := by simp [Staging.accepted, hn]
        refine ⟨by simp [hintake, haccept], by simp, by simp [hintake, haccept],
          fun _ => by rw [hintake, haccept], q, _, Recorder.keepsResets_recordProducerError _, ?_⟩
        rw [counting_ok hcount]
  · rename_i hroom
    cases h
    have hintake : s.intake m.producer = [] := by simp [Staging.intake, hroom]
    exact ⟨by simp [hintake], ⟨rfl, rfl⟩, by simp [hintake], fun _ => hintake, m.producer,
      m.metrics, Nat.le_refl _, by cases m; rfl⟩

/-- The ingest step, when it stops: nothing was delivered, and the live data and the head are as
they were. -/
theorem ingest_error {p : Panic} (h : m.ingest s = .error (m', p)) :
    s.intake m.producer = [] ∧
      ∃ (q : P) (r : Recorder) (s' : Staging), s'.live = s.live ∧
        (s'.capacity = s.capacity ∧ s'.head = s.head) ∧
        r.snapshot.overflowResets ≤ m.metrics.snapshot.overflowResets ∧
        m' = { m with producer := q, staging := some s', metrics := r } := by
  unfold ingest at h
  split at h
  · rename_i hroom
    split at h
    · rename_i p' hread
      cases h
      exact ⟨by simp [Staging.intake, hroom, hread], m.producer, m.metrics, s, rfl, ⟨rfl, rfl⟩,
        Nat.le_refl _, by cases m; rfl⟩
    · rename_i q y hread
      have hintake : s.intake m.producer = s.accepted y := by
        simp [Staging.intake, hroom, hread]
      dsimp only at h
      split at h
      · rename_i n hn
        split at h
        · cases h
        · rename_i s'' hc
          have hlt : s.room < n := Nat.lt_of_not_le fun hle => by
            have hacc : ((s.writeSpare y.region).commit n).2 = true :=
              Staging.commit_of_le (by simpa using hle)
            rw [hc] at hacc
            cases hacc
          have hcount := counting_error (Except.map_eq_error.1 h)
          refine ⟨by simp [hintake, Staging.accepted, hn, Nat.not_le.2 hlt], q, _,
            s.writeSpare y.region, by simp, by simp, Recorder.keepsResets_recordAnomaly _, ?_⟩
          rw [hcount]
      · rename_i err hn
        have hcount := counting_error (Except.map_eq_error.1 h)
        refine ⟨by simp [hintake, Staging.accepted, hn], q, _, s.writeSpare y.region, by simp,
          by simp, Recorder.keepsResets_recordProducerError _, ?_⟩
        rw [hcount]
  · cases h

end Stages

section Wake

variable {m m' : Manager P} {s s' : Staging} {report report' : RunReport}

/-- **The wake step, when it returns.**  Below the fill level nothing happens.  At the fill
level every slot that has not consumed the window is woken with the first fill-level live
bytes, the cycle is marked notified, and if then every registered slot is acknowledged the
window is compacted away and every flag cleared. -/
theorem settle_ok {context : WakeContext} (h : m.settle s context report = .ok (m', s', report')) :
    (s.buffered < m.fillLevel ∧ m' = m ∧ s' = s ∧ report' = report) ∨
    (m.fillLevel ≤ s.buffered ∧
      ∃ r : Recorder, r.snapshot.overflowResets ≤ m.metrics.snapshot.overflowResets ∧
        ((m.registry.notifyAll.1.allAcknowledged = false ∧ s' = s ∧
            report' =
              { report with
                notified := m.registry.notifyAll.2.length
                woken := m.registry.notifyAll.2
                window := s.live.take m.fillLevel } ∧
            m' = { m with registry := m.registry.notifyAll.1, notified := true, metrics := r }) ∨
          (m.registry.notifyAll.1.allAcknowledged = true ∧ s' = s.compact m.fillLevel ∧
            report' =
              { report with
                notified := m.registry.notifyAll.2.length
                woken := m.registry.notifyAll.2
                window := s.live.take m.fillLevel
                compacted := true } ∧
            m' =
              { m with
                staging := some s'
                registry := m.registry.notifyAll.1.clearAcknowledgements
                notified := false
                metrics := r }))) := by
  unfold settle at h
  split at h
  · rename_i hfill
    have hwindow : (s.window m.fillLevel).getD [] = s.live.take m.fillLevel := by
      rw [Staging.window_of_le hfill]
      rfl
    dsimp only at h
    rw [hwindow] at h
    split at h
    · cases h
    · rename_i m₁ hwake
      have hm₁ := counting_ok hwake
      subst hm₁
      refine .inr ⟨hfill, ?_⟩
      split at h
      · rename_i hall
        obtain ⟨m₂, hcompact, hm⟩ := Except.map_eq_ok.1 h
        rw [counting_ok hcompact] at hm
        cases hm
        refine ⟨_, ?_, .inr ⟨by simpa using hall, rfl, rfl, rfl⟩⟩
        exact Nat.le_trans (Recorder.keepsResets_recordCompaction _)
          (Recorder.keepsResets_recordWakes _ _ _)
      · rename_i hall
        cases h
        exact ⟨_, Recorder.keepsResets_recordWakes _ _ _, .inl ⟨by simpa using hall, rfl, rfl, rfl⟩⟩
  · rename_i hfill
    cases h
    exact .inl ⟨Nat.lt_of_not_le hfill, rfl, rfl, rfl⟩

/-- The wake step, when it stops: after the wake, or after the compaction. -/
theorem settle_error {context : WakeContext} {p : Panic}
    (h : m.settle s context report = .error (m', p)) :
    m.fillLevel ≤ s.buffered ∧
      ∃ r : Recorder, r.snapshot.overflowResets ≤ m.metrics.snapshot.overflowResets ∧
        (m' = { m with registry := m.registry.notifyAll.1, notified := true, metrics := r } ∨
          (m.registry.notifyAll.1.allAcknowledged = true ∧
            m' =
              { m with
                staging := some (s.compact m.fillLevel)
                registry := m.registry.notifyAll.1.clearAcknowledgements
                notified := false
                metrics := r })) := by
  unfold settle at h
  split at h
  · rename_i hfill
    dsimp only at h
    split at h
    · rename_i e hwake
      cases h
      have hstop := counting_error hwake
      subst hstop
      exact ⟨hfill, _, Recorder.keepsResets_recordWakes _ _ _, .inl rfl⟩
    · rename_i m₁ hwake
      have hm₁ := counting_ok hwake
      subst hm₁
      split at h
      · rename_i hall
        have hcompact := counting_error (Except.map_eq_error.1 h)
        subst hcompact
        refine ⟨hfill, _, ?_, .inr ⟨by simpa using hall, rfl⟩⟩
        exact Nat.le_trans (Recorder.keepsResets_recordCompaction _)
          (Recorder.keepsResets_recordWakes _ _ _)
      · cases h
  · cases h

end Wake

/-! ### A whole run -/

section Cycle

variable [Producer P] {m m' : Manager P} {s : Staging} {report : RunReport} {context : WakeContext}

/-- **A run that returns.**  Writing `s₁` for the buffer after the ingest step, whose live data
is the live data before the run followed by what the producer delivered: below the fill level
the run wakes nobody; at the fill level it wakes the slots `notifyAll` reaches with the first
fill-level bytes of `s₁`, and it compacts exactly when every registered slot is acknowledged
after the wake, dropping those bytes and clearing every flag. -/
theorem cycle_ok (hhead : s.head = 0) (hcap : 0 < s.capacity)
    (h : m.cycle s context = .ok (m', report)) :
    ∃ (q : P) (r : Recorder) (s₁ : Staging),
      s₁.live = s.live ++ s.intake m.producer ∧ (s₁.capacity = s.capacity ∧ s₁.head = 0) ∧
      r.snapshot.overflowResets ≤ m.metrics.snapshot.overflowResets ∧
      report.ingested = (s.intake m.producer).length ∧ report.reset = false ∧
      (report.anomaly.isSome ∨ report.producerFailed → s.intake m.producer = []) ∧
      ((s₁.buffered < m.fillLevel ∧ report.woken = [] ∧ report.notified = 0 ∧
          report.compacted = false ∧
          m' = { m with producer := q, staging := some s₁, metrics := r }) ∨
        (m.fillLevel ≤ s₁.buffered ∧ report.woken = m.registry.notifyAll.2 ∧
          report.notified = report.woken.length ∧ report.window = s₁.live.take m.fillLevel ∧
          ((m.registry.notifyAll.1.allAcknowledged = false ∧ report.compacted = false ∧
              m' =
                { m with
                  producer := q
                  staging := some s₁
                  registry := m.registry.notifyAll.1
                  notified := true
                  metrics := r }) ∨
            (m.registry.notifyAll.1.allAcknowledged = true ∧ report.compacted = true ∧
              m' =
                { m with
                  producer := q
                  staging := some (s₁.compact m.fillLevel)
                  registry := m.registry.notifyAll.1.clearAcknowledgements
                  notified := false
                  metrics := r })))) := by
  unfold cycle at h
  obtain ⟨⟨m₁, s₁, report₁⟩, hingest, h⟩ := Except.bind_eq_ok.1 h
  obtain ⟨m₂, hrun, h⟩ := Except.bind_eq_ok.1 h
  obtain ⟨⟨m₃, s₃, report₃⟩, hsettle, h⟩ := Except.bind_eq_ok.1 h
  dsimp only at h
  obtain ⟨hlive, ⟨hcap₁, hhead₁⟩, hreport₁, hfail, q, r₁, hr₁, rfl⟩ := ingest_ok hingest
  rw [hhead] at hhead₁
  have hm₂ := counting_ok hrun
  subst hm₂
  have hr₂ := Nat.le_trans (Recorder.keepsResets_recordRun report₁.ingested r₁) hr₁
  have hwoken₁ : report₁.woken = [] := by rw [hreport₁]
  have hnotified₁ : report₁.notified = 0 := by rw [hreport₁]
  have hcompacted₁ : report₁.compacted = false := by rw [hreport₁]
  have hreset₁ : report₁.reset = false := by rw [hreport₁]
  have hingested₁ : report₁.ingested = (s.intake m.producer).length := by rw [hreport₁]
  rcases settle_ok hsettle with ⟨hbelow, rfl, rfl, rfl⟩ | ⟨hfill, r₃, hr₃, hsettled⟩
  · -- below the fill level the wake step hands back the buffer `s₃` the ingest step left
    rw [finish_of_pos hhead₁ (by rwa [hcap₁])] at h
    cases h
    exact ⟨q, _, s₃, hlive, ⟨hcap₁, hhead₁⟩, hr₂, hingested₁, hreset₁, hfail,
      .inl ⟨hbelow, hwoken₁, hnotified₁, hcompacted₁, rfl⟩⟩
  · rcases hsettled with ⟨hall, rfl, rfl, rfl⟩ | ⟨hall, rfl, rfl, rfl⟩
    · rw [finish_of_pos hhead₁ (by rwa [hcap₁])] at h
      cases h
      exact ⟨q, r₃, s₃, hlive, ⟨hcap₁, hhead₁⟩, Nat.le_trans hr₃ hr₂, hingested₁, hreset₁, hfail,
        .inr ⟨hfill, rfl, rfl, rfl, .inl ⟨hall, hcompacted₁, rfl⟩⟩⟩
    · rw [finish_of_pos (Staging.head_compact _ _) (by rwa [Staging.capacity_compact, hcap₁])] at h
      cases h
      exact ⟨q, r₃, s₁, hlive, ⟨hcap₁, hhead₁⟩, Nat.le_trans hr₃ hr₂, hingested₁, hreset₁, hfail,
        .inr ⟨hfill, rfl, rfl, rfl, .inr ⟨hall, rfl, rfl⟩⟩⟩

/-- **A run that stops** ends before the wake, just after it, or just after the compaction; in
each case the buffer holds what the ingest step left, less the window when it was compacted. -/
theorem cycle_error {p : Panic} (hhead : s.head = 0) (hcap : 0 < s.capacity)
    (h : m.cycle s context = .error (m', p)) :
    ∃ (q : P) (r : Recorder) (s₁ : Staging),
      s₁.live = s.live ++ s.intake m.producer ∧ (s₁.capacity = s.capacity ∧ s₁.head = 0) ∧
      r.snapshot.overflowResets ≤ m.metrics.snapshot.overflowResets ∧
      (m' = { m with producer := q, staging := some s₁, metrics := r } ∨
        (m.fillLevel ≤ s₁.buffered ∧
          m' =
            { m with
              producer := q
              staging := some s₁
              registry := m.registry.notifyAll.1
              notified := true
              metrics := r }) ∨
        (m.fillLevel ≤ s₁.buffered ∧ m.registry.notifyAll.1.allAcknowledged = true ∧
          m' =
            { m with
              producer := q
              staging := some (s₁.compact m.fillLevel)
              registry := m.registry.notifyAll.1.clearAcknowledgements
              notified := false
              metrics := r })) := by
  unfold cycle at h
  rcases Except.bind_eq_error.1 h with hingest | ⟨⟨m₁, s₁, report₁⟩, hingest, h⟩
  · obtain ⟨hnone, q, r, s₁, hlive, ⟨hcap₁, hhead₁⟩, hr, rfl⟩ := ingest_error hingest
    exact ⟨q, r, s₁, by rw [hlive, hnone, List.append_nil], ⟨hcap₁, hhead₁.trans hhead⟩, hr,
      .inl rfl⟩
  obtain ⟨hlive, ⟨hcap₁, hhead₁⟩, -, -, q, r₁, hr₁, rfl⟩ := ingest_ok hingest
  rw [hhead] at hhead₁
  rcases Except.bind_eq_error.1 h with hrun | ⟨m₂, hrun, h⟩
  · exact ⟨q, _, s₁, hlive, ⟨hcap₁, hhead₁⟩,
      Nat.le_trans (Recorder.keepsResets_recordRun _ r₁) hr₁, .inl (counting_error hrun)⟩
  have hm₂ := counting_ok hrun
  subst hm₂
  have hr₂ := Nat.le_trans (Recorder.keepsResets_recordRun report₁.ingested r₁) hr₁
  rcases Except.bind_eq_error.1 h with hsettle | ⟨⟨m₃, s₃, report₃⟩, hsettle, h⟩
  all_goals dsimp only at h
  · obtain ⟨hfill, r₃, hr₃, hstop⟩ := settle_error hsettle
    rcases hstop with rfl | ⟨hall, rfl⟩
    · exact ⟨q, r₃, s₁, hlive, ⟨hcap₁, hhead₁⟩, Nat.le_trans hr₃ hr₂, .inr (.inl ⟨hfill, rfl⟩)⟩
    · exact ⟨q, r₃, s₁, hlive, ⟨hcap₁, hhead₁⟩, Nat.le_trans hr₃ hr₂,
        .inr (.inr ⟨hfill, hall, rfl⟩)⟩
  -- a buffer of at least one byte with its head at zero is never reset, so the last step cannot
  -- stop
  have hcap₃ : s₃.head = 0 ∧ 0 < s₃.capacity := by
    rcases settle_ok hsettle with ⟨-, -, rfl, -⟩ | ⟨-, -, -, ⟨-, rfl, -⟩ | ⟨-, rfl, -⟩⟩
    · exact ⟨hhead₁, by rwa [hcap₁]⟩
    · exact ⟨hhead₁, by rwa [hcap₁]⟩
    · exact ⟨Staging.head_compact _ _, by rwa [Staging.capacity_compact, hcap₁]⟩
  rw [finish_of_pos hcap₃.1 hcap₃.2] at h
  cases h

end Cycle

end Manager

end RadarIngest
