import RadarIngest.Proofs.Manager.Metrics
import RadarIngest.Source.Sensor

/-!
**Ingestion from a synthetic sensor.**

A synthetic sensor delivers whole frames of `F` bytes, the frame size of its geometry: a read of
a region of at least `F` bytes writes one frame at its start and reports `F`; a read of a shorter
region drops the frame, counts it, and reports nothing.  It never over-reports and never fails,
as long as its frame size is a machine word and its noise range can be drawn from.

A manager asks its producer only when its buffer has room, and commits what the producer reports
when it fits.  So a run fed by a sensor never reports an anomaly or a failed read, and ingests a
whole frame exactly when it found room for one.  Along a session the counters then keep account
of the sensor: the bytes ingested are `F` per emitted frame, and every run that returned either
emitted a frame, dropped one, or found no room at all.

Main definitions:

* `RadarIngest.Manager.room` — the room left in a manager's buffer;
* `RadarIngest.Step.runsWithoutRoom` — the runs of a history that found no room;
* `RadarIngest.Manager.SensorAccounted` — the counters keep account of the sensor.

Main results:

* `RadarIngest.Sensor.read_short`, `RadarIngest.Sensor.read_frame` — what a read of the sensor
  does;
* `RadarIngest.Manager.run_sensor` — what a run fed by a sensor reports and does to it;
* `RadarIngest.Manager.sensor_ingestion_accounted` — **along every session, no run reports an
  anomaly or a failure, each ingests a frame exactly when it found room for one, and the counters
  keep account of the sensor's frames**.
-/

set_option autoImplicit false

namespace RadarIngest

namespace Sensor

variable {c : SensorConfig}

/-- **The samples of a frame are drawn without stopping**, two bytes a sample, as long as the
noise range can be drawn from whenever the noise is positive. -/
theorem samples_ok
    (hnoise : Binary32.lt Level.zero c.noise = true →
      ∀ rng, ∃ x, Uniform.sample (-c.noise) c.noise rng = .ok x)
    (n : Nat) (amp : Binary32) (fuel : Nat) :
    ∀ i rng, ∃ bytes rng', samples c n amp fuel i rng = .ok (bytes, rng') ∧
      bytes.length = 2 * fuel := by
  induction fuel with
  | zero => exact fun _ rng => ⟨[], rng, rfl, rfl⟩
  | succ fuel ih =>
    intro i rng
    -- the jitter is drawn when the noise is positive; the rest of the frame follows it
    rw [samples]
    split
    · obtain ⟨⟨jitter, rng₁⟩, hj⟩ := hnoise ‹_› rng
      obtain ⟨rest, rng', hrest, hlen⟩ := ih (i + 1) rng₁
      simp only [hj, hrest, bind, Except.bind, pure, Except.pure]
      exact ⟨_, _, rfl, by simp [hlen]; omega⟩
    · obtain ⟨rest, rng', hrest, hlen⟩ := ih (i + 1) rng
      simp only [hrest, bind, Except.bind, pure, Except.pure]
      exact ⟨_, _, rfl, by simp [hlen]; omega⟩

variable {s : Sensor} {region : List UInt8} {F : Nat}

/-- **A region too small for a frame drops it**: the sensor counts the frame and reports
nothing, leaving the region as it was. -/
theorem read_short (hF : s.config.geometry.frameBytes = .ok F) (hshort : region.length < F) :
    s.read region = .ok ({ s with dropped := s.dropped + 1 }, ⟨region, .ok 0⟩) := by
  simp only [read, show s.config.geometry.frameBytes = pure F from hF, pure_bind, if_pos hshort]
  rfl

/-- **A region that holds a frame gets one**: the sensor reports the frame size and counts the
frame as emitted. -/
theorem read_frame (hF : s.config.geometry.frameBytes = .ok F)
    (hnoise : Binary32.lt Level.zero s.config.noise = true →
      ∀ rng, ∃ x, Uniform.sample (-s.config.noise) s.config.noise rng = .ok x)
    (hroom : F ≤ region.length) :
    ∃ s' written, s.read region = .ok (s', ⟨written, .ok F⟩) ∧ s'.config = s.config ∧
      s'.emitted = s.emitted + 1 ∧ s'.dropped = s.dropped := by
  -- the frame size is the sample count times two, both words
  obtain ⟨n, hn, -⟩ := Except.bind_eq_ok.1 hF
  obtain ⟨bytes, rng', hsamples, -⟩ :=
    samples_ok hnoise n (amplitude s.config (s.emitted + s.dropped)) n 0 s.rng
  refine ⟨{ s with rng := rng', emitted := s.emitted + 1 }, bytes ++ region.drop bytes.length, ?_,
    rfl, rfl, rfl⟩
  simp only [read, show s.config.geometry.frameBytes = pure F from hF,
    show s.config.geometry.samplesPerFrame = pure n from hn, pure_bind, if_neg (Nat.not_lt.2 hroom),
    hsamples]
  rfl

end Sensor

namespace Manager

/-! ### A run fed by a sensor -/

section Room

variable {P : Type} {m : Manager P}

/-- The room left in a manager's buffer for the producer, as its state reports it: none without
a buffer. -/
def room (m : Manager P) : Nat := m.state.capacity - m.state.tail

theorem room_of_staging {s : Staging} (hs : m.staging = some s) : m.room = s.room := by
  simp [room, state, hs, Staging.room]

end Room

variable {m m' : Manager Sensor} {s s' : Staging} {report : RunReport} {F : Nat}

/-- **The ingest step of a manager fed by a sensor**: no anomaly and no failed read; a whole frame
when the room holds one, and nothing otherwise; the sensor counts a frame as emitted, or as
dropped when there was some room but too little. -/
theorem ingest_sensor (h : m.ingest s = .ok (m', s', report))
    (hF : m.producer.config.geometry.frameBytes = .ok F)
    (hnoise : Binary32.lt Level.zero m.producer.config.noise = true →
      ∀ rng, ∃ x, Uniform.sample (-m.producer.config.noise) m.producer.config.noise rng = .ok x) :
    report.anomaly = none ∧ report.producerFailed = false ∧
      report.ingested = (if F ≤ s.room then F else 0) ∧
      m'.producer.config = m.producer.config ∧
      m'.producer.emitted = m.producer.emitted + (if 0 < s.room ∧ F ≤ s.room then 1 else 0) ∧
      m'.producer.dropped = m.producer.dropped + (if 0 < s.room ∧ s.room < F then 1 else 0) := by
  unfold ingest at h
  split at h
  · rename_i hroom
    by_cases hshort : s.room < F
    · -- no room for a frame: the sensor drops it and reports nothing
      have hread : Producer.read m.producer s.spare =
          .ok ({ m.producer with dropped := m.producer.dropped + 1 }, ⟨s.spare, .ok 0⟩) :=
        Sensor.read_short hF (by simpa using hshort)
      rw [hread] at h
      dsimp only at h
      split at h
      · cases h
        simp [hroom, hshort, Nat.not_le.2 hshort]
      · rename_i hcommit
        have := Staging.commit_of_le (show 0 ≤ (s.writeSpare s.spare).room from Nat.zero_le _)
        rw [hcommit] at this
        cases this
    · -- a frame: the sensor writes it and reports its size, which fits
      have hfits : F ≤ s.room := Nat.not_lt.1 hshort
      obtain ⟨q, written, hread, hconfig, hemitted, hdropped⟩ :=
        Sensor.read_frame hF hnoise (show F ≤ s.spare.length by simpa using hfits)
      rw [show Producer.read m.producer s.spare = _ from hread] at h
      dsimp only at h
      split at h
      · cases h
        simp [hroom, hshort, hfits, hconfig, hemitted, hdropped]
      · rename_i hcommit
        have := Staging.commit_of_le (show F ≤ (s.writeSpare written).room by simpa using hfits)
        rw [hcommit] at this
        cases this
  · -- no room at all: the sensor is not asked
    rename_i hroom
    cases h
    have hzero : s.room = 0 := by omega
    simp [hzero]
    omega

/-- **A run fed by a sensor that returns** reports no anomaly and no failed read, ingests a whole
frame exactly when it found room for one, and counts the frame at the sensor as emitted, or as
dropped when it found some room but too little. -/
theorem run_sensor (hF : m.producer.config.geometry.frameBytes = .ok F)
    (hnoise : Binary32.lt Level.zero m.producer.config.noise = true →
      ∀ rng, ∃ x, Uniform.sample (-m.producer.config.noise) m.producer.config.noise rng = .ok x)
    {context : WakeContext} {thread : Nat} (h : m.run context thread = (m', .ok report)) :
    report.anomaly = none ∧ report.producerFailed = false ∧
      report.ingested = (if F ≤ m.room then F else 0) ∧
      m'.producer.config = m.producer.config ∧
      m'.producer.emitted = m.producer.emitted + (if 0 < m.room ∧ F ≤ m.room then 1 else 0) ∧
      m'.producer.dropped = m.producer.dropped + (if 0 < m.room ∧ m.room < F then 1 else 0) := by
  obtain ⟨s, hs, -, hcycle⟩ := run_ok h
  obtain ⟨m₁, s₁, r₁, hingest, hq, hi, ha, hf⟩ := cycle_ingest hcycle
  -- the ingest step ran on the manager bound to the thread, with the same sensor
  have hsensor := ingest_sensor hingest hF hnoise
  rw [room_of_staging hs, hq, hi, ha, hf]
  exact hsensor

end Manager

/-! ### Along a session -/

namespace Step

variable {P : Type}

/-- The number of steps of a history that are runs that returned having found no room. -/
def runsWithoutRoom (h : List (Step P)) : Nat :=
  h.countP fun st => st.ran.isSome && st.pre.room == 0

theorem runsWithoutRoom_append_singleton (h : List (Step P)) (st : Step P) :
    runsWithoutRoom (h ++ [st]) =
      runsWithoutRoom h + if st.ran.isSome ∧ st.pre.room = 0 then 1 else 0 := by
  simp [runsWithoutRoom, List.countP_append]

end Step

namespace Manager

variable {c : SensorConfig} {F : Nat}

/-- **The counters keep account of a sensor** of configuration `c` and frame size `F`, after the
steps `h`: `F` bytes ingested for each emitted frame, and one run for each emitted or dropped
frame and for each run that found no room. -/
structure SensorAccounted (c : SensorConfig) (F : Nat) (h : List (Step Sensor))
    (m : Manager Sensor) : Prop where
  config : m.producer.config = c
  counters : ∃ k, m.metrics = .live k ∧ k.bytesIngested = F * m.producer.emitted ∧
    k.runs = m.producer.emitted + m.producer.dropped + Step.runsWithoutRoom h

/-- One run's share of the account: a run ingests `F` bytes for each frame it has the sensor emit,
and has it emit a frame, drop one, or finds no room, exactly one of the three. -/
theorem frame_account (F room : Nat) :
    (if F ≤ room then F else 0) = F * (if 0 < room ∧ F ≤ room then 1 else 0) ∧
      (if 0 < room ∧ F ≤ room then 1 else 0) + (if 0 < room ∧ room < F then 1 else 0) +
        (if room = 0 then 1 else 0) = 1 := by
  by_cases hpos : 0 < room
  · by_cases hfit : F ≤ room <;> simp [hpos, hfit, Nat.pos_iff_ne_zero.1 hpos]
  · -- no room: only a frame of no bytes fits
    have hzero : room = 0 := by omega
    by_cases hF : F = 0 <;> simp [hzero, hF]

namespace SensorAccounted

variable {h : List (Step Sensor)} {m : Manager Sensor}

theorem start (n : Nat) : SensorAccounted c F [] (withSlots (Sensor.ofConfig c) n) :=
  ⟨rfl, {}, rfl, rfl, rfl⟩

/-- **Every call that returns keeps the account.** -/
theorem step (hF : c.geometry.frameBytes = .ok F)
    (hnoise : Binary32.lt Level.zero c.noise = true →
      ∀ rng, ∃ x, Uniform.sample (-c.noise) c.noise rng = .ok x)
    (ha : SensorAccounted c F h m) {op : Op} (hgo : (m.exec op).2.stops = false) :
    SensorAccounted c F (h ++ [m.stepOf op]) (m.exec op).1 := by
  obtain ⟨hconfig, k, hk, hbytes, hruns⟩ := ha
  have hmetrics := metrics_exec hk op hgo
  cases hran : (m.stepOf op).ran with
  | none =>
      -- not a run that returned: neither the sensor nor the counters move
      obtain ⟨hq, -⟩ := exec_frame_of_not_ran hran hgo
      rw [hran] at hmetrics
      refine ⟨by rw [hq, hconfig], k, by simpa using hmetrics, by rw [hq, hbytes], ?_⟩
      rw [hq, hruns, Step.runsWithoutRoom_append_singleton, hran]
      simp
  | some run =>
      -- a run that returned: one frame emitted, one dropped, or no room found
      obtain ⟨context, report⟩ := run
      obtain ⟨thread, rfl, hrun⟩ := run_of_ran hran
      rw [hran] at hmetrics
      obtain ⟨-, -, hingested, hconfig', hemitted, hdropped⟩ :=
        run_sensor (hconfig ▸ hF) (hconfig ▸ hnoise) hrun
      obtain ⟨hshare, hone⟩ := frame_account F m.room
      refine ⟨by rw [hconfig', hconfig], _, hmetrics, ?_, ?_⟩
      · simp only [Counters.afterRuns, Option.toList_some, List.map_cons, List.map_nil,
          List.sum_cons, List.sum_nil, Nat.add_zero]
        rw [hemitted, Nat.mul_add, ← hshare, hingested, hbytes]
      · simp only [Counters.afterRuns, Option.toList_some, List.length_cons, List.length_nil,
          Step.runsWithoutRoom_append_singleton, hran, stepOf_pre, Option.isSome_some, true_and]
        rw [hemitted, hdropped, hruns]
        omega

end SensorAccounted

/-- **Ingestion from a synthetic sensor.**  Let a manager of any number of slots be fed by a
fresh sensor whose frame size `F` is a machine word and whose noise range can be drawn from.
Along every session, no run that returns reports an anomaly or a failed read, and each ingests
`F` bytes when it found room for a frame and nothing otherwise; and before every call, and after
the session when no call stops, the counters hold `F` bytes for each frame the sensor emitted and
one run for each frame it emitted or dropped and for each run that found no room. -/
theorem sensor_ingestion_accounted (c : SensorConfig) {F : Nat}
    (hF : c.geometry.frameBytes = .ok F)
    (hnoise : Binary32.lt Level.zero c.noise = true →
      ∀ rng, ∃ x, Uniform.sample (-c.noise) c.noise rng = .ok x)
    (n : Nat) (ops : List Op) :
    let m := withSlots (Sensor.ofConfig c) n
    (∀ st ∈ m.steps ops, ∀ report, st.outcome = .ran report →
      report.anomaly = none ∧ report.producerFailed = false ∧
        report.ingested = if F ≤ st.pre.room then F else 0) ∧
    (∀ before st rest, m.steps ops = before ++ st :: rest →
      st.pre.metrics.snapshot.bytesIngested = F * st.pre.producer.emitted ∧
      st.pre.metrics.snapshot.runs =
        st.pre.producer.emitted + st.pre.producer.dropped + Step.runsWithoutRoom before) ∧
    ((∀ st ∈ m.steps ops, st.outcome.stops = false) →
      (m.after ops).metrics.snapshot.bytesIngested = F * (m.after ops).producer.emitted ∧
      (m.after ops).metrics.snapshot.runs = (m.after ops).producer.emitted +
        (m.after ops).producer.dropped + Step.runsWithoutRoom (m.steps ops)) := by
  intro m
  have hstep : ∀ h m' op, op ∈ ops → SensorAccounted c F h m' → (m'.exec op).2.stops = false →
      SensorAccounted c F (h ++ [m'.stepOf op]) (m'.exec op).1 :=
    fun _ _ _ _ ha hgo => ha.step hF hnoise hgo
  -- the account, read off the snapshot
  have hread : ∀ h m', SensorAccounted c F h m' →
      m'.metrics.snapshot.bytesIngested = F * m'.producer.emitted ∧
      m'.metrics.snapshot.runs = m'.producer.emitted + m'.producer.dropped +
        Step.runsWithoutRoom h := by
    rintro h m' ⟨-, k, hk, hbytes, hruns⟩
    rw [hk]
    exact ⟨hbytes, hruns⟩
  refine ⟨fun st hst report hout => ?_, fun before st rest hsplit => ?_, fun hgo => ?_⟩
  · -- the run is made from a state with the sensor's configuration
    obtain ⟨before, rest, hsplit⟩ := List.append_of_mem hst
    have ha := history_invariant (SensorAccounted c F) hstep (SensorAccounted.start n) hsplit
    obtain ⟨context, thread, -, hrun⟩ := run_of_mem_steps hst hout
    obtain ⟨hanomaly, hfailed, hingested, -⟩ :=
      run_sensor (ha.config ▸ hF) (ha.config ▸ hnoise) hrun
    exact ⟨hanomaly, hfailed, hingested⟩
  · exact hread _ _ (by
      simpa using history_invariant (SensorAccounted c F) hstep (SensorAccounted.start n) hsplit)
  · exact hread _ _ (by
      simpa using history_after (SensorAccounted c F) hstep (SensorAccounted.start n) hgo)

/-- A sensor of one-sample frames, whose noise is not a number and so never drawn, feeds a buffer
of two frames that a task subscriber holds back: two runs emit a frame each, and the third finds
no room. -/
theorem sensor_ingestion_two_frames :
    let c : SensorConfig := { geometry := ⟨1, 1, 1⟩, noise := Binary32.nan }
    let m := withSlots (Sensor.ofConfig c) 1
    let ops := [.init 4 2, .subscribe ⟨"t", 1, .task⟩, .run .task 0, .run .task 0, .run .task 0]
    (m.after ops).metrics.snapshot.bytesIngested = 2 * (m.after ops).producer.emitted ∧
      (m.after ops).metrics.snapshot.runs = (m.after ops).producer.emitted +
        (m.after ops).producer.dropped + Step.runsWithoutRoom (m.steps ops) :=
  (sensor_ingestion_accounted _ rfl (fun h => absurd h (by decide)) 1 _).2.2 (by decide)

end Manager

end RadarIngest
