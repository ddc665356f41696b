import RadarIngest.Proofs.Buffer.Budget
import RadarIngest.Proofs.Manager.Sensing
import RadarIngest.Proofs.Simulation.Sizing
import RadarIngest.Simulation.Runner

/-!
**A simulation without consumers.**

With no consumer subscribed, nobody holds a window back: every run that reaches the fill level
compacts it at once.  The buffer then never holds a whole window between interrupts, only the
`j mod fillFrames` frames since the last compaction, so the sensor always finds room for a frame
and never drops one.  After `j` interrupts the sensor has emitted `j` frames, the counters hold `j`
runs, `j` frames of bytes and one compaction for every `fillFrames` runs, and nothing else.

This holds for as long as the byte counter, a machine word, can hold the bytes ingested.  A run
that would take it past the word range stops the program in the counter update; the interrupt
thread then dies, and the simulation fails.

Main definitions:

* `RadarIngest.Simulation.Sized` — what a run without consumers relies on from its
  configuration;
* `RadarIngest.Simulation.Unattended` — the manager after `j` interrupts.

Main results:

* `RadarIngest.Manager.ingest_frame` — the ingest step when the room holds a frame;
* `RadarIngest.Simulation.run_unattended` — **one interrupt keeps the description**, and
  `RadarIngest.Simulation.run_unattended_overflow` — the interrupt that overflows the byte counter
  stops;
* `RadarIngest.Simulation.interrupts_unattended`,
  `RadarIngest.Simulation.interrupts_unattended_overflow` — the interrupt loop;
* `RadarIngest.Simulation.withConfig_unattended` — the manager a sized configuration starts with;
* `RadarIngest.Simulation.execute_without_consumers` — **the outcome of a simulation without
  consumers, in closed form** (`RadarIngest.Simulation.unattendedResult`);
* `RadarIngest.Simulation.byte_counter_overflow_fails` — a simulation long enough to overflow the
  byte counter fails.
-/

set_option autoImplicit false

namespace RadarIngest

/-! ### Counter updates that fit -/

namespace Recorder

variable {c c' : Counters}

theorem update_of_ok {f : Counters → Except Panic Counters} (h : f c = .ok c') :
    (live c).update f = (live c', none) := by
  simp [update, h]

theorem recordRun_of_lt {n : Nat} (hruns : c.runs + 1 < wordBound)
    (hbytes : c.bytesIngested + n < wordBound) :
    (live c).recordRun n =
      (live { c with runs := c.runs + 1, bytesIngested := c.bytesIngested + n }, none) := by
  apply update_of_ok
  simp [Word.add, hruns, hbytes, bind, Except.bind, pure, Except.pure]

/-- A run whose bytes would take the byte counter past the word range stops the program, whether
or not the run counter still fits. -/
theorem recordRun_of_le {n : Nat} (hbytes : wordBound ≤ c.bytesIngested + n) :
    (live c).recordRun n = (poisoned, some .addOverflow) := by
  by_cases hruns : c.runs + 1 < wordBound
  · simp [recordRun, update, Word.add, hruns, Nat.not_lt.2 hbytes, bind, Except.bind]
  · simp [recordRun, update, Word.add, hruns, bind, Except.bind]

theorem recordWakes_of_lt {n : Nat} (h : c.interruptWakes + n < wordBound) :
    (live c).recordWakes .interrupt n =
      (live { c with interruptWakes := c.interruptWakes + n }, none) := by
  apply update_of_ok
  simp [Word.add, h, bind, Except.bind, pure, Except.pure]

theorem recordCompaction_of_lt (h : c.compactions + 1 < wordBound) :
    (live c).recordCompaction = (live { c with compactions := c.compactions + 1 }, none) := by
  apply update_of_ok
  simp [Word.add, h, bind, Except.bind, pure, Except.pure]

end Recorder

/-! ### A registry with nobody in it -/

namespace Registry

@[simp] theorem active_empty (n : Nat) : (empty n).active = 0 := rfl

/-- Waking a registry with nobody in it wakes nobody and changes nothing. -/
@[simp] theorem notifyAll_empty (n : Nat) : (empty n).notifyAll = (empty n, []) := by
  simp [notifyAll, empty, wakeSlot]

@[simp] theorem allAcknowledged_empty (n : Nat) : (empty n).allAcknowledged = true := by
  simp [allAcknowledged, empty]

@[simp] theorem clearAcknowledgements_empty (n : Nat) :
    (empty n).clearAcknowledgements = empty n := by
  simp [clearAcknowledgements, empty]

end Registry

/-! ### The buffer -/

namespace Staging

/-- A commit that fits moves the tail by the count, and leaves the head. -/
theorem commit_eq_of_le {s : Staging} {count : Nat} (h : count ≤ s.room) :
    ∃ s', s.commit count = (s', true) ∧ s'.tail = s.tail + count ∧ s'.capacity = s.capacity ∧
      s'.head = s.head :=
  ⟨(s.commit count).1, by simp [commit, h], by simp [commit, h], capacity_commit s count,
    head_commit s count⟩

/-- A compaction leaves at offset zero the live bytes it does not drop. -/
theorem tail_compact (s : Staging) (consumed : Nat) :
    (s.compact consumed).tail = s.buffered - min consumed s.buffered := by
  have h := congrArg List.length (live_compact s consumed)
  simpa [buffered] using h

end Staging

namespace Manager

/-! ### The steps of a run, forwards -/

section Plain

variable {P : Type} {m : Manager P}

/-- A manager unbound, or bound to the calling thread, lets the run through and is bound to it. -/
theorem claimThread_of_free {thread : Nat} (h : m.thread = none ∨ m.thread = some thread) :
    m.claimThread thread = .ok { m with thread := some thread } := by
  rcases h with h | h
  · simp [claimThread, h]
  · cases m
    simp_all [claimThread]

theorem counting_of_update {u : Recorder → Recorder × Option Panic} {r : Recorder}
    (h : u m.metrics = (r, none)) : m.counting u = .ok { m with metrics := r } := by
  simp [counting, h]

theorem counting_of_stop {u : Recorder → Recorder × Option Panic} {r : Recorder} {p : Panic}
    (h : u m.metrics = (r, some p)) : m.counting u = .error ({ m with metrics := r }, p) := by
  simp [counting, h]

/-- Below the fill level the wake step does nothing. -/
theorem settle_of_lt {s : Staging} {context : WakeContext} {report : RunReport}
    (h : s.buffered < m.fillLevel) : m.settle s context report = .ok (m, s, report) := by
  unfold settle
  rw [if_neg (Nat.not_le.2 h)]

/-- **At the fill level with nobody subscribed**, the wake step wakes nobody and compacts the
window away at once. -/
theorem settle_of_empty {s : Staging} {report : RunReport} {n : Nat} {k : Counters}
    (hreg : m.registry = Registry.empty n) (hk : m.metrics = .live k)
    (hfill : m.fillLevel ≤ s.buffered) (hwakes : k.interruptWakes < wordBound)
    (hcompactions : k.compactions + 1 < wordBound) :
    m.settle s .interrupt report =
      .ok ({ m with
          staging := some (s.compact m.fillLevel)
          notified := false
          metrics := .live { k with compactions := k.compactions + 1 } },
        s.compact m.fillLevel,
        { report with
          notified := 0
          woken := []
          window := (s.window m.fillLevel).getD []
          compacted := true }) := by
  have hwake : (Recorder.live k).recordWakes .interrupt 0 = (.live k, none) := by
    simpa using
      Recorder.recordWakes_of_lt (show k.interruptWakes + 0 < wordBound by simpa using hwakes)
  simp [settle, hfill, hreg, counting, hk, hwake, Recorder.recordCompaction_of_lt hcompactions,
    Except.map]

end Plain

variable {P : Type} [Producer P] {m : Manager P}

/-- A cycle whose four steps all go through. -/
theorem cycle_of_steps {s s₁ s₂ : Staging} {m₁ m₂ m₃ m' : Manager P}
    {context : WakeContext} {r₁ r₂ report : RunReport}
    (hingest : m.ingest s = .ok (m₁, s₁, r₁))
    (hcount : m₁.counting (·.recordRun r₁.ingested) = .ok m₂)
    (hsettle : m₂.settle s₁ context r₁ = .ok (m₃, s₂, r₂))
    (hfinish : m₃.finish s₂ r₂ = .ok (m', report)) :
    m.cycle s context = .ok (m', report) := by
  simp [cycle, hingest, hcount, hsettle, hfinish, bind, Except.bind]

/-- A cycle that stops when it counts the run. -/
theorem cycle_of_count_stop {s s₁ : Staging} {m₁ m' : Manager P} {context : WakeContext}
    {r₁ : RunReport} {p : Panic} (hingest : m.ingest s = .ok (m₁, s₁, r₁))
    (hcount : m₁.counting (·.recordRun r₁.ingested) = .error (m', p)) :
    m.cycle s context = .error (m', p) := by
  simp [cycle, hingest, hcount, bind, Except.bind]

theorem run_of_cycle {s : Staging} {context : WakeContext} {thread : Nat} {m' : Manager P}
    {report : RunReport} (hs : m.staging = some s)
    (hthread : m.thread = none ∨ m.thread = some thread)
    (hcycle : ({ m with thread := some thread } : Manager P).cycle s context = .ok (m', report)) :
    m.run context thread = (m', .ok report) := by
  unfold run
  rw [hs]
  dsimp only
  rw [claimThread_of_free hthread]
  dsimp only
  rw [hcycle]

theorem run_of_cycle_stop {s : Staging} {context : WakeContext} {thread : Nat} {m' : Manager P}
    {p : Panic} (hs : m.staging = some s) (hthread : m.thread = none ∨ m.thread = some thread)
    (hcycle : ({ m with thread := some thread } : Manager P).cycle s context = .error (m', p)) :
    m.run context thread = (m', .error (.stopped p)) := by
  unfold run
  rw [hs]
  dsimp only
  rw [claimThread_of_free hthread]
  dsimp only
  rw [hcycle]

end Manager

/-! ### Ingesting a frame -/

namespace Manager

variable {m : Manager Sensor} {s : Staging} {F : Nat}

/-- **The ingest step when the room holds a frame**: the sensor writes one, which is committed,
and counts it as emitted. -/
theorem ingest_frame (hF : m.producer.config.geometry.frameBytes = .ok F)
    (hnoise : Binary32.lt Level.zero m.producer.config.noise = true →
      ∀ rng, ∃ x, Uniform.sample (-m.producer.config.noise) m.producer.config.noise rng = .ok x)
    (hpos : 0 < F) (hroom : F ≤ s.room) :
    ∃ (q : Sensor) (s' : Staging),
      m.ingest s = .ok ({ m with producer := q, staging := some s' }, s', { ingested := F }) ∧
      q.config = m.producer.config ∧ q.emitted = m.producer.emitted + 1 ∧
      q.dropped = m.producer.dropped ∧ s'.capacity = s.capacity ∧ s'.tail = s.tail + F ∧
      s'.head = s.head := by
  obtain ⟨q, written, hread, hconfig, hemitted, hdropped⟩ :=
    Sensor.read_frame hF hnoise (show F ≤ s.spare.length by simpa using hroom)
  obtain ⟨s', hcommit, htail, hcap, hhead⟩ :=
    Staging.commit_eq_of_le (show F ≤ (s.writeSpare written).room by simpa using hroom)
  refine ⟨q, s', ?_, hconfig, hemitted, hdropped, by simpa using hcap, by simpa using htail,
    by simpa using hhead⟩
  unfold ingest
  rw [if_pos (by omega), show Producer.read m.producer s.spare = _ from hread]
  dsimp only
  rw [hcommit]

end Manager

/-! ### Configurations -/

namespace SimulationConfig

variable {c : SimulationConfig} {mc : ManagerConfig}

/-- **A manager configuration that does not overflow** sizes the buffer and the fill level in
frames of `F` bytes, and keeps the slot count. -/
theorem toManagerConfig_eq_ok {F : Nat} (h : c.toManagerConfig = .ok mc)
    (hF : c.geometry.frameBytes = .ok F) :
    mc =
      { bufferSize := F * c.bufferFrames
        fillLevel := F * c.fillFrames
        maxSubscribers := c.maxSubscribers } := by
  rw [FrameGeometry.eq_byteCount_of_frameBytes_eq_ok hF]
  exact eq_byteSizes_of_toManagerConfig_eq_ok h

end SimulationConfig

namespace Simulation

/-- **What a run without consumers relies on from its configuration**: frames of `F > 0` bytes, a
fill level of `1 ≤ fillFrames ≤ bufferFrames` frames, at least one slot, and a noise range the
sensor can draw from whenever the noise is positive. -/
structure Sized (c : SimulationConfig) (F : Nat) : Prop where
  frameBytes : c.geometry.frameBytes = .ok F
  frame_pos : 0 < F
  fill_pos : 0 < c.fillFrames
  fill_le : c.fillFrames ≤ c.bufferFrames
  noise : Binary32.lt Level.zero c.noise = true →
    ∀ rng, ∃ x, Uniform.sample (-c.noise) c.noise rng = .ok x

/-- A configuration whose manager configuration does not overflow and passes validation is
sized. -/
theorem sized_of_valid {c : SimulationConfig} {mc : ManagerConfig} {F : Nat}
    (hmc : c.toManagerConfig = .ok mc) (hvalid : mc.validate = .ok ())
    (hF : c.geometry.frameBytes = .ok F)
    (hnoise : Binary32.lt Level.zero c.noise = true →
      ∀ rng, ∃ x, Uniform.sample (-c.noise) c.noise rng = .ok x) : Sized c F := by
  obtain rfl := SimulationConfig.eq_byteSizes_of_toManagerConfig_eq_ok hmc
  obtain rfl := FrameGeometry.eq_byteCount_of_frameBytes_eq_ok hF
  obtain ⟨hs, hc, hr, hfill, hle, -⟩ := (SimulationConfig.byteSizes_validate_eq_ok_iff c).1 hvalid
  exact ⟨hF, (FrameGeometry.byteCount_pos_iff _).2 ⟨hs, hc, hr⟩, hfill, hle, hnoise⟩

/-- The next remainder modulo `q`: one more, or zero with the quotient one more. -/
theorem mod_succ_cases (j : Nat) {q : Nat} (hq : 0 < q) :
    (j % q + 1 < q ∧ (j + 1) % q = j % q + 1 ∧ (j + 1) / q = j / q) ∨
    (j % q + 1 = q ∧ (j + 1) % q = 0 ∧ (j + 1) / q = j / q + 1) := by
  have hlt := Nat.mod_lt j hq
  have hsplit := Nat.div_add_mod j q
  by_cases h : j % q + 1 < q
  · obtain ⟨hdiv, hmod⟩ :=
      (Nat.div_mod_unique hq).2 ⟨show j % q + 1 + q * (j / q) = j + 1 by omega, h⟩
    exact .inl ⟨h, hmod, hdiv⟩
  · have hstep : q * (j / q + 1) = q * (j / q) + q := Nat.mul_succ q (j / q)
    obtain ⟨hdiv, hmod⟩ :=
      (Nat.div_mod_unique hq).2 ⟨show 0 + q * (j / q + 1) = j + 1 by omega, hq⟩
    exact .inr ⟨by omega, hmod, hdiv⟩

/-- The counters after `j` interrupts without consumers: `j` runs, `j` frames of bytes and one
compaction for every `fillFrames` runs. -/
def tally (c : SimulationConfig) (F j : Nat) : Counters :=
  { runs := j, bytesIngested := j * F, compactions := j / c.fillFrames }

/-- A run that does not complete the window adds a run and a frame of bytes. -/
theorem tally_succ_of_div_eq {c : SimulationConfig} {F j : Nat}
    (hdiv : (j + 1) / c.fillFrames = j / c.fillFrames) :
    { tally c F j with runs := j + 1, bytesIngested := j * F + F } = tally c F (j + 1) := by
  simp [tally, hdiv, Nat.add_one_mul]

/-- A run that completes the window adds a run, a frame of bytes and a compaction. -/
theorem tally_succ_of_div_succ {c : SimulationConfig} {F j : Nat}
    (hdiv : (j + 1) / c.fillFrames = j / c.fillFrames + 1) :
    { tally c F j with runs := j + 1, bytesIngested := j * F + F,
                       compactions := j / c.fillFrames + 1 } = tally c F (j + 1) := by
  simp [tally, hdiv, Nat.add_one_mul]

/-- **The manager of a run without consumers, after `j` interrupts.**  The sensor of the
configuration has emitted `j` frames and dropped none; the buffer of `F · bufferFrames` bytes holds
the `j mod fillFrames` frames since the last compaction; nobody is subscribed and the cycle is not
marked notified; the manager is bound to the interrupt thread, if to any; and the counters hold
`j` runs, `j` frames of bytes and one compaction for every `fillFrames` runs. -/
structure Unattended (c : SimulationConfig) (F j : Nat) (m : Manager Sensor) : Prop where
  config : m.producer.config = c.toSensorConfig
  emitted : m.producer.emitted = j
  dropped : m.producer.dropped = 0
  staging : ∃ s, m.staging = some s ∧ s.capacity = F * c.bufferFrames ∧
    s.tail = j % c.fillFrames * F ∧ s.head = 0
  fillLevel : m.fillLevel = F * c.fillFrames
  registry : m.registry = Registry.empty c.maxSubscribers
  notified : m.notified = false
  thread : m.thread = none ∨ m.thread = some 1
  metrics : m.metrics = .live (tally c F j)

variable {c : SimulationConfig} {F j : Nat} {m : Manager Sensor}

/-- Between interrupts the buffer holds less than a window, so there is room for a frame. -/
theorem Unattended.room (hc : Sized c F) (h : Unattended c F j m) :
    ∃ s, m.staging = some s ∧ F ≤ s.room ∧ 0 < s.capacity ∧
      s.capacity = F * c.bufferFrames ∧ s.tail = j % c.fillFrames * F ∧ s.head = 0 := by
  obtain ⟨s, hs, hcap, htail, hhead⟩ := h.staging
  have hr : j % c.fillFrames + 1 ≤ c.fillFrames := Nat.mod_lt j hc.fill_pos
  -- the frames since the last compaction and one more fit in a window, which fits the buffer
  have hwindow := Nat.mul_le_mul_right F hr
  have hbuffer := Nat.mul_le_mul_right F hc.fill_le
  have hone := Nat.add_one_mul (j % c.fillFrames) F
  have hcomm := Nat.mul_comm F c.bufferFrames
  refine ⟨s, hs, ?_, ?_, hcap, htail, hhead⟩
  · simp only [Staging.room]
    omega
  · have := hc.frame_pos
    omega

/-- **Every interrupt starts by ingesting a frame**: the manager is bound to the interrupt thread,
the sensor writes a frame into the room there always is, and the frame is committed. -/
theorem Unattended.ingest (hc : Sized c F) (h : Unattended c F j m) :
    ∃ (s : Staging) (q : Sensor) (s₁ : Staging), m.staging = some s ∧
      ({ m with thread := some 1 } : Manager Sensor).ingest s =
        .ok ({ m with thread := some 1, producer := q, staging := some s₁ }, s₁,
          { ingested := F }) ∧
      q.config = c.toSensorConfig ∧ q.emitted = j + 1 ∧ q.dropped = 0 ∧
      s₁.capacity = F * c.bufferFrames ∧ 0 < s₁.capacity ∧
      s₁.tail = j % c.fillFrames * F + F ∧ s₁.head = 0 := by
  obtain ⟨s, hs, hroom, hpos, hcap, htail, hhead⟩ := h.room hc
  -- the run is made by the manager bound to the interrupt thread, with the same sensor
  let m₁ : Manager Sensor := { m with thread := some 1 }
  have hF : m₁.producer.config.geometry.frameBytes = .ok F := by
    rw [show m₁.producer = m.producer from rfl, h.config]
    exact hc.frameBytes
  have hnoise : Binary32.lt Level.zero m₁.producer.config.noise = true →
      ∀ rng, ∃ x,
        Uniform.sample (-m₁.producer.config.noise) m₁.producer.config.noise rng = .ok x := by
    rw [show m₁.producer = m.producer from rfl, h.config]
    exact hc.noise
  obtain ⟨q, s₁, hingest, hconfig, hemitted, hdropped, hcap₁, htail₁, hhead₁⟩ :=
    Manager.ingest_frame hF hnoise hc.frame_pos hroom
  refine ⟨s, q, s₁, hs, hingest, ?_, ?_, ?_, ?_, ?_, ?_, ?_⟩
  · rw [hconfig, h.config]
  · rw [hemitted, h.emitted]
  · rw [hdropped, h.dropped]
  · rw [hcap₁, hcap]
  · rwa [hcap₁]
  · rw [htail₁, htail]
  · rw [hhead₁, hhead]

/-- **Every interrupt counts its run**, with a frame of bytes, as long as the byte counter can
hold them. -/
theorem Unattended.count (hc : Sized c F) (h : Unattended c F j m) {m₁ : Manager Sensor}
    (hm₁ : m₁.metrics = m.metrics) (hbytes : (j + 1) * F < wordBound) :
    m₁.counting (·.recordRun F) =
      .ok { m₁ with
        metrics := .live { tally c F j with runs := j + 1, bytesIngested := j * F + F } } := by
  -- the run counter stays below the byte counter, which fits
  have hruns : j + 1 < wordBound :=
    Nat.lt_of_le_of_lt (Nat.le_mul_of_pos_right (j + 1) hc.frame_pos) hbytes
  have hbytes' : j * F + F < wordBound := by rw [← Nat.add_one_mul]; exact hbytes
  apply Manager.counting_of_update
  rw [hm₁, h.metrics]
  exact Recorder.recordRun_of_lt hruns hbytes'

/-- **One interrupt keeps the description**, while the byte counter can hold the bytes: the run
ingests a frame, wakes nobody, and compacts the window away when the frame completes it. -/
theorem run_unattended (hc : Sized c F) (h : Unattended c F j m)
    (hbytes : (j + 1) * F < wordBound) :
    ∃ m' report, m.run .interrupt 1 = (m', .ok report) ∧ report.woken = [] ∧
      Unattended c F (j + 1) m' := by
  obtain ⟨s, q, s₁, hs, hingest, hconfig, hemitted, hdropped, hcap₁, hpos₁, htail₁, hhead₁⟩ :=
    h.ingest hc
  have hcount :
      ({ m with thread := some 1, producer := q, staging := some s₁ } : Manager Sensor).counting
        (·.recordRun F) = _ :=
    h.count hc rfl hbytes
  rcases mod_succ_cases j hc.fill_pos with ⟨hbelow, hmod, hdiv⟩ | ⟨hfull, hmod, hdiv⟩
  · -- the frame does not complete the window: nothing more happens
    have hlt : s₁.buffered < m.fillLevel := by
      have := (Nat.mul_lt_mul_right hc.frame_pos).2 hbelow
      rw [Staging.buffered_of_head_eq_zero hhead₁, htail₁, h.fillLevel, ← Nat.add_one_mul,
        Nat.mul_comm F]
      exact this
    have hcycle : ({ m with thread := some 1 } : Manager Sensor).cycle s .interrupt = .ok (_, _) :=
      Manager.cycle_of_steps hingest hcount (Manager.settle_of_lt hlt)
        (Manager.finish_of_pos hhead₁ hpos₁)
    refine ⟨_, _, Manager.run_of_cycle hs h.thread hcycle, rfl, ?_⟩
    exact
      { config := hconfig
        emitted := hemitted
        dropped := hdropped
        staging := ⟨s₁, rfl, hcap₁, by rw [htail₁, hmod, Nat.add_one_mul], hhead₁⟩
        fillLevel := h.fillLevel
        registry := h.registry
        notified := h.notified
        thread := .inr rfl
        metrics := by rw [← tally_succ_of_div_eq hdiv] }
  · -- the frame completes the window, which nobody holds back: it is compacted away
    have hwindow : s₁.tail = F * c.fillFrames := by
      rw [htail₁, ← Nat.add_one_mul, hfull, Nat.mul_comm]
    have hfill : m.fillLevel ≤ s₁.buffered :=
      Nat.le_of_eq (by rw [Staging.buffered_of_head_eq_zero hhead₁, hwindow, h.fillLevel])
    have hcompactions : j / c.fillFrames + 1 < wordBound :=
      Nat.lt_of_le_of_lt (Nat.succ_le_succ (Nat.div_le_self j _))
        (Nat.lt_of_le_of_lt (Nat.le_mul_of_pos_right (j + 1) hc.frame_pos) hbytes)
    have hcycle : ({ m with thread := some 1 } : Manager Sensor).cycle s .interrupt = .ok (_, _) :=
      Manager.cycle_of_steps hingest hcount
        (Manager.settle_of_empty h.registry rfl hfill (show 0 < wordBound by decide) hcompactions)
        (Manager.finish_of_pos (Staging.head_compact _ _)
          (by rw [Staging.capacity_compact]; exact hpos₁))
    refine ⟨_, _, Manager.run_of_cycle hs h.thread hcycle, rfl, ?_⟩
    -- the compaction drops the whole window, which is all the buffer holds
    have hempty : (s₁.compact m.fillLevel).tail = (j + 1) % c.fillFrames * F := by
      rw [Staging.tail_compact, Staging.buffered_of_head_eq_zero hhead₁, hwindow, h.fillLevel,
        hmod, Nat.min_self, Nat.sub_self,
        Nat.zero_mul]
    exact
      { config := hconfig
        emitted := hemitted
        dropped := hdropped
        staging := ⟨_, rfl, by rw [Staging.capacity_compact, hcap₁], hempty,
          Staging.head_compact _ _⟩
        fillLevel := h.fillLevel
        registry := h.registry
        notified := rfl
        thread := .inr rfl
        metrics := by rw [← tally_succ_of_div_succ hdiv]; rfl }

/-- The interrupt whose frame would take the byte counter past the word range stops the program
when it counts the run. -/
theorem Unattended.count_overflow (h : Unattended c F j m) {m₁ : Manager Sensor}
    (hm₁ : m₁.metrics = m.metrics) (hbytes : wordBound ≤ (j + 1) * F) :
    m₁.counting (·.recordRun F) = .error ({ m₁ with metrics := .poisoned }, .addOverflow) := by
  have hbytes' : wordBound ≤ j * F + F := by rw [← Nat.add_one_mul]; exact hbytes
  apply Manager.counting_of_stop
  rw [hm₁, h.metrics]
  exact Recorder.recordRun_of_le hbytes'

/-- **The interrupt that would take the byte counter past the word range stops the program.** -/
theorem run_unattended_overflow (hc : Sized c F) (h : Unattended c F j m)
    (hbytes : wordBound ≤ (j + 1) * F) :
    ∃ m', m.run .interrupt 1 = (m', .error (.stopped .addOverflow)) := by
  obtain ⟨s, q, s₁, hs, hingest, -⟩ := h.ingest hc
  have hcount :
      ({ m with thread := some 1, producer := q, staging := some s₁ } : Manager Sensor).counting
        (·.recordRun F) = .error (_, .addOverflow) :=
    h.count_overflow rfl hbytes
  exact ⟨_, Manager.run_of_cycle_stop hs h.thread (Manager.cycle_of_count_stop hingest hcount)⟩

/-! ### The interrupt loop -/

section Loop

variable (threshold : Binary32)

/-- An interrupt that goes through is followed by the consumers it woke. -/
theorem interrupts_succ_of_run {n : Nat} {m m₁ : Manager Sensor} {ws : Array Worker}
    {report : RunReport} (hrun : m.run .interrupt 1 = (m₁, .ok report)) :
    interrupts threshold (n + 1) m ws =
      interrupts threshold n (deliver threshold m₁ ws report.woken).1
        (deliver threshold m₁ ws report.woken).2 := by
  rw [interrupts, hrun]

/-- An interrupt whose run stops the program kills the interrupt thread. -/
theorem interrupts_succ_of_stop {n : Nat} {m m₁ : Manager Sensor} {ws : Array Worker} {p : Panic}
    (hrun : m.run .interrupt 1 = (m₁, .error (.stopped p))) :
    interrupts threshold (n + 1) m ws =
      .error (.failed (StepFailure.ofCause (.note "sensor interrupt thread panicked"))) := by
  rw [interrupts, hrun]

/-- **The interrupt loop without consumers**: from the manager after `j` interrupts, `n` more take
it to the manager after `j + n`, with nobody to deliver a window to, as long as the byte counter
can hold the bytes. -/
theorem interrupts_unattended (hc : Sized c F) :
    ∀ n j (m : Manager Sensor), Unattended c F j m → (j + n) * F < wordBound →
      ∃ m', interrupts threshold n m #[] = .ok (m', #[]) ∧ Unattended c F (j + n) m' := by
  intro n
  induction n with
  | zero => exact fun j m h _ => ⟨m, rfl, h⟩
  | succ n ih =>
    intro j m h hbytes
    -- the first interrupt fits, since the later ones do, and wakes nobody
    have hfirst : (j + 1) * F < wordBound :=
      Nat.lt_of_le_of_lt (Nat.mul_le_mul_right F (by omega)) hbytes
    obtain ⟨m₁, report, hrun, hwoken, h₁⟩ := run_unattended hc h hfirst
    obtain ⟨m', hloop, h'⟩ := ih (j + 1) m₁ h₁ (by rw [Nat.add_right_comm]; exact hbytes)
    refine ⟨m', ?_, by rw [Nat.add_right_comm] at h'; exact h'⟩
    rw [interrupts_succ_of_run threshold hrun, hwoken]
    exact hloop

/-- **The interrupt loop that overflows the byte counter fails**: the interrupt thread dies at the
first interrupt whose bytes do not fit. -/
theorem interrupts_unattended_overflow (hc : Sized c F) :
    ∀ n j (m : Manager Sensor), Unattended c F j m → wordBound ≤ (j + (n + 1)) * F →
      interrupts threshold (n + 1) m #[] =
        .error (.failed (StepFailure.ofCause (.note "sensor interrupt thread panicked"))) := by
  intro n
  induction n with
  | zero =>
    intro j m h hbytes
    obtain ⟨m', hrun⟩ := run_unattended_overflow hc h hbytes
    exact interrupts_succ_of_stop threshold hrun
  | succ n ih =>
    intro j m h hbytes
    -- either this interrupt overflows the counter, or a later one does
    by_cases hfirst : (j + 1) * F < wordBound
    · obtain ⟨m₁, report, hrun, hwoken, h₁⟩ := run_unattended hc h hfirst
      rw [interrupts_succ_of_run threshold hrun, hwoken]
      have hrest : wordBound ≤ (j + 1 + (n + 1)) * F := by
        rw [show j + 1 + (n + 1) = j + (n + 1 + 1) by omega]
        exact hbytes
      exact ih (j + 1) m₁ h₁ hrest
    · obtain ⟨m', hrun⟩ := run_unattended_overflow hc h (Nat.le_of_not_lt hfirst)
      exact interrupts_succ_of_stop threshold hrun

end Loop

/-! ### A whole simulation -/

/-- **A sized configuration starts a run without consumers**: with the buffer from the heap, the
manager it configures is the manager after no interrupt. -/
theorem withConfig_unattended {mc : ManagerConfig} (hc : Sized c F)
    (hmc : c.toManagerConfig = .ok mc) (hvalid : mc.validate = .ok ())
    (hheap : mc.bufferSize < heapLimit) :
    ∃ m, Manager.withConfig (Sensor.ofConfig c.toSensorConfig) mc = (m, .ok ()) ∧
      Unattended c F 0 m := by
  obtain ⟨hsize, hfill, hle, -⟩ := (ManagerConfig.validate_eq_ok_iff mc).1 hvalid
  have hgrant : (Supply.heap.allocate mc.bufferSize).2 = .ok (List.replicate mc.bufferSize 0) := by
    simp [Supply.heap, Supply.grant, hheap]
  rcases Manager.init_eq_cases
      (Manager.withSlots (Sensor.ofConfig c.toSensorConfig) mc.maxSubscribers) mc.bufferSize
      mc.fillLevel with ⟨hbad, -⟩ | ⟨-, -, -, s', r, halloc, hcases⟩
  · -- a fresh manager holds no buffer, and validation checked the sizes
    simp [Manager.withSlots] at hbad
    omega
  · have hr : r = .ok (List.replicate mc.bufferSize 0) := by
      rw [← hgrant]
      exact (congrArg Prod.snd halloc).symm
    -- the heap grants a zeroed block of the size asked for, so the buffer is installed
    rcases hcases with ⟨e, he, -⟩ | ⟨block, hb, hlen, -⟩ | ⟨block, -, -, hinit⟩
    · rw [hr] at he
      cases he
    · rw [hr] at hb
      cases hb
      simp at hlen
    · refine ⟨_, by simp only [Manager.withConfig, hvalid]; exact hinit, ?_⟩
      rw [SimulationConfig.toManagerConfig_eq_ok hmc hc.frameBytes]
      exact
        { config := rfl
          emitted := rfl
          dropped := rfl
          staging :=
            ⟨_, rfl, by simp [Staging.capacity, Staging.ofBytes], by simp [Staging.ofBytes],
              Staging.head_ofBytes _⟩
          fillLevel := rfl
          registry := rfl
          notified := rfl
          thread := .inl rfl
          metrics := by simp [Manager.withSlots, Recorder.fresh, tally] }

/-- No consumer to subscribe subscribes nobody. -/
@[simp] theorem subscribeAll_zero (m : Manager Sensor) (mode : PresenceMode) :
    subscribeAll m mode 0 = .ok (m, #[]) := rfl

/-- **What the manager reports after `j` interrupts**: the buffer of `bufferFrames · F` bytes
holds the `j mod fillFrames` frames since the last compaction, from offset zero; nobody is
subscribed; and the cycle is idle when the buffer is empty and filling otherwise. -/
theorem Unattended.state (h : Unattended c F j m) :
    m.state =
      { capacity := c.bufferFrames * F
        head := 0
        tail := j % c.fillFrames * F
        buffered := j % c.fillFrames * F
        fillLevel := c.fillFrames * F
        subscribers := 0
        phase := if j % c.fillFrames * F = 0 then .idle else .filling } := by
  obtain ⟨s, hs, hcap, htail, hhead⟩ := h.staging
  simp [Manager.state, hs, hcap, htail, hhead, h.fillLevel, h.registry, Manager.phase, h.notified,
    Nat.mul_comm F]

/-- With nobody subscribed, the buffer is released. -/
theorem Unattended.deinit (h : Unattended c F j m) : ∃ m', m.deinit = .ok m' := by
  obtain ⟨s, hs, -⟩ := h.staging
  unfold Manager.deinit
  rw [h.registry, Registry.active_empty, if_neg (Nat.lt_irrefl 0), hs]
  exact ⟨_, rfl⟩

/-- **The outcome of a run without consumers**, with frames of `F` bytes: every frame emitted and
none dropped; `frames` runs, `frames · F` bytes and one compaction for every `fillFrames` runs, and
no other count; the buffer of `bufferFrames · F` bytes holding the `frames mod fillFrames` frames
since the last compaction, idle when there are none and filling otherwise; and the frame rate at
the mode's initial rate, never switched. -/
def unattendedResult (c : SimulationConfig) (F : Nat) : SimulationResult where
  framesEmitted := c.frames
  framesDropped := 0
  consumers := []
  metrics :=
    { runs := c.frames
      bytesIngested := c.frames * F
      interruptWakes := 0
      taskWakes := 0
      compactions := c.frames / c.fillFrames
      overflowResets := 0
      anomalies := 0
      producerErrors := 0 }
  finalState :=
    { capacity := c.bufferFrames * F
      head := 0
      tail := c.frames % c.fillFrames * F
      buffered := c.frames % c.fillFrames * F
      fillLevel := c.fillFrames * F
      subscribers := 0
      phase := if c.frames % c.fillFrames * F = 0 then .idle else .filling }
  frameRate := c.mode.initial
  rateSwitches := 0

section Run

variable {mc : ManagerConfig} {m₀ : Manager Sensor} (hc : Sized c F)
  (hconsumers : c.consumers = 0) (hmc : c.toManagerConfig = .ok mc)
  (hwith : Manager.withConfig (Sensor.ofConfig c.toSensorConfig) mc = (m₀, .ok ()))
  (h₀ : Unattended c F 0 m₀)

include hc hconsumers hmc hwith h₀

/-- **A run whose bytes the byte counter can hold ends in the closed form.** -/
theorem execute_of_fits (hbytes : c.frames * F < wordBound) :
    execute c = .ok (unattendedResult c F) := by
  obtain ⟨m', hloop, h'⟩ :=
    interrupts_unattended c.activityThreshold hc c.frames 0 m₀ h₀
      (by rw [Nat.zero_add]; exact hbytes)
  rw [Nat.zero_add] at h'
  obtain ⟨m'', hdeinit⟩ := h'.deinit
  simp only [execute, hmc, hwith, hconsumers, subscribeAll_zero, hloop, bind, Except.bind, pure,
    Except.pure]
  -- no consumer to unsubscribe, and none holds the rate switch
  rw [Array.foldl_empty, hdeinit]
  simp [unattendedResult, h'.emitted, h'.dropped, h'.metrics, h'.state, Recorder.snapshot, tally]

/-- **A run whose bytes the byte counter cannot hold fails**: the interrupt thread dies. -/
theorem execute_of_overflows (hbytes : wordBound ≤ c.frames * F) :
    execute c =
      .error (.failed (StepFailure.ofCause (.note "sensor interrupt thread panicked"))) := by
  -- no frames would fit the counter, so there is a first one, and some interrupt overflows it
  have hframes : c.frames ≠ 0 := fun h0 => by
    rw [h0, Nat.zero_mul] at hbytes
    exact absurd hbytes (by decide)
  obtain ⟨n, hn⟩ := Nat.exists_eq_add_one_of_ne_zero hframes
  have hloop := interrupts_unattended_overflow c.activityThreshold hc n 0 m₀ h₀
    (by rw [Nat.zero_add, ← hn]; exact hbytes)
  rw [← hn] at hloop
  simp only [execute, hmc, hwith, hconsumers, subscribeAll_zero, hloop, bind, Except.bind, pure,
    Except.pure]

end Run

/-- **A simulation without consumers, in closed form.**  Take a configuration with no consumers
whose manager configuration does not overflow and passes validation, whose buffer the heap can
supply, and whose noise range the sensor can draw from, with frames of `F` bytes.  When the byte
counter can hold the `frames · F` bytes of the run, the simulation ends as `unattendedResult`
says; when it cannot, the interrupt thread dies at the frame that overflows it, and the simulation
fails. -/
theorem execute_without_consumers {mc : ManagerConfig} (hconsumers : c.consumers = 0)
    (hmc : c.toManagerConfig = .ok mc) (hvalid : mc.validate = .ok ())
    (hheap : ∃ block, (Supply.heap.allocate mc.bufferSize).2 = .ok block)
    (hF : c.geometry.frameBytes = .ok F)
    (hnoise : Binary32.lt Level.zero c.noise = true →
      ∀ rng, ∃ x, Uniform.sample (-c.noise) c.noise rng = .ok x) :
    execute c =
      if c.frames * F < wordBound then .ok (unattendedResult c F)
      else .error (.failed (StepFailure.ofCause (.note "sensor interrupt thread panicked"))) := by
  have hc := sized_of_valid hmc hvalid hF hnoise
  obtain ⟨m₀, hwith, h₀⟩ :=
    withConfig_unattended hc hmc hvalid ((Supply.heap_grants_iff _).1 hheap)
  split
  · exact execute_of_fits hc hconsumers hmc hwith h₀ ‹_›
  · exact execute_of_overflows hc hconsumers hmc hwith h₀ (Nat.le_of_not_lt ‹_›)

/-- Five frames of two bytes without consumers, with a window of two frames in a buffer of three:
two compactions, and the fifth frame left in the buffer. -/
theorem execute_without_consumers_five_frames :
    let c : SimulationConfig :=
      { geometry := ⟨1, 1, 1⟩, bufferFrames := 3, fillFrames := 2, frames := 5, consumers := 0,
        noise := ⟨0⟩ }
    execute c = .ok (unattendedResult c 2) := by
  intro c
  exact
    (execute_without_consumers rfl rfl rfl ⟨_, rfl⟩ rfl (fun h => absurd h (by decide))).trans
      (if_pos (by decide))

/-- **A run long enough to overflow the byte counter fails.**  Without consumers, `2^63` frames of
two bytes are `2^64` bytes, one more than the counter can hold: the interrupt thread dies at the
last frame, and the simulation fails instead of reporting them. -/
theorem byte_counter_overflow_fails :
    let c : SimulationConfig :=
      { geometry := ⟨1, 1, 1⟩, bufferFrames := 1, fillFrames := 1, frames := 2 ^ 63,
        consumers := 0, noise := ⟨0⟩ }
    execute c =
      .error (.failed (StepFailure.ofCause (.note "sensor interrupt thread panicked"))) := by
  intro c
  have hc : Sized c 2 := sized_of_valid rfl rfl rfl (fun h => absurd h (by decide))
  obtain ⟨m₀, hwith, h₀⟩ := withConfig_unattended hc rfl rfl (by decide)
  exact execute_of_overflows hc rfl rfl hwith h₀ (by decide)

end Simulation

end RadarIngest
