import RadarIngest.Proofs.Manager.Consistency
import RadarIngest.Source.Script

/-!
**What the reported phase says about the buffer.**

`state` reports the phase of the cycle from the notified mark and the acknowledgements alone:
notified or draining after a wake, idle or filling before it, as the buffer is empty or not.  The
phases before a wake say what they say by definition.  A phase after a wake promises more: a
window, the first fill-level live bytes, that every registered subscriber can read.  It rests on
one invariant, `RadarIngest.Manager.WindowHeld`: a notified cycle has its window buffered.

The wake sets the mark only with the window buffered; a run only adds to the live bytes until it
compacts, and the compaction clears the mark; `init` and a release clear it too.  One call can
break the invariant: raising the fill level of a notified cycle past the bytes it buffers
(`RadarIngest.Manager.outrunsWindow`).  The cycle then reports a window no subscriber can read
(`RadarIngest.Manager.phase_disagrees_with_buffer`).  Nor does filling promise less than a
window: a compaction that leaves a whole window behind, or a lowered fill level, reports filling
until the next run wakes.

Main definitions:

* `RadarIngest.Manager.WindowHeld`, `RadarIngest.Manager.outrunsWindow`,
  `RadarIngest.Manager.PhaseAgrees`.

Main results:

* `RadarIngest.Manager.WindowHeld.exec` — every call but one that outruns the window keeps the
  invariant;
* `RadarIngest.Manager.WindowHeld.phaseAgrees` — the invariant makes the phase agree;
* `RadarIngest.Manager.phase_agrees_along_sessions` — **the phase agrees with the buffer along
  every session that never outruns the window**.
-/

set_option autoImplicit false

namespace RadarIngest

namespace Staging

/-- A buffer whose live bytes were extended holds at least as many. -/
theorem buffered_le_of_live {s s₁ : Staging} {xs : List UInt8} (h : s₁.live = s.live ++ xs) :
    s.buffered ≤ s₁.buffered := by
  have hlen := congrArg List.length h
  simp only [length_live, List.length_append] at hlen
  omega

end Staging

namespace Registry

/-- A registered id names a slot: it lies in `1..=capacity`. -/
theorem isRegistered_in_range {r : Registry} {id : Nat} (h : r.isRegistered id = true) :
    id ≠ 0 ∧ id ≤ r.capacity := by
  unfold isRegistered at h
  split at h
  · rename_i s hs
    obtain ⟨hid, hget⟩ := slot?_eq_some.1 hs
    have hlt := (List.getElem?_eq_some_iff.1 hget).1
    exact ⟨hid, by unfold capacity; omega⟩
  · cases h

end Registry

namespace Manager

variable {P : Type} {m m' : Manager P}

/-! ### The window of a notified cycle -/

/-- A notified cycle has its window buffered: the fill level is at most the live bytes. -/
def WindowHeld (m : Manager P) : Prop :=
  m.notified = true → ∃ s, m.staging = some s ∧ m.fillLevel ≤ s.buffered

/-- Whether a call raises the fill level of a notified cycle past the bytes it buffers: the one
call that leaves a notified cycle without its window. -/
def outrunsWindow (m : Manager P) : Op → Bool
  | .setFillLevel fill => m.notified && decide (m.state.buffered < fill)
  | _ => false

/-- What the phase that `state` reports tells about the buffer. -/
structure PhaseAgrees (m : Manager P) : Prop where
  /-- An idle cycle buffers nothing. -/
  idle : m.state.phase = .idle → m.state.buffered = 0
  /-- A filling cycle buffers something. -/
  filling : m.state.phase = .filling → 0 < m.state.buffered
  /-- After a wake the window is buffered, and every registered subscriber can read it: the
  first fill-level live bytes. -/
  notified : m.state.phase = .notified ∨ m.state.phase = .draining →
    m.state.fillLevel ≤ m.state.buffered ∧
      ∀ id, m.registry.isRegistered id = true → m.readWindow id = .ok (m.live.take m.fillLevel)

theorem state_buffered {s : Staging} (hs : m.staging = some s) : m.state.buffered = s.buffered := by
  simp [state, hs, Staging.buffered]

/-- The phase `state` reports is the phase of the buffered count it reports. -/
theorem state_phase (m : Manager P) : m.state.phase = m.phase m.state.buffered := by
  unfold state
  split
  rfl

theorem buffered_of_phase_idle {b : Nat} (h : m.phase b = .idle) : b = 0 := by
  unfold phase at h
  split at h
  · split at h <;> cases h
  · split at h
    · assumption
    · cases h

theorem buffered_of_phase_filling {b : Nat} (h : m.phase b = .filling) : 0 < b := by
  unfold phase at h
  split at h
  · split at h <;> cases h
  · split at h
    · cases h
    · omega

/-- The phases after a wake come only with the notified mark set. -/
theorem notified_of_phase {b : Nat} (h : m.phase b = .notified ∨ m.phase b = .draining) :
    m.notified = true := by
  unfold phase at h
  split at h
  · assumption
  · split at h <;> simp at h

/-- With its window buffered, a manager hands every registered subscriber that window. -/
theorem readWindow_of_le {s : Staging} (hs : m.staging = some s) (hfill : m.fillLevel ≤ s.buffered)
    {id : Nat} (hreg : m.registry.isRegistered id = true) :
    m.readWindow id = .ok (s.live.take m.fillLevel) := by
  obtain ⟨hid, hcap⟩ := Registry.isRegistered_in_range hreg
  unfold readWindow
  rw [if_neg (by omega), if_neg (by simp [hreg])]
  simp [hs, Staging.window_of_le hfill]

namespace WindowHeld

theorem of_unnotified (h : m.notified = false) : m.WindowHeld := by
  intro hn
  rw [h] at hn
  cases hn

/-- A call that keeps the buffer, the fill level and the notified mark keeps the window held. -/
theorem of_frame (h : m.WindowHeld) (hs : m'.staging = m.staging)
    (hfill : m'.fillLevel = m.fillLevel) (hn : m'.notified = m.notified) : m'.WindowHeld := by
  intro hn'
  rw [hs, hfill]
  exact h (hn ▸ hn')

theorem buffered (h : m.WindowHeld) {s : Staging} (hs : m.staging = some s)
    (hn : m.notified = true) : m.fillLevel ≤ s.buffered := by
  obtain ⟨s', hs', hfill⟩ := h hn
  rw [hs] at hs'
  cases hs'
  exact hfill

/-- **The invariant makes the phase agree with the buffer.** -/
theorem phaseAgrees (h : m.WindowHeld) : m.PhaseAgrees where
  idle := fun hphase => buffered_of_phase_idle (m.state_phase ▸ hphase)
  filling := fun hphase => buffered_of_phase_filling (m.state_phase ▸ hphase)
  notified := fun hphase => by
    rw [state_phase] at hphase
    obtain ⟨s, hs, hfill⟩ := h (notified_of_phase hphase)
    refine ⟨by rw [state_buffered hs]; exact hfill, fun id hreg => ?_⟩
    rw [readWindow_of_le hs hfill hreg]
    simp [live, hs]

/-! ### One lemma per call -/

theorem init (h : m.WindowHeld) (size fill : Nat) : (m.init size fill).1.WindowHeld := by
  obtain ⟨supplies, ⟨-, heq⟩ | ⟨-, -, -, -, heq⟩⟩ := init_cases m size fill <;> rw [heq]
  · exact h.of_frame rfl rfl rfl
  · exact of_unnotified rfl

theorem setFillLevel {fill : Nat} (hop : m.outrunsWindow (.setFillLevel fill) = false)
    (hset : m.setFillLevel fill = .ok m') : m'.WindowHeld := by
  obtain ⟨s, hs, -, -, rfl⟩ := setFillLevel_eq_ok hset
  intro hn
  replace hn : m.notified = true := hn
  -- the mark is set, so the new level is within the buffered bytes
  have hle : fill ≤ s.buffered := by
    simp only [outrunsWindow, hn, Bool.true_and, decide_eq_false_iff_not, Nat.not_lt] at hop
    rwa [state_buffered hs] at hop
  exact ⟨s, hs, hle⟩

/-- A run keeps the window held: until it compacts it only adds to the live bytes, the wake sets
the mark with the window buffered, and the compaction clears it. -/
theorem run [Producer P] (hm : m.Consistent) (h : m.WindowHeld) (context : WakeContext)
    (thread : Nat) : (m.run context thread).1.WindowHeld := by
  rcases hrun : m.run context thread with ⟨m', (e | p) | report⟩
  · rw [(run_refused hrun).1]
    exact h
  · obtain ⟨s, hs, -, hcycle⟩ := run_stopped hrun
    obtain ⟨q, r, s₁, hlive, -, -, hshape⟩ :=
      cycle_error (hm.live.head_eq_zero hs) (hm.live.capacity_pos hs) hcycle
    have hgrow := Staging.buffered_le_of_live hlive
    rcases hshape with rfl | ⟨hfill, rfl⟩ | ⟨-, -, rfl⟩
    · exact fun hn => ⟨s₁, rfl, Nat.le_trans (h.buffered hs hn) hgrow⟩
    · exact fun _ => ⟨s₁, rfl, hfill⟩
    · exact of_unnotified rfl
  · obtain ⟨s, hs, -, hcycle⟩ := run_ok hrun
    obtain ⟨q, r, s₁, hlive, -, -, -, -, -, hshape⟩ :=
      cycle_ok (hm.live.head_eq_zero hs) (hm.live.capacity_pos hs) hcycle
    have hgrow := Staging.buffered_le_of_live hlive
    rcases hshape with ⟨-, -, -, -, rfl⟩ | ⟨hfill, -, -, -, ⟨-, -, rfl⟩ | ⟨-, -, rfl⟩⟩
    · exact fun hn => ⟨s₁, rfl, Nat.le_trans (h.buffered hs hn) hgrow⟩
    · exact fun _ => ⟨s₁, rfl, hfill⟩
    · exact of_unnotified rfl

/-- **Every call keeps the window held**, but one that outruns it. -/
theorem exec [Producer P] (hm : m.Consistent) (h : m.WindowHeld) {op : Op}
    (hop : m.outrunsWindow op = false) : (m.exec op).1.WindowHeld := by
  cases op
  case init size fill =>
    rw [exec_init_fst]
    exact h.init size fill
  case deinit =>
    rcases hd : m.deinit with e | m'
    · rw [exec_deinit_of_error hd]
      exact h
    · obtain ⟨-, -, supplies, current, rfl⟩ := deinit_eq_ok hd
      rw [exec_deinit_of_ok hd]
      exact of_unnotified rfl
  case setAllocator supply =>
    exact h.of_frame (staging_setAllocator _ _) (fillLevel_setAllocator _ _)
      (notified_setAllocator _ _)
  case setSharedAllocator i =>
    exact h.of_frame (staging_setAllocator m i) (fillLevel_setAllocator m i)
      (notified_setAllocator m i)
  case run context thread =>
    rw [exec_run_fst]
    exact h.run hm context thread
  case setFillLevel fill =>
    rcases hset : m.setFillLevel fill with e | m'
    · rw [exec_setFillLevel_of_error hset]
      exact h
    · rw [exec_setFillLevel_of_ok hset]
      exact setFillLevel hop hset
  -- a subscriber's own call changes nothing but the registry
  all_goals
    rw [exec_of_bySubscriber rfl]
    exact h.of_frame rfl rfl rfl

end WindowHeld

/-- A created manager has no notified cycle. -/
theorem windowHeld_withSlots (p : P) (n : Nat) : (withSlots p n).WindowHeld :=
  WindowHeld.of_unnotified rfl

/-- A manager built from a configuration, accepted or not, has no notified cycle. -/
theorem windowHeld_withConfig (p : P) (c : ManagerConfig) : (withConfig p c).1.WindowHeld := by
  unfold withConfig
  split
  · exact windowHeld_withSlots p _
  · exact (windowHeld_withSlots p _).init _ _

/-! ### Along a session -/

/-- **The phase agrees with the buffer along every session that never outruns the window**, from
a consistent manager that holds its window (every created one): an idle cycle buffers nothing, a
filling one something, and after a wake, notified or draining, the window is buffered and every
registered subscriber reads it, the first fill-level live bytes. -/
theorem phase_agrees_along_sessions [Producer P] {m : Manager P} (hm : m.Consistent)
    (hheld : m.WindowHeld) {ops : List Op}
    (hops : ∀ st ∈ m.steps ops, st.pre.outrunsWindow st.op = false) :
    (m.after ops).PhaseAgrees :=
  (after_invariant_of_allowed (fun m => m.Consistent ∧ m.WindowHeld)
    (fun m op => m.outrunsWindow op = false)
    (fun _ _ hop hinv => ⟨hinv.1.exec _, hinv.2.exec hinv.1 hop⟩) ⟨hm, hheld⟩ hops).2.phaseAgrees

/-- A subscriber woken, a window read, acknowledged and compacted away: the phase agrees at the
end. -/
theorem phase_agrees_after_compaction :
    let m := ((withSlots (Script.feed {} [1, 2, 3, 4, 5, 6, 7, 8]) 4).init 12 4).1
    let ops : List Op := [.subscribe ⟨"s", 1, .task⟩, .run .task 0, .take 1, .run .task 0]
    m.Consistent ∧ m.WindowHeld ∧ (∀ st ∈ m.steps ops, st.pre.outrunsWindow st.op = false) ∧
      (m.after ops).PhaseAgrees := by
  intro m ops
  have hm : m.Consistent := (Consistent.withSlots _ 4).init 12 4
  have hheld : m.WindowHeld := (windowHeld_withSlots _ 4).init 12 4
  have hops : ∀ st ∈ m.steps ops, st.pre.outrunsWindow st.op = false := by decide
  exact ⟨hm, hheld, hops, phase_agrees_along_sessions hm hheld hops⟩

/-- **The phase can disagree with the buffer both ways.**  A notified cycle whose fill level is
raised past its eight buffered bytes still reports notified, with a window no subscriber can
read; and a compaction that leaves a whole window behind reports filling. -/
theorem phase_disagrees_with_buffer :
    let m := ((withSlots (Script.feed {} [1, 2, 3, 4, 5, 6, 7, 8]) 4).init 12 4).1.after
      [.subscribe ⟨"s", 1, .task⟩, .run .task 0, .setFillLevel 12]
    let m' := m.after [.setFillLevel 4, .ack 1, .run .task 0]
    (m.state.phase = .notified ∧ m.state.buffered < m.state.fillLevel ∧
        m.readWindow 1 = .error (.notReady .belowFill)) ∧
      m'.state.phase = .filling ∧ m'.state.fillLevel ≤ m'.state.buffered :=
  ⟨⟨rfl, by decide, rfl⟩, rfl, by decide⟩

end Manager

end RadarIngest
