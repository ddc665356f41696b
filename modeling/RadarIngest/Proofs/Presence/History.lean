import Mathlib.Algebra.Ring.Parity
import Mathlib.Data.List.Destutter
import Mathlib.Data.List.Induction
import RadarIngest.Presence.RateSwitch

/-!
**The frame-rate switch over a history of presence readings.**

A switch fed readings one at a time passes through a *trail* of rates: its starting rate, then the
rate in force after each reading, each obtained from the one before by the mode's request.  The
switch's outputs are read off that trail.  After a reading the rate in force is the one requested,
and the sensor is reconfigured exactly when it differs from the rate before, to the new rate; so
over a history the reconfigurations are the trail with its repeated rates merged and its start
left out, and the switch count is their number.  A mode that holds one rate never reconfigures.
Under `PresenceMode.microIfMacro` only the readings since the last absence matter: the rate is
high exactly when an odd number of them were macro presence.

Main results:

* `RadarIngest.RateSwitch.observeAll_current` — the rate after a history is the requests folded
  from the start;
* `RadarIngest.RateSwitch.observeAll_reconfigurations` — the reconfigurations are the trail's
  changes of rate;
* `RadarIngest.PresenceMode.scanl_request_fixed` — a fixed mode's trail stays at its start;
* `RadarIngest.PresenceMode.foldl_microIfMacro_eq_high_iff` — the parity of macro presence since
  the last absence;
* `RadarIngest.RateSwitch.switch_follows_presence` — **the switch over any history**.
-/

set_option autoImplicit false

namespace RadarIngest

/-- Toggling gives the high rate exactly from the low one. -/
theorem FrameRate.other_eq_high_iff (r : FrameRate) : r.other = .high ↔ r ≠ .high := by
  cases r <;> decide

namespace PresenceMode

/-- **A mode that holds one rate keeps it along any trail.** -/
theorem scanl_request_fixed (m : PresenceMode) (h : m.isFixed = true) (ps : List PresenceState) :
    ps.scanl m.request m.initial = List.replicate (ps.length + 1) m.initial := by
  induction ps with
  | nil => rfl
  | cons p ps ih => rw [List.scanl_cons, request_fixed m h, ih]; rfl

/-- **Under micro-if-macro the rate is high exactly when an odd number of macro readings came
since the last absence**, from the low start. -/
theorem foldl_microIfMacro_eq_high_iff (ps : List PresenceState) :
    ps.foldl microIfMacro.request .low = .high ↔
      Odd ((ps.reverse.takeWhile (· != .absence)).count .macroPresence) := by
  -- the latest reading decides: absence resets, macro presence toggles, micro presence keeps
  induction ps using List.reverseRecOn with
  | nil => simp
  | append_singleton ps p ih =>
    rw [List.foldl_append, List.foldl_cons, List.foldl_nil, List.reverse_append,
      List.reverse_singleton, List.singleton_append, List.takeWhile_cons]
    cases p with
    | absence => simp [request]
    | macroPresence =>
      simp only [request, bne_iff_ne, ne_eq, reduceCtorEq, not_false_eq_true, if_true,
        List.count_cons_self]
      rw [FrameRate.other_eq_high_iff, ne_eq, ih, Nat.odd_add_one]
    | microPresence => simpa [request] using ih

end PresenceMode

namespace RateSwitch

variable (s : RateSwitch) (p : PresenceState) (ps : List PresenceState)

/-- The rate a reading leaves in force is the one the mode requests. -/
@[simp] theorem observe_current : (s.observe p).1.current = s.mode.request s.current p := by
  unfold observe
  split <;> simp_all

/-- The sensor is reconfigured after a reading exactly when the rate changed, and then to the new
rate. -/
theorem observe_reconfigure :
    (s.observe p).2 =
      if (s.observe p).1.current = s.current then none else some (s.observe p).1.current := by
  rw [observe_current]
  unfold observe
  split <;> simp_all

theorem observeAll_cons :
    s.observeAll (p :: ps) =
      (((s.observe p).1.observeAll ps).1,
        (s.observe p).2.toList ++ ((s.observe p).1.observeAll ps).2) :=
  rfl

/-- **The rate after a history** is the requests folded from the rate at the start. -/
theorem observeAll_current : (s.observeAll ps).1.current = ps.foldl s.mode.request s.current := by
  induction ps generalizing s with
  | nil => rfl
  | cons p ps ih => rw [observeAll_cons, ih, observe_mode, observe_current, List.foldl_cons]

/-- **The reconfigurations are the changes of rate along the trail**: the trail with its repeated
rates merged is the starting rate followed by the reconfigurations. -/
theorem observeAll_reconfigurations :
    s.current :: (s.observeAll ps).2 =
      (ps.scanl s.mode.request s.current).destutter (· ≠ ·) := by
  induction ps generalizing s with
  | nil => rfl
  | cons p ps ih =>
    -- the rest of the trail starts at the rate requested by `p`
    obtain ⟨rest, hrest⟩ : ∃ rest, ps.scanl s.mode.request (s.mode.request s.current p) =
        s.mode.request s.current p :: rest :=
      ⟨(ps.scanl s.mode.request (s.mode.request s.current p)).tail, by cases ps <;> simp⟩
    have ih' := ih (s.observe p).1
    rw [observe_mode, observe_current, hrest] at ih'
    rw [List.scanl_cons, hrest, List.destutter_cons_cons, observeAll_cons]
    by_cases hsame : s.mode.request s.current p = s.current
    · -- no change: the switch is left as it was
      have hobs : s.observe p = (s, none) := by unfold observe; rw [if_pos hsame]
      rw [hsame] at ih'
      rw [if_neg (by simp [hsame]), ← List.destutter_cons', ← ih', hobs]
      rfl
    · -- a change: one reconfiguration, to the requested rate
      rw [if_pos (Ne.symm hsame), ← List.destutter_cons', ← ih', observe_reconfigure,
        observe_current, if_neg hsame]
      rfl

/-- A switch in a fixed mode at its starting rate never reconfigures. -/
theorem observeAll_fixed (h : s.mode.isFixed = true) (hs : s.current = s.mode.initial) :
    s.observeAll ps = (s, []) := by
  induction ps with
  | nil => rfl
  | cons p ps ih => rw [observeAll_cons, observe_fixed s h hs p, ih]; rfl

/-- **The switch over any history of readings.**  After each reading the rate in force is the
one requested, and the sensor is reconfigured exactly when that changed the rate, to the new rate.
From a mode's start, the reconfigurations are the trail's changes of rate, the switch count is
their number and the last rate of the trail is the one in force.  A mode other than
micro-if-macro never reconfigures and stays at low (macro only) or high; under micro-if-macro the
rate is high exactly when an odd number of macro readings came since the last absence. -/
theorem switch_follows_presence (mode : PresenceMode) (ps : List PresenceState) :
    let trail := ps.scanl mode.request mode.initial
    let run := (start mode).observeAll ps
    (∀ (s : RateSwitch) (p : PresenceState),
        (s.observe p).1.current = s.mode.request s.current p ∧
          (s.observe p).2 =
            if (s.observe p).1.current = s.current then none else some (s.observe p).1.current) ∧
      run.2 = (trail.destutter (· ≠ ·)).tail ∧
      run.1.switches = run.2.length ∧
      trail.getLast? = some run.1.current ∧
      (mode ≠ .microIfMacro →
        run.2 = [] ∧ ∀ r ∈ trail, r = if mode = .macroOnly then .low else .high) ∧
      (mode = .microIfMacro →
        (run.1.current = .high ↔
          Odd ((ps.reverse.takeWhile (· != .absence)).count .macroPresence))) := by
  dsimp only
  refine ⟨fun s p => ⟨observe_current s p, observe_reconfigure s p⟩, ?_, ?_, ?_, ?_, ?_⟩
  · exact congrArg List.tail (observeAll_reconfigurations (start mode) ps)
  · simpa [start] using observeAll_switches (start mode) ps
  · rw [List.getLast?_scanl, observeAll_current]
    rfl
  · intro hmode
    have hfixed : mode.isFixed = true := by cases mode <;> simp_all [PresenceMode.isFixed]
    refine ⟨by rw [observeAll_fixed (start mode) ps hfixed rfl], ?_⟩
    intro r hr
    rw [PresenceMode.scanl_request_fixed mode hfixed] at hr
    rw [List.eq_of_mem_replicate hr]
    cases mode <;> simp_all [PresenceMode.initial]
  · rintro rfl
    rw [observeAll_current]
    exact PresenceMode.foldl_microIfMacro_eq_high_iff ps

/-- Macro presence raises the rate, micro presence keeps it and absence drops it once. -/
example : (start .microIfMacro).observeAll [.macroPresence, .microPresence, .absence, .absence] =
    (⟨.microIfMacro, .low, 2⟩, [.high, .low]) := rfl

end RateSwitch

end RadarIngest
