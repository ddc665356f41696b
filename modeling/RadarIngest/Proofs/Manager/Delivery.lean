import RadarIngest.Proofs.Manager.Queue

/-!
**Each compacted window reaches a well-behaved subscriber once.**

A subscriber sees a window in one of two ways: a callback is handed it when a run wakes it, and a
task takes it (it finds its slot not acknowledged, reads the window and acknowledges it, under the
manager's lock).  A callback's wake consumes the window: its slot is then both consumed and
acknowledged, so it is not woken again until a compaction clears the flags.  A take acknowledges
the slot, so the next take finds nothing until the same clearing.  Between those points nothing
but a compaction removes bytes from the front, so every window a subscriber saw is the one
compacted next, as long as the fill level is not changed while it holds a window.  A fill level
changed while its slot is open changes nothing it saw: it has seen only the blocks compacted.

A fill level changed after the subscriber saw its window and before the compaction changes the
block compacted, and no flag is re-armed (`RadarIngest.Manager.refill_compacts_unseen_block`).

Main definitions:

* `RadarIngest.Step.seen`, `RadarIngest.Step.compaction` — the windows a subscriber saw in a step,
  the block a step compacted;
* `RadarIngest.Manager.Delivered` — how a subscriber stands after the steps since it subscribed.

Main results:

* `RadarIngest.Manager.Delivered.step` — every call but the ones the subscriber refrains from keeps
  the standing;
* `RadarIngest.Manager.delivered_once_at_fixed_fill` — **over a session in which the fill level is
  set only while the subscriber's slot is open, a subscriber that stays registered and acknowledges
  only by takes, or a callback that is never acknowledged, sees exactly the blocks compacted, then
  at most the current window**.
-/

set_option autoImplicit false

namespace RadarIngest

namespace Step

variable {P : Type} [Producer P]

/-- The windows the consumer `c`, holding the slot with id `id`, saw in a step: the window a run
handed it, when the run woke it and a wake consumes its windows (a callback), or the window it
took. -/
def seen (st : Step P) (c : Consumer) (id : Nat) : List (List UInt8) :=
  match st.op, st.outcome with
  | .run _ _, .ran report =>
    if c.consumesOnWake = true ∧ c ∈ report.woken then [report.window] else []
  | .take j, .window w => if j = id then [w] else []
  | _, _ => []

/-- The block a step compacted away, if it compacted. -/
def compaction (st : Step P) : List (List UInt8) :=
  match st.outcome with
  | .ran report => if report.compacted then [st.removed] else []
  | _ => []

end Step

namespace Manager

variable {P : Type} [Producer P] {m m' : Manager P} {c : Consumer} {id : Nat}

theorem compaction_of_not_run {op : Op} (hrun : ∀ context thread, op ≠ .run context thread) :
    (m.stepOf op).compaction = [] := by
  unfold Step.compaction
  split
  · rename_i report hout
    obtain ⟨context, thread, rfl, -⟩ := exec_eq_ran hout
    exact absurd rfl (hrun context thread)
  · rfl

/-- What `c` has seen after the steps `h`, given whether its slot is acknowledged: the blocks
compacted, and once its slot is acknowledged, also the first window of the live bytes, which hold
at least a window. -/
def Seen (c : Consumer) (id : Nat) (h : List (Step P)) (m : Manager P) : Bool → Prop
  | false => h.flatMap (·.seen c id) = h.flatMap Step.compaction
  | true => h.flatMap (·.seen c id) = h.flatMap Step.compaction ++ [m.live.take m.fillLevel] ∧
      m.fillLevel ≤ m.live.length

/-- **How a subscriber stands after the steps since it subscribed**: the manager is consistent,
`c` still holds the slot with id `id`, a callback's slot is consumed exactly when it is
acknowledged, and what `c` saw is what `Seen` says. -/
structure Delivered (c : Consumer) (id : Nat) (h : List (Step P)) (m : Manager P) : Prop where
  consistent : m.Consistent
  slot : ∃ s, m.registry.slot? id = some s ∧ s.holder = some c ∧
    (c.consumesOnWake = true → s.consumed = s.acknowledged) ∧ Seen c id h m s.acknowledged

namespace Delivered

variable {h : List (Step P)}

/-- Right after a subscription that gave `c` its slot, `c` has seen nothing. -/
theorem start (hm : m.Consistent) (hnew : ∀ s ∈ m.registry.slots, s.holder.any (·.same c) = false)
    (hsub : m.subscribe c = .ok (m', id)) : Delivered c id [] m' := by
  obtain ⟨-, hreg, heq⟩ := subscribe_eq_ok hsub
  have hcons : m'.Consistent := by
    have := hm.exec (.subscribe c)
    simpa [exec, hsub] using this
  obtain ⟨-, ⟨i, hi, hsame, -, -⟩ | ⟨-, i, hi, -, -, rfl, hfresh⟩⟩ := Registry.subscribe_eq_ok hreg
  · -- an existing subscription would be a slot holding `c` already
    have := hnew m.registry.slots[i] (List.getElem_mem hi)
    rw [hsame] at this
    cases this
  · refine ⟨hcons, ⟨some c, false, false⟩, ?_, rfl, fun _ => rfl, rfl⟩
    rw [hfresh]
    exact Registry.slot?_of_set_self rfl (by omega) (by simpa using hi)

/-- A step after which `c`'s slot, the live bytes and the fill level are as they were, in which `c`
saw nothing and nothing was compacted, keeps the standing. -/
theorem of_slot_eq (hd : Delivered c id h m) {op : Op}
    (hslot : (m.exec op).1.registry.slot? id = m.registry.slot? id)
    (hlive : (m.exec op).1.live = m.live) (hfill : (m.exec op).1.fillLevel = m.fillLevel)
    (hseen : (m.stepOf op).seen c id = []) (hcomp : (m.stepOf op).compaction = []) :
    Delivered c id (h ++ [m.stepOf op]) (m.exec op).1 := by
  obtain ⟨s, hs, hc, hcb, hseen₀⟩ := hd.slot
  refine ⟨hd.consistent.exec op, s, by rw [hslot, hs], hc, hcb, ?_⟩
  cases ha : s.acknowledged <;> rw [ha] at hseen₀ <;>
    simpa [Seen, List.flatMap_append, hseen, hcomp, hlive, hfill] using hseen₀

/-- A call that leaves the manager as it was and shows `c` nothing keeps the standing. -/
theorem of_exec_self (hd : Delivered c id h m) {op : Op} (hsame : (m.exec op).1 = m)
    (hseen : (m.stepOf op).seen c id = []) (hcomp : (m.stepOf op).compaction = []) :
    Delivered c id (h ++ [m.stepOf op]) (m.exec op).1 :=
  hd.of_slot_eq (by rw [hsame]) (by rw [hsame]) (by rw [hsame]) hseen hcomp

/-- A call other than a run or a release that keeps `c`'s slot and the fill level, and shows `c`
nothing, keeps the standing: it leaves the live bytes as they were and compacts nothing. -/
theorem of_not_run (hd : Delivered c id h m) {op : Op}
    (hrun : ∀ context thread, op ≠ .run context thread) (hop : op ≠ .deinit)
    (hslot : (m.exec op).1.registry.slot? id = m.registry.slot? id)
    (hfill : (m.exec op).1.fillLevel = m.fillLevel) (hseen : (m.stepOf op).seen c id = []) :
    Delivered c id (h ++ [m.stepOf op]) (m.exec op).1 :=
  hd.of_slot_eq hslot (live_exec_of_not_run hrun hop) hfill hseen (compaction_of_not_run hrun)

/-- A step that keeps `c`'s slot while it is not acknowledged, shows `c` nothing and compacts
nothing keeps the standing, whatever it does to the live bytes and the fill level: `c` has then
seen only the blocks compacted, and no current window enters that. -/
theorem of_unacknowledged (hd : Delivered c id h m) {op : Op}
    (hfresh : m.registry.isAcknowledged id = false)
    (hslot : (m.exec op).1.registry.slot? id = m.registry.slot? id)
    (hseen : (m.stepOf op).seen c id = []) (hcomp : (m.stepOf op).compaction = []) :
    Delivered c id (h ++ [m.stepOf op]) (m.exec op).1 := by
  obtain ⟨s, hs, hc, hcb, hseen₀⟩ := hd.slot
  have hunacked : s.acknowledged = false := (Registry.isAcknowledged_of_slot? hs).symm.trans hfresh
  rw [hunacked] at hseen₀
  refine ⟨hd.consistent.exec op, s, by rw [hslot, hs], hc, hcb, ?_⟩
  rw [hunacked]
  simpa [Seen, List.flatMap_append, hseen, hcomp] using hseen₀

/-- A manager in which `c` holds a slot has a slot occupied. -/
theorem occupied_ne_zero (hd : Delivered c id h m) : m.registry.occupied ≠ 0 := by
  obtain ⟨s, hs, hc, -⟩ := hd.slot
  intro hzero
  have := Registry.occupied_eq_zero.1 hzero s (Registry.mem_of_slot?_eq_some hs)
  rw [hc] at this
  cases this

/-- A manager in which `c` holds a slot has a live buffer. -/
theorem staging_isSome (hd : Delivered c id h m) : m.staging.isSome := by
  cases hstaging : m.staging with
  | some _ => rfl
  | none => exact absurd (hd.consistent.idle hstaging).2.1 hd.occupied_ne_zero

/-! ### Runs -/

/-- **A run that returns keeps the standing.**  Below the fill level nothing moves.  At the fill
level a callback that has not seen the window sees it now, and a compaction removes the window
every subscriber has seen, clearing the flags. -/
theorem run_step (hd : Delivered c id h m) {context : WakeContext} {thread : Nat}
    {report : RunReport} (hrun : m.run context thread = (m', .ok report)) :
    Delivered c id (h ++ [m.stepOf (.run context thread)]) m' := by
  have hcons : m'.Consistent := by
    have := hd.consistent.exec (.run context thread)
    rwa [exec_run_of_ok hrun] at this
  obtain ⟨s, hs, hc, hcb, hseen⟩ := hd.slot
  have hst := stepOf_eq (exec_run_of_ok hrun)
  have hacc : (m.stepOf (.run context thread)).accepted = m.delivered := by
    rw [hst]
    rfl
  have hseen_st : (m.stepOf (.run context thread)).seen c id =
      if c.consumesOnWake = true ∧ c ∈ report.woken then [report.window] else [] := by
    rw [hst]
    rfl
  have hcomp_st : (m.stepOf (.run context thread)).compaction =
      if report.compacted then [(m.stepOf (.run context thread)).removed] else [] := by
    rw [hst]
    rfl
  have hpost : (m.stepOf (.run context thread)).post = m' := by
    rw [hst]
  obtain ⟨hfill', -, hcases⟩ := run_ok_cases hd.consistent.live hrun
  rcases hcases with ⟨-, hwoken, hcomp, hreg, hlive⟩ |
    ⟨hfill, hwoken, hwindow, hcomp, hreg, hlive⟩
  · -- below the fill level: nobody is woken, nothing is compacted, nothing else moves
    refine ⟨hcons, s, by rw [hreg, hs], hc, hcb, ?_⟩
    have hseen' : (m.stepOf (.run context thread)).seen c id = [] := by
      simp [hseen_st, hwoken]
    have hcomp' : (m.stepOf (.run context thread)).compaction = [] := by
      simp [hcomp_st, hcomp]
    cases ha : s.acknowledged <;> rw [ha] at hseen
    · simpa [Seen, List.flatMap_append, hseen', hcomp'] using hseen
    · -- the window `c` saw is still the first window of the grown live bytes
      obtain ⟨hseen, hlen⟩ := hseen
      refine ⟨?_, ?_⟩
      · simp [List.flatMap_append, hseen', hcomp', hseen, hlive, hfill',
          List.take_append_of_le_length hlen]
      · rw [hlive, hfill', List.length_append]
        omega
  · -- at the fill level: the wake reaches `c` exactly when its slot has not consumed the window
    have hmem := Registry.mem_woken_iff_slot? hd.consistent.distinct hs hc
    have hremoved := Step.removed_of_drop (m.stepOf (.run context thread))
      (by rw [hpost, stepOf_pre, hacc]; exact hlive)
    rw [stepOf_pre, hacc] at hremoved
    -- once `c`'s slot is acknowledged after the wake, `c` has seen the first window
    have hkey : (s.acknowledged || c.consumesOnWake) = true →
        h.flatMap (·.seen c id) ++ (m.stepOf (.run context thread)).seen c id =
          h.flatMap Step.compaction ++ [(m.live ++ m.delivered).take m.fillLevel] := by
      intro hnow
      cases ha : s.acknowledged
      · -- a callback that had not seen the window is woken with it
        have hcb' : c.consumesOnWake = true := by simpa [ha] using hnow
        have hfresh : s.consumed = false := by rw [hcb hcb', ha]
        rw [ha] at hseen
        simp [hseen_st, hcb', hmem.2 hfresh, hwoken, hwindow]
        exact hseen
      · -- `c` had seen the window, and is not woken with it again
        rw [ha] at hseen
        obtain ⟨hseen, hlen⟩ := hseen
        have hnot : (m.stepOf (.run context thread)).seen c id = [] := by
          rw [hseen_st, if_neg]
          rintro ⟨hcb', hin⟩
          rw [hwoken, hmem, hcb hcb', ha] at hin
          cases hin
        rw [hnot, List.append_nil, hseen, List.take_append_of_le_length hlen]
    cases hcompacted : report.compacted
    · -- no compaction: the slot keeps what the wake did to it
      rw [hcompacted] at hreg hlive hremoved
      simp only [Bool.false_eq_true, if_false] at hreg hlive hremoved
      refine ⟨hcons, (Registry.wakeSlot s).1, by simp [hreg, hs], by simp [hc], ?_, ?_⟩
      · intro hcb'
        simp [hc, hcb', hcb hcb']
      · have hcomp' : (m.stepOf (.run context thread)).compaction = [] := by
          simp [hcomp_st, hcompacted]
        rw [Registry.acknowledged_wakeSlot_of_held hc hcb]
        cases hnow : (s.acknowledged || c.consumesOnWake)
        · -- a task that has not taken the window: nothing changes for it
          have ha : s.acknowledged = false := by simpa using (Bool.or_eq_false_iff.1 hnow).1
          have hcw : c.consumesOnWake = false := (Bool.or_eq_false_iff.1 hnow).2
          rw [ha] at hseen
          have hnot : (m.stepOf (.run context thread)).seen c id = [] := by
            simp [hseen_st, hcw]
          simpa [Seen, List.flatMap_append, hnot, hcomp'] using hseen
        · refine ⟨?_, ?_⟩
          · rw [List.flatMap_append, List.flatMap_append, List.flatMap_singleton,
              List.flatMap_singleton, hkey hnow, hcomp', List.append_nil, hlive, hfill',
              List.drop_zero]
          · rw [hlive, hfill']
            exact hfill
    · -- a compaction: every flag is cleared and the window `c` has seen is the one removed
      rw [hcompacted] at hreg hlive hremoved hcomp
      simp only [if_true] at hreg hlive hremoved
      have hall : (Registry.wakeSlot s).1.acknowledged = true :=
        Registry.acknowledged_of_allAcknowledged hcomp.symm
          (by rw [Registry.slot?_notifyAll, hs]; rfl)
          (show (Registry.wakeSlot s).1.holder = some c by simp [hc])
      have hnow : (s.acknowledged || c.consumesOnWake) = true := by
        rwa [Registry.acknowledged_wakeSlot_of_held hc hcb] at hall
      refine ⟨hcons, { (Registry.wakeSlot s).1 with acknowledged := false, consumed := false },
        by simp [hreg, hs], by simp [hc], fun _ => rfl, ?_⟩
      have hcomp' : (m.stepOf (.run context thread)).compaction =
          [(m.live ++ m.delivered).take m.fillLevel] := by
        rw [hcomp_st, hcompacted, if_pos rfl, hremoved]
      show _ = _
      rw [List.flatMap_append, List.flatMap_append, List.flatMap_singleton,
        List.flatMap_singleton, hkey hnow, hcomp']

/-! ### Every call -/

/-- **A take of `c`'s own slot keeps the standing** for a subscriber that is not a callback: it
finds the slot not acknowledged, so `c` had seen only the blocks compacted, and it hands `c` the
first window of the live bytes. -/
theorem take_self (hd : Delivered c id h m) (hcw : c.consumesOnWake = false) {w : List UInt8}
    (hfresh : m.registry.isAcknowledged id = false) (hread : m.readWindow id = .ok w)
    (hack : m.ack id = .ok m') (hexec : m.exec (.take id) = (m', .window w)) :
    Delivered c id (h ++ [m.stepOf (.take id)]) (m.exec (.take id)).1 := by
  obtain ⟨s, hs, hc, -, hseen₀⟩ := hd.slot
  have hunacked : s.acknowledged = false := (Registry.isAcknowledged_of_slot? hs).symm.trans hfresh
  rw [hunacked] at hseen₀
  have hseen₀ : h.flatMap (·.seen c id) = h.flatMap Step.compaction := hseen₀
  obtain ⟨hackr, heq⟩ := ack_eq_ok hack
  obtain ⟨s', hs', -, hr'⟩ := Registry.acknowledge_eq_ok hackr
  rw [hs] at hs'
  cases hs'
  obtain ⟨-, s₀, hs₀, hle, rfl⟩ := readWindow_eq_ok hread
  have hslot : m'.registry.slot? id = some { s with acknowledged := true } := by
    obtain ⟨hid, hget⟩ := Registry.slot?_eq_some.1 hs
    exact Registry.slot?_of_set_self (by rw [hr']) hid (List.getElem?_eq_some_iff.1 hget).1
  -- the take changes only the registry
  have hlive : m'.live = s₀.live := by rw [heq, ← live_of_staging hs₀]; rfl
  have hfill : m'.fillLevel = m.fillLevel := by rw [heq]
  have hseen_st : (m.stepOf (.take id)).seen c id = [s₀.live.take m.fillLevel] := by
    simp [stepOf_eq hexec, Step.seen]
  have hcomp_st : (m.stepOf (.take id)).compaction = [] := compaction_of_not_run (by simp)
  rw [hexec]
  refine ⟨hd.consistent.ack hack, _, hslot, hc, fun h => absurd h (by simp [hcw]), ?_, ?_⟩
  · rw [List.flatMap_append, List.flatMap_append, List.flatMap_singleton, List.flatMap_singleton,
      hseen_st, hcomp_st, hseen₀, hlive, hfill, List.append_nil]
  · simpa [hlive, hfill] using hle

/-- **Every call that returns keeps the standing**, but for the calls `c` refrains from: an
unsubscription or an acknowledgement of its slot, a take of it by a callback, and a change of the
fill level while its slot is acknowledged. -/
theorem step (hd : Delivered c id h m) {op : Op} (hunsub : op ≠ .unsubscribe id)
    (hack : op ≠ .ack id) (htake : c.consumesOnWake = true → op ≠ .take id)
    (hset : ∀ fill, op = .setFillLevel fill → m.registry.isAcknowledged id = false)
    (hgo : (m.exec op).2.stops = false) :
    Delivered c id (h ++ [m.stepOf op]) (m.exec op).1 := by
  obtain ⟨s, hs, hc, -⟩ := hd.slot
  have hid : id ≠ 0 := (Registry.slot?_eq_some.1 hs).1
  cases op with
  | init size fill =>
      -- a manager with a buffer is not initialized again
      obtain ⟨supplies, ⟨-, heq⟩ | ⟨-, hnone, -⟩⟩ := init_cases m size fill
      · have hexec : (m.exec (.init size fill)).1 = { m with supplies := supplies } := by
          rw [exec_init_fst, heq]
        exact hd.of_not_run (by simp) (by simp) (by rw [hexec]) (by rw [hexec]) rfl
      · have := hd.staging_isSome
        simp [hnone] at this
  | deinit =>
      -- a buffer with a subscriber is not released
      have hsame : (m.exec .deinit).1 = m := by
        simp only [exec]
        split
        · rename_i m'' hdeinit
          exact absurd (hd.consistent.active_eq.symm.trans (deinit_eq_ok hdeinit).1)
            hd.occupied_ne_zero
        · rfl
      exact hd.of_exec_self hsame rfl (compaction_of_not_run (by simp))
  | setAllocator supply =>
      exact hd.of_not_run (by simp) (by simp) (by simp [exec, addSupply_eq])
        (by simp [exec, addSupply_eq]) rfl
  | setSharedAllocator i =>
      exact hd.of_not_run (by simp) (by simp) (by simp [exec]) (by simp [exec]) rfl
  | subscribe c' =>
      rcases hsub : m.subscribe c' with e | ⟨m', id'⟩
      · have hsame : (m.exec (.subscribe c')).1 = m := by simp only [exec, hsub]
        exact hd.of_exec_self hsame rfl (compaction_of_not_run (by simp))
      · have hexec : (m.exec (.subscribe c')).1 = m' := by simp only [exec, hsub]
        obtain ⟨-, hreg, heq⟩ := subscribe_eq_ok hsub
        -- a subscription that takes a slot takes a free one, not `c`'s
        have hslot : m'.registry.slot? id = m.registry.slot? id := by
          obtain ⟨-, ⟨-, -, -, -, hsame⟩ | ⟨-, i, hi, hfree, -, -, hfresh⟩⟩ :=
            Registry.subscribe_eq_ok hreg
          · rw [hsame]
          · exact Registry.slot?_of_set_ne (by rw [hfresh])
              (Registry.index_ne_of_free hs hc hi hfree)
        exact hd.of_not_run (by simp) (by simp) (by rw [hexec, hslot])
          (by rw [hexec, heq]) rfl
  | unsubscribe id' =>
      -- an unsubscription frees the slot it names, not `c`'s
      have hne : id ≠ id' := fun h => hunsub (by rw [h])
      exact hd.of_not_run (by simp) (by simp) (Registry.slot?_unsubscribe_of_ne _ hne) rfl rfl
  | run context thread =>
      rcases hrun : m.run context thread with ⟨m', (e | p) | report⟩
      · -- a refused run changes nothing
        obtain ⟨rfl, -⟩ := run_refused hrun
        have hexec := exec_run_of_refused hrun
        exact hd.of_exec_self (by rw [hexec]) (by rw [stepOf_eq hexec]; rfl)
          (by rw [stepOf_eq hexec]; rfl)
      · rw [exec_run_of_stopped hrun] at hgo
        cases hgo
      · rw [exec_run_of_ok hrun]
        exact hd.run_step hrun
  | read id' =>
      have hsame : (m.exec (.read id')).1 = m := by
        simp only [exec]
        split <;> rfl
      exact hd.of_exec_self hsame rfl (compaction_of_not_run (by simp))
  | ack id' =>
      have hne : id ≠ id' := fun h => hack (by rw [h])
      rcases hok : m.ack id' with e | m'
      · have hsame : (m.exec (.ack id')).1 = m := by simp only [exec, hok]
        exact hd.of_exec_self hsame rfl (compaction_of_not_run (by simp))
      · have hexec : (m.exec (.ack id')).1 = m' := by simp only [exec, hok]
        -- an acknowledgement raises the flag of the slot it names, not `c`'s
        exact hd.of_not_run (by simp) (by simp) (by rw [hexec, slot?_ack_of_ne hok hne])
          (by rw [hexec, (ack_eq_ok hok).2]) rfl
  | isAcknowledged id' => exact hd.of_exec_self rfl rfl (compaction_of_not_run (by simp))
  | take id' =>
      rcases exec_take m id' with hexec | ⟨e, hexec⟩ | ⟨w, m', hfresh, hread, hok, hexec⟩
      · exact hd.of_exec_self (by rw [hexec]) (by rw [stepOf_eq hexec]; rfl)
          (compaction_of_not_run (by simp))
      · exact hd.of_exec_self (by rw [hexec]) (by rw [stepOf_eq hexec]; rfl)
          (compaction_of_not_run (by simp))
      · by_cases hne : id' = id
        · -- `c`'s own take: `c` is not a callback
          subst hne
          have hcw : c.consumesOnWake = false := by
            cases hcw : c.consumesOnWake
            · rfl
            · exact absurd rfl (htake hcw)
          exact hd.take_self hcw hfresh hread hok hexec
        · -- another subscriber's take acknowledges its own slot
          exact hd.of_not_run (by simp) (by simp)
            (by rw [hexec, slot?_ack_of_ne hok (Ne.symm hne)]) (by rw [hexec, (ack_eq_ok hok).2])
            (by simp [stepOf_eq hexec, Step.seen, hne])
  | setFillLevel fill =>
      -- the fill level enters only the window `c` holds, and `c` holds none
      exact hd.of_unacknowledged (hset fill rfl) (by rw [registry_exec_of_quiet rfl]) rfl
        (compaction_of_not_run (by simp))

end Delivered

/-! ### Sessions -/

/-- **Exactly-once delivery while the window seen stays fixed.**  Let `c`, holding no slot of a
consistent manager, subscribe and get the slot `id`, and let a session follow in which no call
stops, `id` is never unsubscribed nor acknowledged, a callback never takes its window and the fill
level is set only while `id`'s slot is not acknowledged.  Then the windows `c` saw over the session
are, in order, the blocks its compactions removed, followed by at most the first window of the live
bytes it leaves. -/
theorem delivered_once_at_fixed_fill (hm : m.Consistent)
    (hnew : ∀ s ∈ m.registry.slots, s.holder.any (·.same c) = false)
    (hsub : m.subscribe c = .ok (m', id)) (ops : List Op) (hunsub : .unsubscribe id ∉ ops)
    (hack : .ack id ∉ ops) (htake : c.consumesOnWake = true → .take id ∉ ops)
    (hset : ∀ st ∈ m'.steps ops, ∀ fill, st.op = .setFillLevel fill →
      st.pre.registry.isAcknowledged id = false)
    (hgo : ∀ st ∈ m'.steps ops, st.outcome.stops = false) :
    (m'.steps ops).flatMap (·.seen c id) = (m'.steps ops).flatMap Step.compaction ∨
      (m'.steps ops).flatMap (·.seen c id) = (m'.steps ops).flatMap Step.compaction ++
        [(m'.after ops).live.take (m'.after ops).fillLevel] := by
  -- the standing holds from the subscription on, through every call of the session; a call is
  -- allowed when it is one of the session's and sets the fill level only on an open slot
  have hend := history_after_of_allowed (fun h m => Delivered c id h m)
    (fun m op => op ∈ ops ∧ ∀ fill, op = .setFillLevel fill → m.registry.isAcknowledged id = false)
    (fun _ _ op ⟨hop, hfresh⟩ hd hgo' => hd.step (fun h => hunsub (h ▸ hop))
      (fun h => hack (h ▸ hop)) (fun hcb h => htake hcb (h ▸ hop)) hfresh hgo')
    (Delivered.start hm hnew hsub) (fun st hst => ⟨op_mem_of_mem_steps hst, hset st hst⟩) hgo
  obtain ⟨s, -, -, -, hseen⟩ := hend.slot
  rw [List.nil_append] at hseen
  cases ha : s.acknowledged <;> rw [ha] at hseen
  · exact .inl hseen
  · exact .inr hseen.1

/-- A callback subscribed next to a task, with the fill level raised to the whole buffer before
anything is buffered, sees the one window of a scripted producer, compacted once the task has
taken it. -/
theorem delivered_once_scripted :
    let m := ((withSlots (Script.feed (Script.feed {} [1, 2]) [3, 4]) 2).init 4 2).1
    let c : Consumer := ⟨"s", 1, .callback⟩
    let ops := [.subscribe ⟨"t", 2, .task⟩, .setFillLevel 4, .run .task 0, .run .task 0, .take 2,
      .run .task 0]
    let m' := (m.exec (.subscribe c)).1
    (m'.steps ops).flatMap (·.seen c 1) = (m'.steps ops).flatMap Step.compaction ∨
      (m'.steps ops).flatMap (·.seen c 1) = (m'.steps ops).flatMap Step.compaction ++
        [(m'.after ops).live.take (m'.after ops).fillLevel] :=
  delivered_once_at_fixed_fill ((Consistent.withSlots _ 2).init 4 2) (by decide) rfl _
    (by simp) (by simp) (by simp)
    (fun st hst fill hop => by
      -- the session sets the fill level once, to four, while the callback's slot is open
      have hfill : fill = 4 := by simpa [hop] using op_mem_of_mem_steps hst
      subst hfill
      revert hop
      revert st
      decide)
    (by decide)

/-- **A fill level raised between a wake and the compaction compacts a block nobody was shown.**
A callback is woken with the first four bytes, which a task holds back; the fill level is then
raised to eight, and once the task acknowledges, the run compacts all eight bytes without waking
the callback again: it saw one block, and another was compacted. -/
theorem refill_compacts_unseen_block :
    let m := ((withSlots (Script.feed (Script.feed {} [1, 2, 3, 4]) [5, 6, 7, 8]) 2).init 8 4).1
    let c : Consumer := ⟨"s", 1, .callback⟩
    let ops := [.subscribe ⟨"t", 2, .task⟩, .run .task 0, .setFillLevel 8, .run .task 0, .ack 2,
      .run .task 0]
    let m' := (m.exec (.subscribe c)).1
    (m.exec (.subscribe c)).2 = .id 1 ∧
      (m'.steps ops).flatMap (·.seen c 1) = [[1, 2, 3, 4]] ∧
      (m'.steps ops).flatMap Step.compaction = [[1, 2, 3, 4, 5, 6, 7, 8]] ∧
      (m'.after ops).live = [] :=
  ⟨rfl, by decide, by decide, by decide⟩

end Manager

end RadarIngest
