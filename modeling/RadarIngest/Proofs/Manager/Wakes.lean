import Mathlib.Data.List.Basic
import RadarIngest.Proofs.Manager.Compaction
import RadarIngest.Proofs.Manager.Metrics

/-!
**Whom a run wakes.**

A run that reaches the fill level wakes, in slot order, the consumer of every occupied slot whose
*consumed* flag is down.  A wake of a callback consumes the window and raises the flag; a wake of
a task consumer leaves it down.  The flag is cleared again only by a compaction or by the fresh
subscription that hands the slot to a new consumer.

So whom a run wakes is a function of the session so far.  The log of window events
(`RadarIngest.Step.events`) records every move that touches a consumed flag, and
`RadarIngest.consumedWindow` reads the flag off the log: `c`'s callback has consumed the window
when, since the later of `c`'s last fresh subscription and the last compaction, a wake of its
callback consumed a window.  Along every session the flags are what the log says
(`RadarIngest.Manager.WakeTracked`), so each run wakes exactly the subscribers the log has not
marked.  Every call moves the slots in one of six ways (`RadarIngest.SlotsMove`), and one lemma
per way carries the flags along.

Main definitions:

* `RadarIngest.consumedWindow` — a consumer's callback consumed the window, read off the log;
* `RadarIngest.Manager.WakeTracked` — the consumed flags follow the log.

Main results:

* `RadarIngest.SlotsMove.consumed_follows` — each move keeps the flags in step with the log;
* `RadarIngest.Manager.WakeTracked.woken_eq` — a wake reaches, in slot order, every registered
  subscriber whose callback has not consumed the window;
* `RadarIngest.Manager.run_wakes_unconsumed` — **the wake set of every run of a session**: the
  unconsumed subscribers in slot order, each once, with the first fill-level bytes; a task
  consumer is woken on every run at the fill level, a callback at most once per window.
-/

set_option autoImplicit false

namespace RadarIngest

namespace WindowEvent

/-- What an event does to whether `c`'s callback has consumed the window: a compaction, or a fresh
subscription of `c`, clears it; a consumption by `c`'s callback sets it. -/
def consumedAfter (c : Consumer) (b : Bool) : WindowEvent → Bool
  | .took d => b && d != c
  | .acked _ => b
  | .consumed d => b || d == c
  | .compacted => false

theorem consumedAfter_eq_true {c : Consumer} {b : Bool} {e : WindowEvent} :
    consumedAfter c b e = true ↔ (b = true ∧ e ≠ .compacted ∧ e ≠ .took c) ∨ e = .consumed c := by
  cases e with
  | took d => by_cases hd : d = c <;> simp [consumedAfter, hd]
  | acked d => simp [consumedAfter]
  | consumed d => by_cases hd : d = c <;> simp [consumedAfter, hd]
  | compacted => simp [consumedAfter]

/-- A run's consumptions mark exactly the callbacks it woke. -/
theorem foldl_consumedAfter_consumptions (c : Consumer) (woken : List Consumer) (b : Bool) :
    (consumptions woken).foldl (consumedAfter c) b =
      (b || (decide (c ∈ woken) && c.consumesOnWake)) := by
  induction woken generalizing b with
  | nil => simp [consumptions]
  | cons d woken ih =>
      by_cases hd : d.consumesOnWake = true
      · have hcons : consumptions (d :: woken) = .consumed d :: consumptions woken := by
          simp [consumptions, hd]
        rw [hcons, List.foldl_cons, ih]
        by_cases hdc : d = c
        · subst hdc
          simp [consumedAfter, hd]
        · simp [consumedAfter, beq_false_of_ne hdc, Ne.symm hdc]
      · have hcons : consumptions (d :: woken) = consumptions woken := by
          simp [consumptions, hd]
        rw [hcons, ih]
        by_cases hdc : d = c
        · subst hdc
          simp [hd]
        · simp [Ne.symm hdc]

end WindowEvent

/-- **`c`'s callback has consumed the window** by the end of the log: since the later of `c`'s
last fresh subscription and the last compaction, a wake of its callback consumed a window. -/
def consumedWindow (log : List WindowEvent) (c : Consumer) : Bool :=
  log.foldl (WindowEvent.consumedAfter c) false

section ConsumedWindow

variable {log l : List WindowEvent} {c : Consumer}

@[simp] theorem consumedWindow_nil : consumedWindow [] c = false := rfl

@[simp] theorem consumedWindow_append_singleton (e : WindowEvent) :
    consumedWindow (log ++ [e]) c = WindowEvent.consumedAfter c (consumedWindow log c) e := by
  simp [consumedWindow]

/-- The consumptions of a wake mark the callbacks it woke and leave every other flag alone. -/
theorem consumedWindow_append_consumptions (woken : List Consumer) :
    consumedWindow (log ++ WindowEvent.consumptions woken) c =
      (consumedWindow log c || (decide (c ∈ woken) && c.consumesOnWake)) := by
  rw [consumedWindow, List.foldl_append]
  exact WindowEvent.foldl_consumedAfter_consumptions c woken _

/-- The fold from any start: the start survives a log with no reset of `c`, and a consumption by
`c` followed by no reset sets the flag. -/
theorem foldl_consumedAfter_eq_true (b : Bool) :
    l.foldl (WindowEvent.consumedAfter c) b = true ↔
      (b = true ∧ .compacted ∉ l ∧ .took c ∉ l) ∨
        ∃ pre post, l = pre ++ .consumed c :: post ∧ .compacted ∉ post ∧ .took c ∉ post := by
  induction l generalizing b with
  | nil => simp
  | cons e l ih =>
      -- a split of `e :: l` puts the consumption at `e` or inside `l`
      have hsplit : (∃ pre post, e :: l = pre ++ .consumed c :: post ∧
            .compacted ∉ post ∧ .took c ∉ post) ↔
          (e = .consumed c ∧ .compacted ∉ l ∧ .took c ∉ l) ∨
            ∃ pre post, l = pre ++ .consumed c :: post ∧ .compacted ∉ post ∧ .took c ∉ post := by
        constructor
        · rintro ⟨pre, post, hl, hcomp, htook⟩
          cases pre with
          | nil =>
              obtain ⟨rfl, rfl⟩ := List.cons.inj hl
              exact .inl ⟨rfl, hcomp, htook⟩
          | cons e' pre =>
              obtain ⟨-, rfl⟩ := List.cons.inj hl
              exact .inr ⟨pre, post, rfl, hcomp, htook⟩
        · rintro (⟨rfl, hcomp, htook⟩ | ⟨pre, post, rfl, hcomp, htook⟩)
          · exact ⟨[], l, rfl, hcomp, htook⟩
          · exact ⟨e :: pre, post, rfl, hcomp, htook⟩
      rw [List.foldl_cons, ih, hsplit, WindowEvent.consumedAfter_eq_true]
      constructor
      · rintro (⟨⟨hb, he₁, he₂⟩ | rfl, hl₁, hl₂⟩ | h)
        · exact .inl ⟨hb, by simp [Ne.symm he₁, hl₁], by simp [Ne.symm he₂, hl₂]⟩
        · exact .inr (.inl ⟨rfl, hl₁, hl₂⟩)
        · exact .inr (.inr h)
      · rintro (⟨hb, hl₁, hl₂⟩ | ⟨rfl, hl₁, hl₂⟩ | h)
        · simp only [List.mem_cons, not_or] at hl₁ hl₂
          exact .inl ⟨.inl ⟨hb, Ne.symm hl₁.1, Ne.symm hl₂.1⟩, hl₁.2, hl₂.2⟩
        · exact .inl ⟨.inr rfl, hl₁, hl₂⟩
        · exact .inr h

/-- **What the flag says**: `c`'s callback has consumed the window exactly when the log holds a
consumption by `c` after which there is no compaction and no fresh subscription of `c`. -/
theorem consumedWindow_eq_true :
    consumedWindow log c = true ↔
      ∃ pre post, log = pre ++ .consumed c :: post ∧ .compacted ∉ post ∧ .took c ∉ post := by
  rw [consumedWindow, foldl_consumedAfter_eq_true]
  simp

/-- A flag that is up stays up through events that neither compact nor subscribe `c` afresh. -/
theorem consumedWindow_append_of_quiet (hc : consumedWindow log c = true)
    (hcomp : .compacted ∉ l) (htook : .took c ∉ l) : consumedWindow (log ++ l) c = true := by
  obtain ⟨pre, post, rfl, hpost₁, hpost₂⟩ := consumedWindow_eq_true.1 hc
  exact consumedWindow_eq_true.2 ⟨pre, post ++ l, by simp, by simp [hpost₁, hcomp],
    by simp [hpost₂, htook]⟩

end ConsumedWindow

/-- Only a callback's wake is logged as a consumption. -/
theorem Step.consumesOnWake_of_consumed_mem {P : Type} [Producer P] {st : Step P} {c : Consumer}
    (h : .consumed c ∈ st.events) : c.consumesOnWake = true := by
  unfold Step.events at h
  split at h
  · split at h <;> simp at h
  · simp at h
  · simp at h
  · simp only [WindowEvent.consumptions, List.mem_append, List.mem_map, List.mem_filter] at h
    rcases h with ⟨d, ⟨-, hd⟩, hdc⟩ | h
    · cases hdc
      exact hd
    · split at h <;> simp at h
  · simp at h

/-- A run that returned logs a consumption for each callback it woke, then its compaction. -/
theorem Step.events_of_run {P : Type} [Producer P] {st : Step P} {context : WakeContext}
    {thread : Nat} {report : RunReport} (hop : st.op = .run context thread)
    (hran : st.outcome = .ran report) :
    st.events =
      WindowEvent.consumptions report.woken ++ if report.compacted then [.compacted] else [] := by
  unfold Step.events
  rw [hop, hran]

/-- A flag that is up in a session's log belongs to a callback. -/
theorem consumesOnWake_of_consumedWindow {P : Type} [Producer P] {h : List (Step P)}
    {c : Consumer} (hc : consumedWindow (h.flatMap Step.events) c = true) :
    c.consumesOnWake = true := by
  obtain ⟨pre, post, hlog, -, -⟩ := consumedWindow_eq_true.1 hc
  have hmem : .consumed c ∈ h.flatMap Step.events := by simp [hlog]
  obtain ⟨st, -, hst⟩ := List.mem_flatMap.1 hmem
  exact Step.consumesOnWake_of_consumed_mem hst

/-! ### The consumed flags along one move -/

/-- The consumed flag of every occupied slot of `r` is what the log says. -/
def ConsumedFollows (r : Registry) (log : List WindowEvent) : Prop :=
  ∀ id s c, r.slot? id = some s → s.holder = some c → s.consumed = consumedWindow log c

namespace SlotsMove

variable {r r' : Registry} {ev log : List WindowEvent}

/-- **Each move keeps the consumed flags in step with the log.**  A fresh subscription and a
compaction clear a flag and log its reset; a wake raises the flag of every callback it reaches
and logs that consumption; an acknowledgement or a freed slot touches no flag. -/
theorem consumed_follows (hmove : SlotsMove r r' ev) (hd : r.Distinct)
    (hf : ConsumedFollows r log) : ConsumedFollows r' (log ++ ev) := by
  intro id s c hs hc
  cases hmove with
  | quiet => simpa using hf id s c hs hc
  | @took c' i hnew hi =>
      rcases Registry.slot?_set_cases hi _ _ hs with ⟨-, rfl⟩ | ⟨-, hs₀⟩
      · -- the slot taken: its flag is down, and the log ends with its fresh subscription
        cases hc
        simp [WindowEvent.consumedAfter]
      · -- another slot is as it was, and holds another consumer
        have hne : c' ≠ c :=
          Registry.ne_holder_of_unheld hnew (Registry.mem_of_slot?_eq_some hs₀) hc
        simp [WindowEvent.consumedAfter, hne, ← hf id s c hs₀ hc]
  | @freed id' s' c' hs' hc' =>
      rcases Registry.slot?_set_cases (Registry.index_lt_of_slot? hs') _ _ hs with
        ⟨-, rfl⟩ | ⟨-, hs₀⟩
      · -- the slot freed holds nobody
        cases hc
      · simpa using hf id s c hs₀ hc
  | @acked id' s' c' hs' hc' =>
      -- an acknowledgement touches no consumed flag
      rw [consumedWindow_append_singleton]
      rcases Registry.slot?_set_cases (Registry.index_lt_of_slot? hs') _ _ hs with
        ⟨-, rfl⟩ | ⟨-, hs₀⟩
      · exact hf id' s' c hs' hc
      · exact hf id s c hs₀ hc
  | woke =>
      -- each flag is what the wake made it
      rw [Registry.slot?_notifyAll] at hs
      obtain ⟨s₀, hs₀, rfl⟩ := Option.map_eq_some_iff.1 hs
      rw [Registry.holder_wakeSlot] at hc
      rw [consumedWindow_append_consumptions, ← hf id s₀ c hs₀ hc,
        Registry.consumed_wakeSlot, hc]
      cases hk : s₀.consumed
      · -- the slot had not consumed the window, so the wake reached it
        have hin : c ∈ r.notifyAll.2 := (Registry.mem_woken_iff_slot? hd hs₀ hc).2 hk
        simp [hin]
      · simp
  | compacted =>
      -- a compaction clears every flag, and the log ends with it
      rw [Registry.slot?_clearAcknowledgements] at hs
      obtain ⟨s₀, -, rfl⟩ := Option.map_eq_some_iff.1 hs
      rw [← List.append_assoc, consumedWindow_append_singleton]
      rfl

end SlotsMove

/-! ### Sessions -/

namespace Manager

variable {P : Type} {m m' : Manager P}

/-- **The consumed flags follow the log**: the manager is consistent, and the slot of every
subscriber has consumed the window exactly when the log of the steps `h` says its callback did. -/
structure WakeTracked (h : List (Step P)) (m : Manager P) : Prop where
  consistent : m.Consistent
  consumed : ConsumedFollows m.registry (h.flatMap Step.events)

namespace WakeTracked

variable {h : List (Step P)}

/-- A consistent manager without subscribers starts a log. -/
theorem start (hm : m.Consistent) (hfree : m.registry.occupied = 0) : WakeTracked [] m := by
  refine ⟨hm, fun id s c hs hc => ?_⟩
  have := Registry.occupied_eq_zero.1 hfree s (Registry.mem_of_slot?_eq_some hs)
  rw [hc] at this
  cases this

/-- **Every call that returns keeps the consumed flags in step with the log.** -/
theorem step [Producer P] (ht : WakeTracked h m) {op : Op} (hgo : (m.exec op).2.stops = false) :
    WakeTracked (h ++ [m.stepOf op]) (m.exec op).1 := by
  refine ⟨ht.consistent.exec op, ?_⟩
  rw [List.flatMap_append, List.flatMap_singleton]
  exact (slotsMove_exec ht.consistent op hgo).consumed_follows ht.consistent.distinct ht.consumed

/-- **Whom a wake reaches**: in slot order, the consumer of every occupied slot whose callback
has not consumed the window. -/
theorem woken_eq (ht : WakeTracked h m) :
    m.registry.notifyAll.2 = m.registry.slots.filterMap fun s =>
      s.holder.filter fun c => !consumedWindow (h.flatMap Step.events) c := by
  rw [Registry.woken_notifyAll]
  refine List.filterMap_congr fun s hs => ?_
  cases hc : s.holder with
  | none => simp
  | some c =>
      obtain ⟨id, hid⟩ := Registry.exists_slot?_of_mem hs
      rw [ht.consumed id s c hid hc]
      cases hw : consumedWindow (h.flatMap Step.events) c <;> simp [Option.filter, hw]

/-- A wake reaches a registered consumer exactly when its callback has not consumed the window. -/
theorem mem_woken_iff (ht : WakeTracked h m) {c : Consumer} :
    c ∈ m.registry.notifyAll.2 ↔
      some c ∈ m.registry.holders ∧ consumedWindow (h.flatMap Step.events) c = false := by
  rw [ht.woken_eq, List.mem_filterMap, Registry.mem_holders_iff]
  constructor
  · rintro ⟨s, hs, hsc⟩
    obtain ⟨hc, hnot⟩ := Option.filter_eq_some_iff.1 hsc
    obtain ⟨id, hid⟩ := Registry.exists_slot?_of_mem hs
    exact ⟨⟨id, s, hid, hc⟩, by simpa using hnot⟩
  · rintro ⟨⟨id, s, hid, hc⟩, hnot⟩
    exact ⟨s, Registry.mem_of_slot?_eq_some hid, Option.filter_eq_some_iff.2 ⟨hc, by simp [hnot]⟩⟩

end WakeTracked

variable [Producer P]

/-- A run that returns reports as many subscribers notified as it woke. -/
theorem notified_eq_length_woken (hm : m.FillWithin) {context : WakeContext} {thread : Nat}
    {report : RunReport} (h : m.run context thread = (m', .ok report)) :
    report.notified = report.woken.length := by
  obtain ⟨s, hs, -, hcycle⟩ := run_ok h
  obtain ⟨q, r, s₁, -, -, -, -, -, -, hshape⟩ :=
    cycle_ok (hm.head_eq_zero hs) (hm.capacity_pos hs) hcycle
  rcases hshape with ⟨-, hwoken, hnotified, -⟩ | ⟨-, -, hnotified, -⟩
  · rw [hwoken, hnotified]
    rfl
  · exact hnotified

/-- **The wake set of a run.**  Along a session from a consistent manager without subscribers, a
run that returns reports as many subscribers notified as it woke, and its report enters the
counters under its own context.  Below the fill level, with its producer's bytes, it wakes
nobody.  At the fill level it wakes, once each and in slot order, the consumer of every occupied
slot whose callback has not consumed the window since the later of its fresh subscription and the
last compaction, and hands them the first fill-level bytes.

So a task consumer is woken by every run at the fill level, acknowledged or not, until a
compaction removes the window; and a callback woken by two runs saw, in between, a compaction (the
earlier run's own included) or a fresh subscription of its own. -/
theorem run_wakes_unconsumed (hm : m.Consistent) (hfree : m.registry.occupied = 0)
    {ops : List Op} {before : List (Step P)} {st : Step P} {rest : List (Step P)}
    (hsplit : m.steps ops = before ++ st :: rest) {context : WakeContext} {thread : Nat}
    {report : RunReport} (hop : st.op = .run context thread) (hran : st.outcome = .ran report) :
    report.notified = report.woken.length ∧
    (∀ k, st.pre.metrics = .live k → st.post.metrics = .live (k.afterRuns [(context, report)])) ∧
    ((st.pre.live ++ st.pre.delivered).length < st.pre.fillLevel →
      report.woken = [] ∧ report.notified = 0) ∧
    (st.pre.fillLevel ≤ (st.pre.live ++ st.pre.delivered).length →
      report.woken = st.pre.registry.slots.filterMap (fun s =>
        s.holder.filter fun c => !consumedWindow (before.flatMap Step.events) c) ∧
      report.woken.Nodup ∧
      report.window = (st.pre.live ++ st.pre.delivered).take st.pre.fillLevel ∧
      ∀ c, some c ∈ st.pre.registry.holders → c.consumesOnWake = false → c ∈ report.woken) ∧
    ∀ c ∈ report.woken, c.consumesOnWake = true →
      ∀ pre st' mid report', before = pre ++ st' :: mid → st'.outcome = .ran report' →
        c ∈ report'.woken →
          .compacted ∈ (st' :: mid).flatMap Step.events ∨ .took c ∈ mid.flatMap Step.events := by
  -- the consumed flags follow the log up to the run
  have ht : WakeTracked before st.pre := by
    simpa using history_invariant WakeTracked (fun _ _ _ _ ht hgo => ht.step hgo)
      (WakeTracked.start hm hfree) hsplit
  -- the step is the run from its state
  obtain ⟨context', thread', hop', hrun⟩ :=
    run_of_mem_steps (show st ∈ m.steps ops by simp [hsplit]) hran
  rw [hop] at hop'
  cases hop'
  have hnotified := notified_eq_length_woken ht.consistent.live hrun
  obtain ⟨-, -, hcases⟩ := run_ok_cases ht.consistent.live hrun
  -- every subscriber the run wakes is unmarked in the log
  have hfresh : ∀ c ∈ report.woken, consumedWindow (before.flatMap Step.events) c = false := by
    intro c hc
    rcases hcases with ⟨-, hwoken, -⟩ | ⟨-, hwoken, -⟩
    · rw [hwoken] at hc
      cases hc
    · rw [hwoken] at hc
      exact (ht.mem_woken_iff.1 hc).2
  refine ⟨hnotified, fun k hk => ?_, fun hbelow => ?_, fun hfill => ?_, ?_⟩
  · -- the counters take the run's report under its context
    have hexec := exec_run_of_ok hrun
    have hmetrics := metrics_exec hk (.run context thread) (by rw [hexec]; rfl)
    rw [stepOf_eq hexec, hexec] at hmetrics
    exact hmetrics
  · rcases hcases with ⟨-, hwoken, -⟩ | ⟨hfill, -⟩
    · exact ⟨hwoken, by rw [hnotified, hwoken]; rfl⟩
    · omega
  · rcases hcases with ⟨hbelow, -⟩ | ⟨-, hwoken, hwindow, -⟩
    · omega
    · refine ⟨hwoken.trans ht.woken_eq, hwoken ▸ Registry.nodup_woken ht.consistent.distinct,
        hwindow, fun c hc htask => ?_⟩
      -- a task consumer is never marked, since only callbacks consume
      rw [hwoken]
      refine ht.mem_woken_iff.2 ⟨hc, ?_⟩
      cases hw : consumedWindow (before.flatMap Step.events) c
      · rfl
      · rw [consumesOnWake_of_consumedWindow hw] at htask
        cases htask
  · intro c hc hcb pre st' mid report' hbefore hran' hc'
    obtain ⟨context₁, thread₁, hop₁, -⟩ :=
      run_of_mem_steps (show st' ∈ m.steps ops by simp [hsplit, hbefore]) hran'
    have hev := Step.events_of_run hop₁ hran'
    by_cases hcomp : WindowEvent.compacted ∈ (st' :: mid).flatMap Step.events
    · exact .inl hcomp
    by_cases htook : WindowEvent.took c ∈ mid.flatMap Step.events
    · exact .inr htook
    -- otherwise the earlier run marked `c`, nothing since cleared the mark, and this run woke it
    exfalso
    have hnocomp : report'.compacted = false := by
      cases hr : report'.compacted
      · rfl
      · exact absurd (by simp [hev, hr]) hcomp
    have hmarked : consumedWindow (pre.flatMap Step.events ++ st'.events) c = true := by
      rw [hev, hnocomp, if_neg (by simp), List.append_nil, consumedWindow_append_consumptions]
      simp [hc', hcb]
    have hlog : before.flatMap Step.events =
        pre.flatMap Step.events ++ st'.events ++ mid.flatMap Step.events := by
      simp [hbefore]
    have hstill := consumedWindow_append_of_quiet hmarked (fun h => hcomp (by simp [h])) htook
    rw [← hlog, hfresh c hc] at hstill
    cases hstill

/-- A callback beside a slow task: the first run at the fill level wakes both, and the second,
which finds the window still there, wakes the task alone. -/
theorem slow_task_woken_again :
    let m := withSlots (Script.feed {} [1, 2, 3, 4]) 2
    let cb : Consumer := ⟨"cb", 1, .callback⟩
    let slow : Consumer := ⟨"slow", 2, .task⟩
    let m₁ := (m.exec (.init 4 4)).1
    let m₂ := (m₁.exec (.subscribe cb)).1
    let m₃ := (m₂.exec (.subscribe slow)).1
    let m₄ := (m₃.exec (.run .task 0)).1
    let before := [m.stepOf (.init 4 4), m₁.stepOf (.subscribe cb), m₂.stepOf (.subscribe slow),
      m₃.stepOf (.run .task 0)]
    let st := m₄.stepOf (.run .task 0)
    let report : RunReport := { notified := 1, woken := [slow], window := [1, 2, 3, 4] }
    report.notified = report.woken.length ∧
    (∀ k, st.pre.metrics = .live k → st.post.metrics = .live (k.afterRuns [(.task, report)])) ∧
    ((st.pre.live ++ st.pre.delivered).length < st.pre.fillLevel →
      report.woken = [] ∧ report.notified = 0) ∧
    (st.pre.fillLevel ≤ (st.pre.live ++ st.pre.delivered).length →
      report.woken = st.pre.registry.slots.filterMap (fun s =>
        s.holder.filter fun c => !consumedWindow (before.flatMap Step.events) c) ∧
      report.woken.Nodup ∧
      report.window = (st.pre.live ++ st.pre.delivered).take st.pre.fillLevel ∧
      ∀ c, some c ∈ st.pre.registry.holders → c.consumesOnWake = false → c ∈ report.woken) ∧
    ∀ c ∈ report.woken, c.consumesOnWake = true →
      ∀ pre st' mid report', before = pre ++ st' :: mid → st'.outcome = .ran report' →
        c ∈ report'.woken →
          .compacted ∈ (st' :: mid).flatMap Step.events ∨ .took c ∈ mid.flatMap Step.events :=
  run_wakes_unconsumed (Consistent.withSlots _ 2) rfl
    (show (withSlots (Script.feed {} [1, 2, 3, 4]) 2).steps
        [.init 4 4, .subscribe ⟨"cb", 1, .callback⟩, .subscribe ⟨"slow", 2, .task⟩, .run .task 0,
          .run .task 0] = _ ++ _ :: [] from rfl) rfl rfl

end Manager

end RadarIngest
