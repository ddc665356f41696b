import Mathlib.Data.List.Induction
import RadarIngest.Proofs.Manager.Allocation

/-!
**The thread a manager is bound to.**

Runs come from threads, and a manager serves one at a time: the first run that finds a buffer
live binds the manager to its thread, a run from any other thread is then refused, and only a
successful release drops the binding.  Nothing else touches it: not `init`, which leaves a
binding a release did not drop, not a refused release, nor any subscriber call.

`RadarIngest.Manager.binding` reads the binding off the steps of a session; it is the thread of
the first run since the last successful release that passed its guards
(`RadarIngest.Manager.binding_eq_some_iff`).  One call moves the thread field of a manager exactly
as one step moves `binding` (`RadarIngest.Manager.thread_exec`), so along every session from an
unbound manager the two agree.

Main definitions:

* `RadarIngest.Step.claimed`, `RadarIngest.Step.rebind`, `RadarIngest.Manager.binding`.

Main results:

* `RadarIngest.Manager.thread_cycle` — a cycle never touches the binding;
* `RadarIngest.Manager.exec_run_cases` — the two guards of a run;
* `RadarIngest.Manager.thread_exec` — what one call does to the binding;
* `RadarIngest.Manager.runs_bound_to_first_thread` — **the binding along every session**.
-/

set_option autoImplicit false

namespace RadarIngest

/-! ### A cycle never touches the binding -/

namespace Manager

section Cycle

variable {P : Type} {m m' : Manager P} {s : Staging} {report : RunReport} {context : WakeContext}

theorem thread_finish
    (h : (∃ r, m.finish s report = .ok (m', r)) ∨ ∃ p, m.finish s report = .error (m', p)) :
    m'.thread = m.thread := by
  unfold finish at h
  split at h
  · rcases h with ⟨r, h⟩ | ⟨p, h⟩
    · obtain ⟨m₁, hcount, hm⟩ := Except.map_eq_ok.1 h
      cases hm
      rw [counting_ok hcount]
    · rw [counting_error (Except.map_eq_error.1 h)]
  · rcases h with ⟨r, h⟩ | ⟨p, h⟩ <;> cases h
    rfl

theorem thread_settle
    (h : (∃ x, m.settle s context report = .ok (m', x)) ∨
      ∃ p, m.settle s context report = .error (m', p)) :
    m'.thread = m.thread := by
  rcases h with ⟨⟨s', report'⟩, h⟩ | ⟨p, h⟩
  · rcases settle_ok h with ⟨-, rfl, -⟩ | ⟨-, r, -, ⟨-, -, -, rfl⟩ | ⟨-, -, -, rfl⟩⟩ <;> rfl
  · obtain ⟨-, r, -, rfl | ⟨-, rfl⟩⟩ := settle_error h <;> rfl

/-- **A cycle never touches the binding**, whether it returns or stops, and whatever the size of
the buffer. -/
theorem thread_cycle [Producer P]
    (h : (∃ r, m.cycle s context = .ok (m', r)) ∨ ∃ p, m.cycle s context = .error (m', p)) :
    m'.thread = m.thread := by
  unfold cycle at h
  rcases h with ⟨r, h⟩ | ⟨p, h⟩
  · obtain ⟨⟨m₁, s₁, report₁⟩, hingest, h₁⟩ := Except.bind_eq_ok.1 h
    obtain ⟨m₂, hcount, h₂⟩ := Except.bind_eq_ok.1 h₁
    obtain ⟨⟨m₃, s₃, report₃⟩, hsettle, hfinish⟩ := Except.bind_eq_ok.1 h₂
    obtain ⟨-, -, -, -, q, r₁, -, rfl⟩ := ingest_ok hingest
    have hm₂ := counting_ok hcount
    subst hm₂
    rw [thread_finish (.inl ⟨r, hfinish⟩), thread_settle (.inl ⟨_, hsettle⟩)]
  · rcases Except.bind_eq_error.1 h with hingest | ⟨⟨m₁, s₁, report₁⟩, hingest, h₁⟩
    · obtain ⟨-, q, r, s₁, -, -, -, rfl⟩ := ingest_error hingest
      rfl
    obtain ⟨-, -, -, -, q, r₁, -, rfl⟩ := ingest_ok hingest
    rcases Except.bind_eq_error.1 h₁ with hcount | ⟨m₂, hcount, h₂⟩
    · rw [counting_error hcount]
    have hm₂ := counting_ok hcount
    subst hm₂
    rcases Except.bind_eq_error.1 h₂ with hsettle | ⟨⟨m₃, s₃, report₃⟩, hsettle, hfinish⟩
    · rw [thread_settle (.inr ⟨p, hsettle⟩)]
    · rw [thread_finish (.inr ⟨p, hfinish⟩), thread_settle (.inl ⟨_, hsettle⟩)]

end Cycle

end Manager

/-! ### The binding a session leaves -/

namespace Step

variable {P : Type}

/-- The thread a step's run claims: a run that passed its guards, whether it returned or
stopped. -/
def claimed (st : Step P) : Option Nat :=
  match st.op, st.outcome with
  | .run _ thread, .ran _ => some thread
  | .run _ thread, .stopped _ => some thread
  | _, _ => none

/-- The binding after a step, from the one before it: a successful release drops it; otherwise
it stays, or the thread a run claims becomes it. -/
def rebind (b : Option Nat) (st : Step P) : Option Nat :=
  if st.released then none else b.or st.claimed

theorem released_of_claimed {st : Step P} {t : Nat} (h : st.claimed = some t) :
    st.released = false := by
  unfold claimed at h
  unfold released
  split at h <;> simp_all

end Step

namespace Manager

variable {P : Type}

/-- The binding the steps `h` leave on a manager that was unbound before them. -/
def binding (h : List (Step P)) : Option Nat := h.foldl Step.rebind none

@[simp] theorem binding_nil : binding ([] : List (Step P)) = none := rfl

@[simp] theorem binding_append (h : List (Step P)) (st : Step P) :
    binding (h ++ [st]) = Step.rebind (binding h) st := by
  simp [binding]

/-- Steps that release nothing leave a binding as it was. -/
theorem binding_append_of_unreleased {h : List (Step P)} {t : Nat} (hb : binding h = some t)
    {rest : List (Step P)} (hrest : ∀ st ∈ rest, st.released = false) :
    binding (h ++ rest) = some t := by
  induction rest using List.reverseRecOn with
  | nil => simpa using hb
  | append_singleton rest st ih =>
      rw [← List.append_assoc, binding_append, ih (fun st' h' => hrest st' (by simp [h'])),
        Step.rebind, hrest st (by simp), if_neg Bool.false_ne_true, Option.some_or]

/-- **The binding is the thread of the first run since the last successful release that passed
its guards**: the steps split into those before that run, which leave no binding, the run, and
steps after it of which none is a successful release. -/
theorem binding_eq_some_iff {h : List (Step P)} {t : Nat} :
    binding h = some t ↔
      ∃ before st after, h = before ++ st :: after ∧ binding before = none ∧
        st.claimed = some t ∧ ∀ st' ∈ after, st'.released = false := by
  constructor
  · induction h using List.reverseRecOn with
    | nil => simp
    | append_singleton h st ih =>
        rw [binding_append, Step.rebind]
        intro hb
        split at hb
        · cases hb
        · rename_i hst
          rcases hh : binding h with _ | t'
          · -- nothing was bound before: this step's run binds
            rw [hh, Option.none_or] at hb
            exact ⟨h, st, [], by simp, hh, hb, by simp⟩
          · -- the binding was already there, and this step kept it
            rw [hh, Option.some_or] at hb
            cases hb
            obtain ⟨before, st', after, rfl, hnone, hclaim, hkeep⟩ := ih hh
            refine ⟨before, st', after ++ [st], by simp, hnone, hclaim, fun st'' h'' => ?_⟩
            rcases List.mem_append.1 h'' with h'' | h''
            · exact hkeep st'' h''
            · rw [List.mem_singleton.1 h'']
              exact Bool.eq_false_iff.2 hst
  · rintro ⟨before, st, after, rfl, hnone, hclaim, hkeep⟩
    have hbound : binding (before ++ [st]) = some t := by
      rw [binding_append, Step.rebind, Step.released_of_claimed hclaim, if_neg Bool.false_ne_true,
        hnone, Option.none_or, hclaim]
    simpa using binding_append_of_unreleased hbound hkeep

/-! ### What one call does to the binding -/

section Calls

variable [Producer P] {m : Manager P}

/-- **The guards of a run.**  Without a buffer it is refused as not ready; bound to another
thread it is refused as blocked; either way nothing changes.  Otherwise it passes both, and
whether it returns or stops it leaves the manager bound to its thread. -/
theorem exec_run_cases (m : Manager P) (context : WakeContext) (thread : Nat) :
    (m.staging = none ∧
        m.exec (.run context thread) = (m, .refused (.notReady .uninitialized))) ∨
      (m.staging.isSome ∧ (∃ t, m.thread = some t ∧ t ≠ thread) ∧
        m.exec (.run context thread) = (m, .refused (.operationBlocked .foreignThread))) ∨
      (m.staging.isSome ∧ (m.thread = none ∨ m.thread = some thread) ∧
        (∀ e, (m.exec (.run context thread)).2 ≠ .refused e) ∧
        (m.stepOf (.run context thread)).claimed = some thread ∧
        (m.exec (.run context thread)).1.thread = some thread) := by
  rcases hrun : m.run context thread with ⟨m', (e | p) | report⟩
  · obtain ⟨rfl, ⟨hs, rfl⟩ | ⟨hs, rfl, hbound⟩⟩ := run_refused hrun
    · exact .inl ⟨hs, exec_run_of_refused hrun⟩
    · exact .inr (.inl ⟨hs, hbound, exec_run_of_refused hrun⟩)
  · obtain ⟨s, hs, hbound, hcycle⟩ := run_stopped hrun
    have hexec := exec_run_of_stopped hrun
    have hclaim : (m.stepOf (.run context thread)).claimed = some thread := by
      simp [Step.claimed, hexec]
    rw [hexec]
    exact .inr (.inr ⟨by simp [hs], hbound, fun e => Outcome.noConfusion, hclaim,
      thread_cycle (.inr ⟨p, hcycle⟩)⟩)
  · obtain ⟨s, hs, hbound, hcycle⟩ := run_ok hrun
    have hexec := exec_run_of_ok hrun
    have hclaim : (m.stepOf (.run context thread)).claimed = some thread := by
      simp [Step.claimed, hexec]
    rw [hexec]
    exact .inr (.inr ⟨by simp [hs], hbound, fun e => Outcome.noConfusion, hclaim,
      thread_cycle (.inl ⟨report, hcycle⟩)⟩)

/-- **What one call does to the binding**: exactly what the step does to `binding`. -/
theorem thread_exec (m : Manager P) (op : Op) :
    (m.exec op).1.thread = (m.stepOf op).rebind m.thread := by
  cases op
  case deinit =>
    rcases hd : m.deinit with e | m'
    · simp [exec_deinit_of_error hd, Step.rebind, Step.released, Step.claimed]
    · obtain ⟨-, -, supplies, current, rfl⟩ := deinit_eq_ok hd
      simp [exec_deinit_of_ok hd, Step.rebind, Step.released]
  case run context thread =>
    rcases exec_run_cases m context thread with ⟨-, hexec⟩ | ⟨-, -, hexec⟩ |
      ⟨-, hbound, -, hclaim, hthread⟩
    · simp [hexec, Step.rebind, Step.released, Step.claimed]
    · simp [hexec, Step.rebind, Step.released, Step.claimed]
    · -- the run passed its guards: it returned or stopped, and claims its thread
      rw [hthread, Step.rebind, Step.released_of_claimed hclaim, if_neg Bool.false_ne_true, hclaim]
      rcases hbound with hbound | hbound <;> rw [hbound] <;> rfl
  -- every other call leaves the binding, and neither releases nor runs
  case init size fill =>
    obtain ⟨supplies, ⟨-, hinit⟩ | ⟨-, -, -, -, hinit⟩⟩ := init_cases m size fill <;>
      simp [exec_init_fst, hinit, Step.rebind, Step.released, Step.claimed]
  case setAllocator supply =>
    simp [exec, thread_setAllocator, addSupply_eq, Step.rebind, Step.released, Step.claimed]
  case setSharedAllocator i =>
    simp [exec, thread_setAllocator, Step.rebind, Step.released, Step.claimed]
  case setFillLevel fill =>
    rcases hset : m.setFillLevel fill with e | m'
    · simp [exec_setFillLevel_of_error hset, Step.rebind, Step.released, Step.claimed]
    · obtain ⟨-, -, -, -, rfl⟩ := setFillLevel_eq_ok hset
      simp [exec_setFillLevel_of_ok hset, Step.rebind, Step.released, Step.claimed]
  all_goals
    rw [exec_of_bySubscriber rfl]
    simp [Step.rebind, Step.released, Step.claimed]

end Calls

/-! ### The binding along a session -/

section Sessions

variable [Producer P] {m : Manager P}

/-- Along a session from an unbound manager, the thread field is the binding the steps so far
leave. -/
theorem thread_eq_binding (hm : m.thread = none) {ops : List Op}
    {before : List (Step P)} {st : Step P} {rest : List (Step P)}
    (hsplit : m.steps ops = before ++ st :: rest) : st.pre.thread = binding before := by
  simpa using history_invariant (fun h m => m.thread = binding h)
    (fun h m op _ hthread _ => by rw [binding_append, thread_exec, hthread])
    (h := []) hm hsplit

/-- **The binding along every session** from an unbound manager (every created one).  Before
each step the manager is bound to the thread of the first run since the last successful release
that passed its guards (`binding_eq_some_iff`), and after it to the binding the step leaves; only
a successful release drops a binding.  A run on a manager without a buffer is refused as not
ready and changes nothing; on one with a buffer it is refused, as blocked, exactly when the
manager is bound to another thread, and changes nothing then; otherwise it passes its guards,
and leaves the manager bound to its thread. -/
theorem runs_bound_to_first_thread (hm : m.thread = none) {ops : List Op}
    {before : List (Step P)} {st : Step P} {rest : List (Step P)}
    (hsplit : m.steps ops = before ++ st :: rest) :
    st.pre.thread = binding before ∧ st.post.thread = binding (before ++ [st]) ∧
      (∀ t, binding before = some t → st.post.thread = some t ∨ st.released = true) ∧
      ∀ context thread, st.op = .run context thread →
        (st.pre.staging = none →
          st.outcome = .refused (.notReady .uninitialized) ∧ st.post = st.pre) ∧
        (st.pre.staging.isSome → (∃ t, binding before = some t ∧ t ≠ thread) →
          st.outcome = .refused (.operationBlocked .foreignThread) ∧ st.post = st.pre) ∧
        (st.pre.staging.isSome → (binding before = none ∨ binding before = some thread) →
          (∀ e, st.outcome ≠ .refused e) ∧ st.post.thread = some thread) := by
  have hpre := thread_eq_binding hm hsplit
  have hst := eq_stepOf_of_mem_steps (show st ∈ m.steps ops by simp [hsplit])
  have hpost : st.post.thread = binding (before ++ [st]) := by
    rw [binding_append, ← hpre, congrArg Step.post hst, stepOf_post, thread_exec, ← hst]
  refine ⟨hpre, hpost, fun t ht => ?_, fun context thread hop => ?_⟩
  · -- a binding stays unless the step releases the buffer
    rw [hpost, binding_append, ht, Step.rebind]
    cases st.released
    · exact .inl (by simp)
    · exact .inr rfl
  · rw [hop] at hst
    have hout : st.outcome = (st.pre.exec (.run context thread)).2 := congrArg Step.outcome hst
    have hpost' : st.post = (st.pre.exec (.run context thread)).1 := congrArg Step.post hst
    -- a binding to another thread is neither none nor this thread
    have hexcl : ∀ t, binding before = some t → t ≠ thread →
        ¬(binding before = none ∨ binding before = some thread) := by
      rintro t ht hne (hb | hb) <;> rw [ht] at hb <;> cases hb
      exact hne rfl
    rcases exec_run_cases st.pre context thread with ⟨hs, hexec⟩ | ⟨hs, hforeign, hexec⟩ |
      ⟨hs, hbound, hpass, -, hthread⟩
    · -- no buffer: refused as not ready, whatever the binding
      rw [hexec] at hout hpost'
      refine ⟨fun _ => ⟨hout, hpost'⟩, fun hlive => ?_, fun hlive => ?_⟩ <;> simp [hs] at hlive
    · -- bound to another thread: refused as blocked
      rw [hexec] at hout hpost'
      rw [hpre] at hforeign
      obtain ⟨t, ht, hne⟩ := hforeign
      refine ⟨fun hnone => ?_, fun _ _ => ⟨hout, hpost'⟩, fun _ hbound => ?_⟩
      · simp [hnone] at hs
      · exact absurd hbound (hexcl t ht hne)
    · -- unbound, or bound to this thread: the run passes its guards
      rw [hpre] at hbound
      refine ⟨fun hnone => ?_, fun _ hforeign => ?_, fun _ _ => ⟨?_, ?_⟩⟩
      · simp [hnone] at hs
      · obtain ⟨t, ht, hne⟩ := hforeign
        exact absurd hbound (hexcl t ht hne)
      · rw [hout]
        exact hpass
      · rw [hpost', hthread]

/-- Three threads and a release: the first run finds no buffer and binds nothing, the run from
thread 1 binds the manager, and the run from thread 2 is refused as blocked until the release
drops the binding. -/
theorem runs_bound_to_first_thread_three_threads :
    let m := withSlots ({} : Script) 4
    let ops : List Op := [.run .task 0, .init 12 4, .run .task 1]
    let before := m.steps ops
    let st := (m.after ops).stepOf (.run .task 2)
    let rest := (m.after (ops ++ [.run .task 2])).steps [.deinit, .run .task 2]
    m.thread = none ∧ m.steps (ops ++ [.run .task 2, .deinit, .run .task 2]) = before ++ st :: rest ∧
      st.pre.thread = binding before ∧ st.post.thread = binding (before ++ [st]) ∧
      (∀ t, binding before = some t → st.post.thread = some t ∨ st.released = true) ∧
      ∀ context thread, st.op = .run context thread →
        (st.pre.staging = none →
          st.outcome = .refused (.notReady .uninitialized) ∧ st.post = st.pre) ∧
        (st.pre.staging.isSome → (∃ t, binding before = some t ∧ t ≠ thread) →
          st.outcome = .refused (.operationBlocked .foreignThread) ∧ st.post = st.pre) ∧
        (st.pre.staging.isSome → (binding before = none ∨ binding before = some thread) →
          (∀ e, st.outcome ≠ .refused e) ∧ st.post.thread = some thread) := by
  intro m ops before st rest
  have hm : m.thread = none := rfl
  have hsplit : m.steps (ops ++ [.run .task 2, .deinit, .run .task 2]) = before ++ st :: rest := rfl
  exact ⟨hm, hsplit, runs_bound_to_first_thread hm hsplit⟩

end Sessions

end Manager

end RadarIngest
