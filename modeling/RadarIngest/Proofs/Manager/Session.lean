import RadarIngest.Manager.Run

/-!
**Sessions: a manager driven by a sequence of calls.**

A client drives a manager by calls: the lifecycle (`init`, `deinit`, choosing a supply), the
subscriber calls (`subscribe`, `unsubscribe`, `read`, `ack`, `isAcknowledged`, and the take a
subscriber makes of a fresh window), the fill level, and producer runs from a thread.
`RadarIngest.Manager.exec` carries out one call and returns the manager after it with what the
call returned; a failed call returns its refusal.

A run can also *stop*: a producer or a counter update that panics.  A panic unwinds through the
caller, so nothing can be called on the manager after it: a session ends at its first stop.
`RadarIngest.Manager.steps` lists the steps of a session (the state before each call, the call,
what it returned and the state after it) and `RadarIngest.Manager.after` is the state a session
leaves.

Main definitions:

* `RadarIngest.Op`, `RadarIngest.Outcome`, `RadarIngest.Manager.exec`;
* `RadarIngest.Step`, `RadarIngest.Manager.steps`, `RadarIngest.Manager.after`.

Main results:

* `RadarIngest.Manager.after_invariant`, `RadarIngest.Manager.steps_invariant` — a property of
  states that every call preserves holds all along a session;
* `RadarIngest.Manager.history_invariant` — a property of the steps so far and the current state,
  preserved by every call that returns, holds before every step of a session;
* `RadarIngest.Manager.after_invariant_of_allowed`,
  `RadarIngest.Manager.history_invariant_of_allowed`, `RadarIngest.Manager.history_after_of_allowed`
  — the same for a property that only the calls allowed from each state preserve, along a session
  of allowed calls.
-/

set_option autoImplicit false

namespace RadarIngest

/-- A call a client makes on a manager. -/
inductive Op where
  | init (size fill : Nat)
  | deinit
  /-- Hands the manager a new supply. -/
  | setAllocator (supply : Supply)
  /-- Hands the manager again a supply it was given before, by its index: a shared allocator. -/
  | setSharedAllocator (index : Nat)
  | subscribe (consumer : Consumer)
  | unsubscribe (id : Nat)
  | run (context : WakeContext) (thread : Nat)
  | read (id : Nat)
  | ack (id : Nat)
  | isAcknowledged (id : Nat)
  /-- A subscriber's take, as the runner's consumers make it under the manager's lock: unless it
  has acknowledged the current window, it reads the window and acknowledges it. -/
  | take (id : Nat)
  | setFillLevel (fill : Nat)
  deriving DecidableEq

/-- What a call returns. -/
inductive Outcome where
  /-- The call succeeded and returns nothing. -/
  | done
  /-- A subscriber id. -/
  | id (n : Nat)
  /-- The window a subscriber read or took. -/
  | window (bytes : List UInt8)
  | flag (b : Bool)
  /-- The report of a run. -/
  | ran (report : RunReport)
  | refused (e : ManagerError)
  /-- A run that panicked. -/
  | stopped (p : Panic)

namespace Op

/-- Whether a call can change the registry: subscriptions, acknowledgements, takes and runs. -/
def touchesRegistry : Op → Bool
  | .subscribe _ | .unsubscribe _ | .ack _ | .take _ | .run _ _ => true
  | _ => false

/-- Whether a call is a subscriber's own: a subscription, a read, an acknowledgement or a take. -/
def bySubscriber : Op → Bool
  | .subscribe _ | .unsubscribe _ | .read _ | .ack _ | .isAcknowledged _ | .take _ => true
  | _ => false

end Op

namespace Outcome

/-- Whether a call panicked. -/
def stops : Outcome → Bool
  | stopped _ => true
  | _ => false

end Outcome

namespace Manager

variable {P : Type} [Producer P]

/-- Carries out one call. -/
def exec (m : Manager P) : Op → Manager P × Outcome
  | .init size fill =>
    match m.init size fill with
    | (m', .ok ()) => (m', .done)
    | (m', .error e) => (m', .refused e)
  | .deinit =>
    match m.deinit with
    | .ok m' => (m', .done)
    | .error e => (m, .refused e)
  | .setAllocator supply => ((m.addSupply supply).1.setAllocator (m.addSupply supply).2, .done)
  | .setSharedAllocator i => (m.setAllocator i, .done)
  | .subscribe c =>
    match m.subscribe c with
    | .ok (m', id) => (m', .id id)
    | .error e => (m, .refused e)
  | .unsubscribe id => (m.unsubscribe id, .done)
  | .run context thread =>
    match m.run context thread with
    | (m', .ok report) => (m', .ran report)
    | (m', .error (.refused e)) => (m', .refused e)
    | (m', .error (.stopped p)) => (m', .stopped p)
  | .read id =>
    match m.readWindow id with
    | .ok w => (m, .window w)
    | .error e => (m, .refused e)
  | .ack id =>
    match m.ack id with
    | .ok m' => (m', .done)
    | .error e => (m, .refused e)
  | .isAcknowledged id => (m, .flag (m.registry.isAcknowledged id))
  | .take id =>
    if m.registry.isAcknowledged id then (m, .done)
    else
      match m.readWindow id with
      | .ok w =>
        match m.ack id with
        | .ok m' => (m', .window w)
        | .error e => (m, .refused e)
      | .error (.notReady _) => (m, .done)
      | .error e => (m, .refused e)
  | .setFillLevel fill =>
    match m.setFillLevel fill with
    | .ok m' => (m', .done)
    | .error e => (m, .refused e)

/-- The manager an `init` call leaves is the one `init` leaves, whether it was refused or not. -/
theorem exec_init_fst (m : Manager P) (size fill : Nat) :
    (m.exec (.init size fill)).1 = (m.init size fill).1 := by
  simp only [exec]
  split <;> rename_i hinit <;> rw [hinit]

end Manager

/-- One step of a session: the state before a call, the call, what it returned and the state
after it. -/
structure Step (P : Type) where
  pre : Manager P
  op : Op
  outcome : Outcome
  post : Manager P

namespace Manager

variable {P : Type} [Producer P]

/-- The step of a call from a state. -/
def stepOf (m : Manager P) (op : Op) : Step P := ⟨m, op, (m.exec op).2, (m.exec op).1⟩

/-- The steps of a session; a stop ends it. -/
def steps (m : Manager P) : List Op → List (Step P)
  | [] => []
  | op :: ops => m.stepOf op :: if (m.exec op).2.stops then [] else steps (m.exec op).1 ops

/-- The state a session leaves. -/
def after (m : Manager P) : List Op → Manager P
  | [] => m
  | op :: ops => if (m.exec op).2.stops then (m.exec op).1 else after (m.exec op).1 ops

@[simp] theorem steps_nil (m : Manager P) : m.steps [] = [] := rfl

@[simp] theorem after_nil (m : Manager P) : m.after [] = m := rfl

theorem steps_cons (m : Manager P) (op : Op) (ops : List Op) :
    m.steps (op :: ops) =
      m.stepOf op :: if (m.exec op).2.stops then [] else (m.exec op).1.steps ops := rfl

theorem after_cons (m : Manager P) (op : Op) (ops : List Op) :
    m.after (op :: ops) = if (m.exec op).2.stops then (m.exec op).1 else (m.exec op).1.after ops :=
  rfl

@[simp] theorem stepOf_pre (m : Manager P) (op : Op) : (m.stepOf op).pre = m := rfl

@[simp] theorem stepOf_op (m : Manager P) (op : Op) : (m.stepOf op).op = op := rfl

@[simp] theorem stepOf_outcome (m : Manager P) (op : Op) :
    (m.stepOf op).outcome = (m.exec op).2 := rfl

@[simp] theorem stepOf_post (m : Manager P) (op : Op) : (m.stepOf op).post = (m.exec op).1 := rfl

/-- Every step of a session is one of its calls. -/
theorem op_mem_of_mem_steps {m : Manager P} {ops : List Op} {st : Step P}
    (h : st ∈ m.steps ops) : st.op ∈ ops := by
  induction ops generalizing m with
  | nil => simp at h
  | cons op ops ih =>
      rw [steps_cons] at h
      rcases List.mem_cons.1 h with rfl | h
      · simp
      · split at h
        · simp at h
        · exact List.mem_cons_of_mem _ (ih h)

/-- Every step of a session is a call carried out from the state before it. -/
theorem eq_stepOf_of_mem_steps {m : Manager P} {ops : List Op} {st : Step P}
    (h : st ∈ m.steps ops) : st = st.pre.stepOf st.op := by
  induction ops generalizing m with
  | nil => simp at h
  | cons op ops ih =>
      rw [steps_cons] at h
      rcases List.mem_cons.1 h with rfl | h
      · rfl
      · split at h
        · simp at h
        · exact ih h

/-! ### Invariants along a session -/

/-- **A property that every call preserves holds at the end of every session.** -/
theorem after_invariant (I : Manager P → Prop) (hstep : ∀ m op, I m → I (m.exec op).1)
    {m : Manager P} (hm : I m) (ops : List Op) : I (m.after ops) := by
  induction ops generalizing m with
  | nil => exact hm
  | cons op ops ih =>
      rw [after_cons]
      split
      · exact hstep m op hm
      · exact ih (hstep m op hm)

/-- A property that every call preserves holds on both sides of every step of a session. -/
theorem steps_invariant (I : Manager P → Prop) (hstep : ∀ m op, I m → I (m.exec op).1)
    {m : Manager P} (hm : I m) {ops : List Op} {st : Step P} (hst : st ∈ m.steps ops) :
    I st.pre ∧ I st.post := by
  induction ops generalizing m with
  | nil => simp at hst
  | cons op ops ih =>
      rw [steps_cons] at hst
      rcases List.mem_cons.1 hst with rfl | hst
      · exact ⟨hm, hstep m op hm⟩
      · split at hst
        · simp at hst
        · exact ih (hstep m op hm) hst

/-- **A property of the history and the state that every returning call of a session preserves
holds before every step of that session**, with the steps before it as the history.  A call that
stops needs no care: it ends the session. -/
theorem history_invariant (I : List (Step P) → Manager P → Prop) {ops : List Op}
    (hstep : ∀ h m op, op ∈ ops → I h m → (m.exec op).2.stops = false →
      I (h ++ [m.stepOf op]) (m.exec op).1)
    {h : List (Step P)} {m : Manager P} (hm : I h m)
    {before : List (Step P)} {st : Step P} {rest : List (Step P)}
    (hsplit : m.steps ops = before ++ st :: rest) : I (h ++ before) st.pre := by
  induction ops generalizing h m before with
  | nil => simp at hsplit
  | cons op ops ih =>
      rw [steps_cons] at hsplit
      cases before with
      | nil =>
          obtain ⟨rfl, -⟩ := List.cons.inj hsplit
          simpa using hm
      | cons first before =>
          obtain ⟨rfl, hrest⟩ := List.cons.inj hsplit
          split at hrest
          · simp at hrest
          · rename_i hgo
            have hnext := hstep h m op List.mem_cons_self hm (by simpa using hgo)
            have := ih (fun h m op' hop' => hstep h m op' (List.mem_cons_of_mem _ hop')) hnext hrest
            simpa using this

/-- The same at the end of a session in which no call stopped. -/
theorem history_after (I : List (Step P) → Manager P → Prop) {ops : List Op}
    (hstep : ∀ h m op, op ∈ ops → I h m → (m.exec op).2.stops = false →
      I (h ++ [m.stepOf op]) (m.exec op).1)
    {h : List (Step P)} {m : Manager P} (hm : I h m)
    (hgo : ∀ st ∈ m.steps ops, st.outcome.stops = false) : I (h ++ m.steps ops) (m.after ops) := by
  induction ops generalizing h m with
  | nil => simpa using hm
  | cons op ops ih =>
      have hfirst : (m.exec op).2.stops = false := by
        simpa using hgo (m.stepOf op) (by simp [steps_cons])
      rw [steps_cons, after_cons, if_neg (by simp [hfirst]), if_neg (by simp [hfirst])]
      have hnext := hstep h m op List.mem_cons_self hm hfirst
      have := ih (fun h m op' hop' => hstep h m op' (List.mem_cons_of_mem _ hop')) hnext
        (fun st hst => hgo st (by rw [steps_cons, if_neg (by simp [hfirst])]; simp [hst]))
      simpa using this

/-! ### Invariants of sessions whose calls are allowed

Some properties survive every call but one kind, made from some states: a fill level raised past
the buffered bytes, a supply handed over that is not fresh.  Each is kept along a session whose
calls are all *allowed*, each judged from the state it is made in. -/

/-- **A property that every allowed call preserves holds at the end of every session whose calls
are all allowed.** -/
theorem after_invariant_of_allowed (I : Manager P → Prop) (allowed : Manager P → Op → Prop)
    (hstep : ∀ m op, allowed m op → I m → I (m.exec op).1) {m : Manager P} (hm : I m)
    {ops : List Op} (hallowed : ∀ st ∈ m.steps ops, allowed st.pre st.op) : I (m.after ops) := by
  induction ops generalizing m with
  | nil => exact hm
  | cons op ops ih =>
      have hfirst : allowed m op := hallowed (m.stepOf op) (by simp [steps_cons])
      rw [after_cons]
      split
      · exact hstep m op hfirst hm
      · rename_i hgo
        refine ih (hstep m op hfirst hm) fun st hst => hallowed st ?_
        rw [steps_cons, if_neg hgo]
        exact List.mem_cons_of_mem _ hst

/-- **A property of the history and the state that every allowed returning call preserves holds
before every step of a session whose calls are all allowed.** -/
theorem history_invariant_of_allowed (I : List (Step P) → Manager P → Prop)
    (allowed : Manager P → Op → Prop)
    (hstep : ∀ h m op, allowed m op → I h m → (m.exec op).2.stops = false →
      I (h ++ [m.stepOf op]) (m.exec op).1)
    {h : List (Step P)} {m : Manager P} (hm : I h m) {ops : List Op}
    (hallowed : ∀ st ∈ m.steps ops, allowed st.pre st.op)
    {before : List (Step P)} {st : Step P} {rest : List (Step P)}
    (hsplit : m.steps ops = before ++ st :: rest) : I (h ++ before) st.pre := by
  induction ops generalizing h m before with
  | nil => simp at hsplit
  | cons op ops ih =>
      have hfirst : allowed m op := hallowed (m.stepOf op) (by simp [steps_cons])
      rw [steps_cons] at hsplit hallowed
      cases before with
      | nil =>
          obtain ⟨rfl, -⟩ := List.cons.inj hsplit
          simpa using hm
      | cons first before =>
          obtain ⟨rfl, hrest⟩ := List.cons.inj hsplit
          split at hrest
          · simp at hrest
          · rename_i hgo
            rw [if_neg hgo] at hallowed
            have hnext := hstep h m op hfirst hm (by simpa using hgo)
            have := ih hnext (fun st hst => hallowed st (List.mem_cons_of_mem _ hst)) hrest
            simpa using this

/-- The same at the end of a session whose calls are all allowed and none of which stopped. -/
theorem history_after_of_allowed (I : List (Step P) → Manager P → Prop)
    (allowed : Manager P → Op → Prop)
    (hstep : ∀ h m op, allowed m op → I h m → (m.exec op).2.stops = false →
      I (h ++ [m.stepOf op]) (m.exec op).1)
    {h : List (Step P)} {m : Manager P} (hm : I h m) {ops : List Op}
    (hallowed : ∀ st ∈ m.steps ops, allowed st.pre st.op)
    (hgo : ∀ st ∈ m.steps ops, st.outcome.stops = false) : I (h ++ m.steps ops) (m.after ops) := by
  induction ops generalizing h m with
  | nil => simpa using hm
  | cons op ops ih =>
      have hfirst : (m.exec op).2.stops = false := by
        simpa using hgo (m.stepOf op) (by simp [steps_cons])
      have hallow : allowed m op := hallowed (m.stepOf op) (by simp [steps_cons])
      rw [steps_cons, if_neg (by simp [hfirst])] at hallowed hgo
      rw [steps_cons, after_cons, if_neg (by simp [hfirst]), if_neg (by simp [hfirst])]
      have hnext := hstep h m op hallow hm hfirst
      have := ih hnext (fun st hst => hallowed st (List.mem_cons_of_mem _ hst))
        (fun st hst => hgo st (List.mem_cons_of_mem _ hst))
      simpa using this

end Manager

end RadarIngest
