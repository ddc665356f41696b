import RadarIngest.Proofs.Manager.Consistency
import RadarIngest.Source.Script

/-!
**Where staging buffers come from, and where they go back.**

A manager draws each staging buffer from its *current* supply.  A supply handed over while a
buffer is live waits as the *pending* one and becomes current only when that buffer is released.
So a buffer always goes back to the supply it came from, and the next one comes from the supply
handed over last.

This module follows the supplies along a session.  `RadarIngest.Manager.lastHanded` is the
supply handed over last (the heap, index zero, when none was) and
`RadarIngest.Manager.lastDrawn` the one the last successful `init` drew from.  When every supply
handed over is a fresh budgeted supply, or one handed over before, each budgeted supply counts as
in use the bytes of the live buffer if that buffer came from it, and nothing otherwise; and a
supply takes a buffer back only at the release that ends that buffer's life, once.

Main definitions:

* `RadarIngest.SupplyKind.exact` — a supply that hands out blocks of the length asked for;
* `RadarIngest.Supply.fresh` — a budgeted supply that has handed out nothing yet;
* `RadarIngest.Step.handed`, `RadarIngest.Step.drawn`, `RadarIngest.Step.released` — what a
  step did with the supplies;
* `RadarIngest.Manager.lastHanded`, `RadarIngest.Manager.lastDrawn`;
* `RadarIngest.Manager.handsFresh` — the supplies a session may hand over;
* `RadarIngest.Manager.Routed` — the invariant of the supplies.

Main results:

* `RadarIngest.Manager.init_eq_cases`, `RadarIngest.Manager.deinit_supplies` — what `init` and
  `deinit` do to the supplies;
* `RadarIngest.Manager.Routed.step` — every call that returns keeps the supplies routed;
* `RadarIngest.Manager.releases_exec` — a supply takes a buffer back only at a release, from the
  supply the buffer came from;
* `RadarIngest.Manager.supplies_follow_handovers` — **routing and accounting of supplies along
  every session**.
-/

set_option autoImplicit false

namespace RadarIngest

/-! ### Supplies -/

namespace SupplyKind

/-- Whether a supply of this kind hands out blocks of exactly the length asked for: every kind but
a fixed supply, which ignores the length. -/
def exact : SupplyKind → Bool
  | .fixed _ _ => false
  | _ => true

end SupplyKind

namespace Supply

/-- Whether a supply is budgeted and has handed out nothing yet, as a new bounded allocator. -/
def fresh (s : Supply) : Bool :=
  match s.kind with
  | .budgeted budget _ => s == budgeted budget
  | _ => false

theorem eq_budgeted_of_fresh {s : Supply} (h : s.fresh = true) : ∃ budget, s = budgeted budget := by
  unfold fresh at h
  split at h
  · rename_i budget _ _
    exact ⟨budget, beq_iff_eq.1 h⟩
  · cases h

/-- A refusal leaves the kind of supply as it was. -/
theorem grant_of_error {k : SupplyKind} {size : Nat} {e : ManagerError}
    (h : (grant k size).2 = .error e) : (grant k size).1 = k := by
  cases k with
  | heap =>
      simp only [grant]
      split <;> rfl
  | budgeted budget inUse =>
      simp only [grant] at h ⊢
      by_cases hfit : budget - inUse < size ∨ heapLimit ≤ size
      · rw [if_pos hfit]
      · rw [if_neg hfit] at h
        cases h
  | fixed length fill => rfl

/-- A supply of an exact kind hands out blocks of the length asked for. -/
theorem length_of_grant {k : SupplyKind} (hk : k.exact = true) {size : Nat} {block : List UInt8}
    (h : (grant k size).2 = .ok block) : block.length = size := by
  cases k with
  | heap =>
      simp only [grant] at h
      split at h
      · cases h
        simp
      · cases h
  | budgeted budget inUse =>
      simp only [grant] at h
      split at h
      · cases h
      · cases h
        simp
  | fixed length fill => cases hk

/-- A budgeted supply that grants a block counts it as in use. -/
theorem grant_budgeted_of_ok {budget inUse size : Nat} {block : List UInt8}
    (h : (grant (.budgeted budget inUse) size).2 = .ok block) :
    (grant (.budgeted budget inUse) size).1 = .budgeted budget (inUse + size) := by
  simp only [grant] at h ⊢
  split at h
  · cases h
  · rename_i hfit
    rw [if_neg hfit]

@[simp] theorem exact_grant (k : SupplyKind) (size : Nat) : (grant k size).1.exact = k.exact := by
  cases k with
  | heap =>
      simp only [grant]
      split <;> rfl
  | budgeted budget inUse =>
      simp only [grant]
      split <;> rfl
  | fixed length fill => rfl

theorem grant_heap (size : Nat) : (grant .heap size).1 = .heap := by
  simp only [grant]
  split <;> rfl

@[simp] theorem kind_allocate (s : Supply) (size : Nat) :
    (s.allocate size).1.kind = (grant s.kind size).1 := rfl

@[simp] theorem result_allocate (s : Supply) (size : Nat) :
    (s.allocate size).2 = (grant s.kind size).2 := rfl

/-- Asking for a block gives nothing back. -/
@[simp] theorem releases_allocate (s : Supply) (size : Nat) :
    (s.allocate size).1.account.releases = s.account.releases := by
  unfold allocate
  split
  split <;> rfl

@[simp] theorem releases_release (s : Supply) (block : List UInt8) :
    (s.release block).account.releases = s.account.releases + 1 := rfl

@[simp] theorem exact_release (s : Supply) (block : List UInt8) :
    (s.release block).kind.exact = s.kind.exact := by
  cases hk : s.kind <;> simp [release, hk, SupplyKind.exact]

theorem release_of_heap {s : Supply} (h : s.kind = .heap) (block : List UInt8) :
    (s.release block).kind = .heap := by
  simp [release, h]

/-- Taking a block back lowers the bytes in use by its length, stopping at zero. -/
theorem inUse?_release (s : Supply) (block : List UInt8) :
    (s.release block).inUse? = s.inUse?.map (· - block.length) := by
  cases hk : s.kind <;> simp [release, inUse?, hk]

/-- The bytes in use are a matter of the kind. -/
theorem inUse?_of_kind {s t : Supply} (h : s.kind = t.kind) : s.inUse? = t.inUse? := by
  simp [inUse?, h]

/-- A refused request leaves the bytes in use as they were. -/
theorem inUse?_allocate_of_error {s : Supply} {size : Nat} {e : ManagerError}
    (h : (s.allocate size).2 = .error e) : (s.allocate size).1.inUse? = s.inUse? :=
  inUse?_of_kind (grant_of_error h)

/-- A granted request adds the block's bytes to those in use, for a budgeted supply. -/
theorem inUse?_allocate_of_ok {s : Supply} {size : Nat} {block : List UInt8}
    (h : (s.allocate size).2 = .ok block) :
    (s.allocate size).1.inUse? = s.inUse?.map (· + size) := by
  simp only [result_allocate] at h
  cases hk : s.kind with
  | heap => simp [inUse?, hk, grant_heap]
  | budgeted budget inUse =>
      rw [hk] at h
      simp [inUse?, hk, grant_budgeted_of_ok h]
  | fixed length fill => simp [inUse?, hk, grant]

end Supply

/-! ### The supplies of a manager -/

namespace Manager

variable {P : Type}

/-- Replacing one supply leaves every other as it was. -/
theorem supply_of_set {m m' : Manager P} {i : Nat} {s : Supply}
    (h : m'.supplies = m.supplies.set i s) (j : Nat) :
    m'.supply j = if i = j ∧ i < m.supplies.length then s else m.supply j := by
  simp only [supply, h, List.getD_eq_getElem?_getD, List.getElem?_set]
  by_cases hij : i = j
  · subst hij
    by_cases hi : i < m.supplies.length
    · simp [hi]
    · simp [hi]
  · simp [hij]

/-- A supply added to the list takes the next index. -/
theorem supply_of_append {m m' : Manager P} {s : Supply} (h : m'.supplies = m.supplies ++ [s])
    (j : Nat) : m'.supply j = if j = m.supplies.length then s else m.supply j := by
  simp only [supply, h, List.getD_eq_getElem?_getD]
  by_cases hj : j < m.supplies.length
  · rw [if_neg (Nat.ne_of_lt hj), List.getElem?_append_left hj]
  · rw [List.getElem?_append_right (Nat.le_of_not_lt hj), List.getElem?_eq_none (Nat.le_of_not_lt hj)]
    by_cases hlen : j = m.supplies.length
    · simp [hlen]
    · rw [if_neg hlen, List.getElem?_eq_none (by simp; omega)]

theorem supply_of_supplies {m m' : Manager P} (h : m'.supplies = m.supplies) (j : Nat) :
    m'.supply j = m.supply j := by
  simp [supply, h]

/-- **What `init` does**, supplies included.  It refuses at once, changing nothing, when a buffer
is live or the sizes are not `0 < fill ≤ size`.  Otherwise it asks the current supply for `size`
bytes and keeps the supply as the request left it: a refusal of the supply is passed on; a block
of the wrong length is given straight back, and refused; a block of the right length is installed,
zeroed, with the fill level. -/
theorem init_eq_cases (m : Manager P) (size fill : Nat) :
    ((m.staging.isSome ∨ ¬(0 < fill ∧ fill ≤ size)) ∧ ∃ e, m.init size fill = (m, .error e)) ∨
    (m.staging = none ∧ 0 < fill ∧ fill ≤ size ∧
      ∃ s' r, (m.supply m.current).allocate size = (s', r) ∧
        ((∃ e, r = .error e ∧
            m.init size fill = ({ m with supplies := m.supplies.set m.current s' }, .error e)) ∨
          (∃ block, r = .ok block ∧ block.length ≠ size ∧
            m.init size fill =
              ({ m with supplies := m.supplies.set m.current (s'.release block) },
                .error (.allocationFailed size))) ∨
          (∃ block, r = .ok block ∧ block.length = size ∧
            m.init size fill =
              ({ m with
                  supplies := m.supplies.set m.current s'
                  staging := some (Staging.ofBytes (List.replicate size 0))
                  fillLevel := fill
                  notified := false }, .ok ())))) := by
  unfold init
  split
  · exact .inl ⟨.inl ‹_›, _, rfl⟩
  · split
    · rename_i hsizes
      exact .inl ⟨.inr (by omega), _, rfl⟩
    · rename_i hstaging hsizes
      refine .inr ⟨by simpa using hstaging, by omega, by omega, ?_⟩
      split
      rename_i s' r hsr
      refine ⟨s', r, hsr, ?_⟩
      split
      · exact .inl ⟨_, rfl, rfl⟩
      · split
        · exact .inr (.inl ⟨_, rfl, ‹_›, rfl⟩)
        · rename_i hlen
          exact .inr (.inr ⟨_, rfl, Decidable.of_not_not hlen, rfl⟩)

/-- **A release that succeeds** gives the buffer back to the current supply and makes the pending
supply, if there is one, current. -/
theorem deinit_supplies {m m' : Manager P} (h : m.deinit = .ok m') :
    ∃ s, m.staging = some s ∧
      m'.supplies = m.supplies.set m.current ((m.supply m.current).release s.bytes) ∧
      m'.current = m.pending.getD m.current ∧ m'.pending = none := by
  unfold deinit at h
  split at h
  · cases h
  · split at h
    · cases h
    · rename_i s hs
      dsimp only at h
      split at h <;>
      · rename_i hp
        cases h
        simp only [putSupply] at hp
        exact ⟨s, hs, rfl, by simp [putSupply, hp], rfl⟩

theorem capacity_state {m : Manager P} {s : Staging} (hs : m.staging = some s) :
    m.state.capacity = s.capacity := by
  simp [state, hs]

end Manager

/-! ### What a step does with the supplies -/

namespace Step

variable {P : Type}

/-- The index of the supply a step handed over: a new supply takes the next index. -/
def handed (st : Step P) : Option Nat :=
  match st.op with
  | .setAllocator _ => some st.pre.supplies.length
  | .setSharedAllocator i => some i
  | _ => none

/-- The supply a successful `init` drew its buffer from. -/
def drawn (st : Step P) : Option Nat :=
  match st.op, st.outcome with
  | .init _ _, .done => some st.pre.current
  | _, _ => none

/-- Whether a step gave the buffer back: a successful release. -/
def released (st : Step P) : Bool :=
  match st.op, st.outcome with
  | .deinit, .done => true
  | _, _ => false

end Step

namespace Manager

variable {P : Type}

/-- The supply handed over last along the steps `h`: the heap, index zero, when none was. -/
def lastHanded (h : List (Step P)) : Nat := h.foldl (fun i st => st.handed.getD i) 0

/-- The supply the last successful `init` along the steps `h` drew from: the heap when none did. -/
def lastDrawn (h : List (Step P)) : Nat := h.foldl (fun i st => st.drawn.getD i) 0

@[simp] theorem lastHanded_nil : lastHanded ([] : List (Step P)) = 0 := rfl

@[simp] theorem lastDrawn_nil : lastDrawn ([] : List (Step P)) = 0 := rfl

@[simp] theorem lastHanded_append (h : List (Step P)) (st : Step P) :
    lastHanded (h ++ [st]) = st.handed.getD (lastHanded h) := by
  simp [lastHanded]

@[simp] theorem lastDrawn_append (h : List (Step P)) (st : Step P) :
    lastDrawn (h ++ [st]) = st.drawn.getD (lastDrawn h) := by
  simp [lastDrawn]

/-- Whether a call hands over only what a session of bounded supplies may: a fresh budgeted
supply, or a supply handed over before, by its index (the heap, index zero, excepted). -/
def handsFresh (m : Manager P) : Op → Bool
  | .setAllocator s => s.fresh
  | .setSharedAllocator i => 0 < i && i < m.supplies.length
  | _ => true

/-! ### The invariant -/

/-- **The supplies follow the handovers** after the steps `h`: the next buffer comes from the
supply handed over last, the live one came from the current supply, and every budgeted supply
counts exactly the live buffer as in use if it came from it. -/
structure Routed (h : List (Step P)) (m : Manager P) : Prop where
  consistent : m.Consistent
  /-- The supply with index zero is the heap. -/
  heap : (m.supply 0).kind = .heap
  /-- Every supply hands out blocks of the length asked for. -/
  exact : ∀ j, (m.supply j).kind.exact = true
  /-- The current and the pending supply are supplies the manager has. -/
  current_lt : m.current < m.supplies.length
  pending_lt : ∀ i, m.pending = some i → i < m.supplies.length
  /-- The next buffer comes from the supply handed over last. -/
  next : m.pending.getD m.current = lastHanded h
  /-- The live buffer came from the current supply, which the last successful `init` drew from. -/
  origin : m.staging.isSome → m.current = lastDrawn h
  /-- A budgeted supply counts the live buffer as in use if it came from it, and nothing else. -/
  inUse : ∀ j u, (m.supply j).inUse? = some u →
    u = if m.staging.isSome ∧ j = m.current then m.state.capacity else 0

namespace Routed

variable {h : List (Step P)} {m : Manager P}

/-- A manager just created, with no buffer and the heap as its only supply, starts a session. -/
theorem withSlots (p : P) (n : Nat) : Routed [] (Manager.withSlots p n) where
  consistent := Consistent.withSlots p n
  heap := rfl
  exact := fun j => by
    cases j with
    | zero => rfl
    | succ j => rfl
  current_lt := by simp [Manager.withSlots]
  pending_lt := fun _ hp => by cases hp
  next := rfl
  origin := fun hs => by cases hs
  inUse := fun j u hu => by
    cases j with
    | zero => cases hu
    | succ j => cases hu

/-- Without a buffer the next buffer comes from the current supply, the one handed over last. -/
theorem current_of_idle (hr : Routed h m) (hs : m.staging = none) : m.current = lastHanded h := by
  rw [← hr.next, (hr.consistent.idle hs).2.2.2.2]
  rfl

/-- Without a buffer no budgeted supply counts a byte in use. -/
theorem inUse_of_idle (hr : Routed h m) (hs : m.staging = none) {j u : Nat}
    (hu : (m.supply j).inUse? = some u) : u = 0 := by
  simpa [hs] using hr.inUse j u hu

/-- A step that hands over nothing, draws nothing, and keeps the kind of every supply, the current
and pending supply and the size of the live buffer keeps the supplies routed. -/
theorem of_frame (hr : Routed h m) {st : Step P} {m' : Manager P} (hc : m'.Consistent)
    (hkind : ∀ j, (m'.supply j).kind = (m.supply j).kind)
    (hlen : m'.supplies.length = m.supplies.length) (hcur : m'.current = m.current)
    (hpen : m'.pending = m.pending) (hlive : m'.staging.isSome = m.staging.isSome)
    (hcap : m'.state.capacity = m.state.capacity) (hhand : st.handed = none)
    (hdrawn : st.drawn = none) : Routed (h ++ [st]) m' where
  consistent := hc
  heap := by rw [hkind]; exact hr.heap
  exact := fun j => by rw [hkind]; exact hr.exact j
  current_lt := by rw [hcur, hlen]; exact hr.current_lt
  pending_lt := fun i hi => by rw [hlen]; exact hr.pending_lt i (hpen ▸ hi)
  next := by rw [hcur, hpen, lastHanded_append, hhand]; exact hr.next
  origin := fun hs => by
    rw [hcur, lastDrawn_append, hdrawn]
    exact hr.origin (hlive ▸ hs)
  inUse := fun j u hu => by
    rw [hlive, hcur, hcap]
    exact hr.inUse j u (Supply.inUse?_of_kind (hkind j) ▸ hu)

/-- A step that keeps the supplies themselves: the same, with the supplies as they were. -/
theorem of_supplies_eq (hr : Routed h m) {st : Step P} {m' : Manager P} (hc : m'.Consistent)
    (hsup : m'.supplies = m.supplies) (hcur : m'.current = m.current)
    (hpen : m'.pending = m.pending) (hlive : m'.staging.isSome = m.staging.isSome)
    (hcap : m'.state.capacity = m.state.capacity) (hhand : st.handed = none)
    (hdrawn : st.drawn = none) : Routed (h ++ [st]) m' :=
  hr.of_frame hc (fun j => by rw [supply_of_supplies hsup]) (by rw [hsup]) hcur hpen hlive hcap
    hhand hdrawn

/-! #### One lemma per call -/

variable [Producer P]

theorem init (hr : Routed h m) (size fill : Nat) :
    Routed (h ++ [m.stepOf (.init size fill)]) (m.exec (.init size fill)).1 := by
  have hc := hr.consistent.exec (.init size fill)
  have hhand : (m.stepOf (.init size fill)).handed = none := rfl
  rcases init_eq_cases m size fill with ⟨-, e, hinit⟩ |
    ⟨hnone, -, -, s', r, halloc, ⟨e, rfl, hinit⟩ | ⟨block, rfl, hlen, -⟩ | ⟨block, rfl, -, hinit⟩⟩
  · -- refused before asking: nothing changes
    have hexec : m.exec (.init size fill) = (m, .refused e) := by simp [exec, hinit]
    rw [hexec] at hc ⊢
    exact hr.of_supplies_eq hc rfl rfl rfl rfl rfl hhand (by simp [Step.drawn, stepOf, hexec])
  · -- the supply refused, keeping its kind
    have hexec : m.exec (.init size fill) =
        ({ m with supplies := m.supplies.set m.current s' }, .refused e) := by simp [exec, hinit]
    have hkind : s'.kind = (m.supply m.current).kind := by
      have hgrant := Supply.grant_of_error
        (show ((m.supply m.current).allocate size).2 = .error e by rw [halloc])
      rw [← hgrant, ← Supply.kind_allocate, halloc]
    rw [hexec] at hc ⊢
    refine hr.of_frame hc (fun j => ?_) (by simp) rfl rfl rfl rfl hhand
      (by simp [Step.drawn, stepOf, hexec])
    rw [supply_of_set rfl]
    split
    · rename_i hj
      rw [hkind, hj.1]
    · rfl
  · -- a block of the wrong length never comes from a supply of an exact kind
    have hres : ((m.supply m.current).allocate size).2 = .ok block := by rw [halloc]
    exact absurd (Supply.length_of_grant (hr.exact m.current) hres) hlen
  · -- a block of the right length: the supply counts it, and the buffer it makes is live
    have hexec : m.exec (.init size fill) =
        ({ m with
            supplies := m.supplies.set m.current s'
            staging := some (Staging.ofBytes (List.replicate size 0))
            fillLevel := fill
            notified := false }, .done) := by simp [exec, hinit]
    have hres : ((m.supply m.current).allocate size).2 = .ok block := by rw [halloc]
    have hkind : s'.kind = (Supply.grant (m.supply m.current).kind size).1 := by
      rw [← Supply.kind_allocate, halloc]
    have hpending := (hr.consistent.idle hnone).2.2.2.2
    rw [hexec] at hc ⊢
    have hsupply : ∀ j, ({ m with
        supplies := m.supplies.set m.current s'
        staging := some (Staging.ofBytes (List.replicate size 0))
        fillLevel := fill
        notified := false } : Manager P).supply j =
        if m.current = j ∧ m.current < m.supplies.length then s' else m.supply j :=
      supply_of_set rfl
    refine ⟨hc, ?_, fun j => ?_, by simpa using hr.current_lt, by simp [hpending], ?_,
      fun _ => by simp [Step.drawn, stepOf, hexec], fun j u hu => ?_⟩
    · rw [hsupply]
      split
      · rename_i hj
        rw [hkind, hj.1, hr.heap, Supply.grant_heap]
      · exact hr.heap
    · rw [hsupply]
      split
      · rw [hkind, Supply.exact_grant]
        exact hr.exact m.current
      · exact hr.exact j
    · simp only [hpending, Option.getD_none, lastHanded_append]
      exact hr.current_of_idle hnone
    · -- only the supply asked counts a byte, and it counts the whole new buffer
      rw [hsupply] at hu
      simp only [Option.isSome_some, true_and]
      split at hu
      · rename_i hj
        rw [if_pos hj.1.symm, capacity_state rfl]
        have hgrant := Supply.inUse?_allocate_of_ok hres
        rw [halloc] at hgrant
        rw [hgrant] at hu
        obtain ⟨u₀, hu₀, rfl⟩ := Option.map_eq_some_iff.1 hu
        rw [hr.inUse_of_idle hnone hu₀]
        simp [Staging.capacity, Staging.ofBytes]
      · rename_i hj
        have hne : j ≠ m.current := fun hjc => hj ⟨hjc.symm, hr.current_lt⟩
        rw [if_neg hne]
        exact hr.inUse_of_idle hnone hu

theorem deinit (hr : Routed h m) : Routed (h ++ [m.stepOf .deinit]) (m.exec .deinit).1 := by
  have hc := hr.consistent.exec .deinit
  have hhand : (m.stepOf .deinit).handed = none := rfl
  have hdrawn : (m.stepOf .deinit).drawn = none := rfl
  rcases hd : m.deinit with e | m'
  · have hexec := exec_deinit_of_error hd
    rw [hexec] at hc ⊢
    exact hr.of_supplies_eq hc rfl rfl rfl rfl rfl hhand hdrawn
  · have hexec := exec_deinit_of_ok hd
    rw [hexec] at hc ⊢
    obtain ⟨-, -, supplies, current, rfl⟩ := deinit_eq_ok hd
    obtain ⟨s, hs, hsup, hcur, -⟩ := deinit_supplies hd
    simp only at hsup hcur
    subst hsup hcur
    have hsupply : ∀ j, ({ m with
        supplies := m.supplies.set m.current ((m.supply m.current).release s.bytes)
        current := m.pending.getD m.current
        pending := none
        staging := none
        fillLevel := 0
        notified := false
        thread := none } : Manager P).supply j =
        if m.current = j ∧ m.current < m.supplies.length then
          (m.supply m.current).release s.bytes
        else m.supply j :=
      supply_of_set rfl
    refine ⟨hc, ?_, fun j => ?_, ?_, fun _ hi => (by cases hi), ?_, fun hlive => (by cases hlive),
      fun j u hu => ?_⟩
    · rw [hsupply]
      split
      · rename_i hj
        exact Supply.release_of_heap (hj.1 ▸ hr.heap) _
      · exact hr.heap
    · rw [hsupply]
      split
      · rw [Supply.exact_release]
        exact hr.exact m.current
      · exact hr.exact j
    · -- the pending supply, if any, becomes current
      cases hp : m.pending with
      | none => simpa using hr.current_lt
      | some i => simpa using hr.pending_lt i hp
    · simpa [hhand] using hr.next
    · -- the supply the buffer came from takes it back and counts nothing more
      simp only [Option.isSome_none, Bool.false_eq_true, false_and, if_false]
      rw [hsupply] at hu
      split at hu
      · rename_i hj
        rw [Supply.inUse?_release] at hu
        obtain ⟨u₀, hu₀, rfl⟩ := Option.map_eq_some_iff.1 hu
        have hcount := hr.inUse m.current u₀ hu₀
        rw [if_pos ⟨by simp [hs], rfl⟩, capacity_state hs] at hcount
        simp [hcount, Staging.capacity]
      · rename_i hj
        have hne : j ≠ m.current := fun hjc => hj ⟨hjc.symm, hr.current_lt⟩
        simpa [hne] using hr.inUse j u hu

/-- Handing over a supply: while a buffer is live it waits as the pending supply, otherwise it
becomes current at once. -/
theorem setSharedAllocator (hr : Routed h m) {i : Nat} (hi : i < m.supplies.length) :
    Routed (h ++ [m.stepOf (.setSharedAllocator i)]) (m.exec (.setSharedAllocator i)).1 := by
  have hc := hr.consistent.exec (.setSharedAllocator i)
  have hhand : (m.stepOf (.setSharedAllocator i)).handed = some i := rfl
  have hdrawn : (m.stepOf (.setSharedAllocator i)).drawn = none := rfl
  have hpost : (m.exec (.setSharedAllocator i)).1 = m.setAllocator i := rfl
  rw [hpost, setAllocator_eq] at hc ⊢
  by_cases hlive : m.staging.isSome
  · rw [if_pos hlive] at hc ⊢
    refine ⟨hc, hr.heap, hr.exact, hr.current_lt, fun j hj => ?_, by simp [hhand],
      fun _ => by simpa [hdrawn] using hr.origin hlive, hr.inUse⟩
    cases hj
    exact hi
  · rw [if_neg hlive] at hc ⊢
    have hnone : m.staging = none := by simpa using hlive
    have hpending := (hr.consistent.idle hnone).2.2.2.2
    refine ⟨hc, hr.heap, hr.exact, hi, fun j hj => ?_, by simp [hhand, hpending],
      fun hs => absurd hs hlive, fun j u hu => ?_⟩
    · simp [hpending] at hj
    · show u = if m.staging.isSome ∧ j = i then m.state.capacity else 0
      simpa [hlive] using hr.inUse_of_idle hnone hu

/-- Handing over a fresh budgeted supply: it takes the next index and counts nothing in use; while
a buffer is live it waits as the pending supply, otherwise it becomes current at once. -/
theorem setAllocator (hr : Routed h m) {budget : Nat} :
    Routed (h ++ [m.stepOf (.setAllocator (Supply.budgeted budget))])
      (m.exec (.setAllocator (Supply.budgeted budget))).1 := by
  have hc := hr.consistent.exec (.setAllocator (Supply.budgeted budget))
  have hhand : (m.stepOf (.setAllocator (Supply.budgeted budget))).handed =
      some m.supplies.length := rfl
  have hdrawn : (m.stepOf (.setAllocator (Supply.budgeted budget))).drawn = none := rfl
  -- the supply with every old index is as it was, and the new one is fresh
  have hsupply : ∀ j, (m.addSupply (Supply.budgeted budget)).1.supply j =
      if j = m.supplies.length then Supply.budgeted budget else m.supply j :=
    supply_of_append rfl
  have hpos : 0 ≠ m.supplies.length :=
    Nat.ne_of_lt (Nat.lt_of_le_of_lt (Nat.zero_le _) hr.current_lt)
  have hheap : ((m.addSupply (Supply.budgeted budget)).1.supply 0).kind = .heap := by
    rw [hsupply, if_neg hpos]
    exact hr.heap
  have hexact : ∀ j, ((m.addSupply (Supply.budgeted budget)).1.supply j).kind.exact = true := by
    intro j
    rw [hsupply]
    split
    · rfl
    · exact hr.exact j
  have hlen : (m.addSupply (Supply.budgeted budget)).1.supplies.length = m.supplies.length + 1 := by
    simp [addSupply_eq]
  have hpost : (m.exec (.setAllocator (Supply.budgeted budget))).1 =
      (m.addSupply (Supply.budgeted budget)).1.setAllocator m.supplies.length := rfl
  rw [hpost, setAllocator_eq] at hc ⊢
  -- adding a supply leaves the buffer as it was
  by_cases hlive : (m.addSupply (Supply.budgeted budget)).1.staging.isSome
  · rw [if_pos hlive] at hc ⊢
    replace hlive : m.staging.isSome = true := hlive
    refine ⟨hc, hheap, hexact, ?_, fun j hj => ?_, by simp [hhand, addSupply],
      fun _ => by simpa [hdrawn, addSupply] using hr.origin hlive, fun j u hu => ?_⟩
    · simp only [hlen]
      exact Nat.lt_succ_of_lt hr.current_lt
    · cases hj
      simp [addSupply]
    · -- the new supply is not the one the live buffer came from
      show u = if m.staging.isSome ∧ j = m.current then m.state.capacity else 0
      have hu' : ((m.addSupply (Supply.budgeted budget)).1.supply j).inUse? = some u := hu
      rw [hsupply] at hu'
      split at hu'
      · rename_i hj
        cases hu'
        have hne : j ≠ m.current := by rw [hj]; exact Nat.ne_of_gt hr.current_lt
        simp [hne]
      · exact hr.inUse j u hu'
  · rw [if_neg hlive] at hc ⊢
    replace hlive : ¬m.staging.isSome = true := hlive
    have hnone : m.staging = none := by simpa using hlive
    have hpending := (hr.consistent.idle hnone).2.2.2.2
    refine ⟨hc, hheap, hexact, by simp [addSupply], fun j hj => ?_,
      by simp [hhand, addSupply, hpending], fun hs => absurd hs hlive, fun j u hu => ?_⟩
    · simp [addSupply, hpending] at hj
    · show u = if m.staging.isSome ∧ j = m.supplies.length then m.state.capacity else 0
      have hu' : ((m.addSupply (Supply.budgeted budget)).1.supply j).inUse? = some u := hu
      rw [hsupply] at hu'
      split at hu'
      · cases hu'
        simp [hlive]
      · simpa [hlive] using hr.inUse_of_idle hnone hu'

theorem run (hr : Routed h m) (context : WakeContext) (thread : Nat) :
    Routed (h ++ [m.stepOf (.run context thread)]) (m.exec (.run context thread)).1 := by
  have hc := hr.consistent.exec (.run context thread)
  rw [exec_run_fst] at hc ⊢
  have hlive := hr.consistent.live
  rcases run_frame (fun s hs => hlive.head_eq_zero hs) (fun s hs => hlive.capacity_pos hs) context
    thread with hsame | ⟨s, s', q, reg, b, r, hs, ⟨hcap, -⟩, -, -, -, heq⟩
  · rw [hsame] at hc ⊢
    exact hr.of_supplies_eq hc rfl rfl rfl rfl rfl rfl rfl
  · rw [heq] at hc ⊢
    exact hr.of_supplies_eq hc rfl rfl rfl (by simp [hs])
      (by rw [capacity_state rfl, capacity_state hs, hcap]) rfl rfl

/-- **Every call keeps the supplies routed**, as long as it hands over only a fresh budgeted
supply or one handed over before. -/
theorem step (hr : Routed h m) {op : Op} (hfresh : m.handsFresh op = true) :
    Routed (h ++ [m.stepOf op]) (m.exec op).1 := by
  have hc := hr.consistent.exec op
  cases op with
  | init size fill => exact hr.init size fill
  | deinit => exact hr.deinit
  | setAllocator s =>
      obtain ⟨budget, rfl⟩ := Supply.eq_budgeted_of_fresh hfresh
      exact hr.setAllocator
  | setSharedAllocator i =>
      simp only [handsFresh, Bool.and_eq_true, decide_eq_true_eq] at hfresh
      exact hr.setSharedAllocator hfresh.2
  | run context thread => exact hr.run context thread
  | setFillLevel fill =>
      rcases hset : m.setFillLevel fill with e | m'
      · have hexec := exec_setFillLevel_of_error hset
        rw [hexec] at hc ⊢
        exact hr.of_supplies_eq hc rfl rfl rfl rfl rfl rfl rfl
      · have hexec := exec_setFillLevel_of_ok hset
        rw [hexec] at hc ⊢
        obtain ⟨s, hs, -, -, rfl⟩ := setFillLevel_eq_ok hset
        exact hr.of_supplies_eq hc rfl rfl rfl rfl rfl rfl rfl
  | subscribe _ | unsubscribe _ | read _ | ack _ | isAcknowledged _ | take _ =>
      rw [exec_of_bySubscriber rfl] at hc ⊢
      exact hr.of_supplies_eq hc rfl rfl rfl rfl rfl rfl rfl

/-! #### What one step asks of the supplies -/

/-- **An `init` asks only the supply handed over last**: it leaves every other supply as it was. -/
theorem supply_init_of_ne (hr : Routed h m) (size fill : Nat) {j : Nat} (hj : j ≠ lastHanded h) :
    (m.exec (.init size fill)).1.supply j = m.supply j := by
  rw [exec_init_fst]
  rcases init_eq_cases m size fill with ⟨-, e, hinit⟩ |
    ⟨hnone, -, -, s', r, -, ⟨e, -, hinit⟩ | ⟨block, -, -, hinit⟩ | ⟨block, -, -, hinit⟩⟩ <;>
    rw [hinit]
  all_goals
    -- without a buffer the current supply is the one handed over last, and only it is asked
    rw [supply_of_set rfl, if_neg]
    rintro ⟨hcur, -⟩
    exact hj (hcur ▸ hr.current_of_idle hnone)

/-- **A supply takes a buffer back only at a successful release**, once, and it is the supply the
last successful `init` drew the buffer from. -/
theorem releases_exec (hr : Routed h m) {op : Op} (hfresh : m.handsFresh op = true) (j : Nat) :
    ((m.exec op).1.supply j).account.releases =
      (m.supply j).account.releases +
        if (m.stepOf op).released = true ∧ j = lastDrawn h then 1 else 0 := by
  -- a step that keeps the supplies and releases nothing
  have hkeep : (m.exec op).1.supplies = m.supplies → (m.stepOf op).released = false →
      ((m.exec op).1.supply j).account.releases = (m.supply j).account.releases +
        if (m.stepOf op).released = true ∧ j = lastDrawn h then 1 else 0 := fun hsup hrel => by
    simp [supply_of_supplies hsup, hrel]
  cases op with
  | init size fill =>
      have hrel : (m.stepOf (.init size fill)).released = false := rfl
      rw [hrel]
      simp only [Bool.false_eq_true, false_and, if_false, Nat.add_zero]
      rw [exec_init_fst]
      rcases init_eq_cases m size fill with ⟨-, e, hinit⟩ |
        ⟨hnone, -, -, s', r, halloc, ⟨e, rfl, hinit⟩ | ⟨block, rfl, hlen, -⟩ | ⟨block, rfl, -, hinit⟩⟩
      · rw [hinit]
      all_goals
        -- asking for a block gives nothing back
        have hs' : s'.account.releases = (m.supply m.current).account.releases := by
          rw [← Supply.releases_allocate (m.supply m.current) size, halloc]
      · rw [hinit, supply_of_set rfl]
        split
        · rename_i hj
          rw [← hj.1, hs']
        · rfl
      · have hres : ((m.supply m.current).allocate size).2 = .ok block := by rw [halloc]
        exact absurd (Supply.length_of_grant (hr.exact m.current) hres) hlen
      · rw [hinit, supply_of_set rfl]
        split
        · rename_i hj
          rw [← hj.1, hs']
        · rfl
  | deinit =>
      rcases hd : m.deinit with e | m'
      · have hexec := exec_deinit_of_error hd
        exact hkeep (by rw [hexec]) (by simp [Step.released, stepOf, hexec])
      · have hexec := exec_deinit_of_ok hd
        have hrel : (m.stepOf .deinit).released = true := by simp [Step.released, stepOf, hexec]
        obtain ⟨s, hs, hsup, -, -⟩ := deinit_supplies hd
        -- the buffer goes back to the current supply, the one it was drawn from
        rw [hexec, hrel, ← hr.origin (by simp [hs]), supply_of_set hsup]
        by_cases hj : m.current = j
        · rw [if_pos ⟨hj, hr.current_lt⟩, if_pos ⟨rfl, hj.symm⟩, hj, Supply.releases_release]
        · rw [if_neg (fun h => hj h.1), if_neg (fun h => hj h.2.symm), Nat.add_zero]
  | setAllocator s =>
      obtain ⟨budget, rfl⟩ := Supply.eq_budgeted_of_fresh hfresh
      have hrel : (m.stepOf (.setAllocator (Supply.budgeted budget))).released = false := rfl
      have hsup : (m.exec (.setAllocator (Supply.budgeted budget))).1.supplies =
          m.supplies ++ [Supply.budgeted budget] := by
        simp only [exec, setAllocator_eq, addSupply_eq]
        split <;> rfl
      rw [hrel, supply_of_append hsup]
      simp only [Bool.false_eq_true, false_and, if_false, Nat.add_zero]
      split
      · -- a new supply and an index the manager did not know: neither has given anything back
        rename_i hj
        have hnone : m.supply j = Supply.heap := by
          simp [supply, List.getD_eq_getElem?_getD, hj]
        rw [hnone]
        rfl
      · rfl
  | setSharedAllocator i =>
      exact hkeep (by simp only [exec, setAllocator_eq]; split <;> rfl) rfl
  | run context thread =>
      have hrel : (m.stepOf (.run context thread)).released = false := rfl
      have hlive := hr.consistent.live
      rcases run_frame (fun s hs => hlive.head_eq_zero hs) (fun s hs => hlive.capacity_pos hs)
        context thread with hsame | ⟨s, s', q, reg, b, r, -, -, -, -, -, heq⟩
      · exact hkeep (by rw [exec_run_fst, hsame]) hrel
      · exact hkeep (by rw [exec_run_fst, heq]) hrel
  | setFillLevel fill =>
      rcases hset : m.setFillLevel fill with e | m'
      · have hexec := exec_setFillLevel_of_error hset
        exact hkeep (by rw [hexec]) (by simp [Step.released, stepOf, hexec])
      · have hexec := exec_setFillLevel_of_ok hset
        obtain ⟨-, -, -, -, rfl⟩ := setFillLevel_eq_ok hset
        exact hkeep (by rw [hexec]) (by simp [Step.released, stepOf, hexec])
  | subscribe _ | unsubscribe _ | read _ | ack _ | isAcknowledged _ | take _ =>
      exact hkeep (by rw [exec_of_bySubscriber rfl]) rfl

end Routed

/-! ### Sessions -/

variable [Producer P]

/-- **The supplies follow the handovers along every session** from a manager just created, in
which every supply handed over is a fresh budgeted supply or one handed over before.  Before each
step: the supply with index zero is the heap; without a live buffer the current supply is the one
handed over last, so an `init` asks the supply handed over last (the heap when none was) and
leaves every other as it was; a supply takes a buffer back only at a successful release, once, and
it is the supply the last successful `init` drew that buffer from, never a pending one; and every
budgeted supply counts as in use the size of the live buffer if the buffer came from it, and
nothing otherwise. -/
theorem supplies_follow_handovers (p : P) (n : Nat) {ops : List Op}
    (hfresh : ∀ st ∈ (withSlots p n).steps ops, st.pre.handsFresh st.op = true)
    {before : List (Step P)} {st : Step P} {rest : List (Step P)}
    (hsplit : (withSlots p n).steps ops = before ++ st :: rest) :
    (st.pre.supply 0).kind = .heap ∧
      (st.pre.staging = none → st.pre.current = lastHanded before) ∧
      (∀ size fill, st.op = .init size fill → ∀ j, j ≠ lastHanded before →
        st.post.supply j = st.pre.supply j) ∧
      (∀ j, (st.post.supply j).account.releases = (st.pre.supply j).account.releases +
        if st.released = true ∧ j = lastDrawn before then 1 else 0) ∧
      (∀ j u, (st.pre.supply j).inUse? = some u →
        u = if st.pre.staging.isSome ∧ j = lastDrawn before then st.pre.state.capacity else 0) := by
  have hr : Routed before st.pre := by
    simpa using history_invariant_of_allowed Routed (fun m op => m.handsFresh op = true)
      (fun _ _ _ hf hr _ => hr.step hf) (Routed.withSlots p n) hfresh hsplit
  have hmem : st ∈ (withSlots p n).steps ops := by simp [hsplit]
  have hst := eq_stepOf_of_mem_steps hmem
  have hpost : st.post = (st.pre.exec st.op).1 := congrArg Step.post hst
  have hrel : st.released = (st.pre.stepOf st.op).released := congrArg Step.released hst
  refine ⟨hr.heap, hr.current_of_idle, fun size fill hop j hj => ?_, fun j => ?_,
    fun j u hu => ?_⟩
  · rw [hpost, hop]
    exact hr.supply_init_of_ne size fill hj
  · rw [hpost, hrel]
    exact hr.releases_exec (hfresh st hmem) j
  · -- while a buffer is live the current supply is the one it was drawn from
    have hcount := hr.inUse j u hu
    by_cases hlive : st.pre.staging.isSome
    · rwa [← hr.origin hlive]
    · simpa [hlive] using hcount

/-- Two budgeted supplies swapped while a buffer is live: the second waits as the pending supply,
and the release gives the buffer back to the first, which counted its twelve bytes. -/
theorem supplies_follow_handovers_swap :
    let m := withSlots ({} : Script) 4
    let ops : List Op := [.setAllocator (Supply.budgeted 12), .init 12 4,
      .setAllocator (Supply.budgeted 8)]
    let session := ops ++ [.deinit, .init 8 4, .deinit]
    let before := m.steps ops
    let st := (m.after ops).stepOf .deinit
    let rest := (m.after (ops ++ [.deinit])).steps [.init 8 4, .deinit]
    (∀ st ∈ m.steps session, st.pre.handsFresh st.op = true) ∧
      m.steps session = before ++ st :: rest ∧
      (st.pre.supply 0).kind = .heap ∧
      (st.pre.staging = none → st.pre.current = lastHanded before) ∧
      (∀ size fill, st.op = .init size fill → ∀ j, j ≠ lastHanded before →
        st.post.supply j = st.pre.supply j) ∧
      (∀ j, (st.post.supply j).account.releases = (st.pre.supply j).account.releases +
        if st.released = true ∧ j = lastDrawn before then 1 else 0) ∧
      (∀ j u, (st.pre.supply j).inUse? = some u →
        u = if st.pre.staging.isSome ∧ j = lastDrawn before then st.pre.state.capacity else 0) := by
  intro m ops session before st rest
  have hfresh : ∀ st ∈ m.steps session, st.pre.handsFresh st.op = true := by decide
  have hsplit : m.steps session = before ++ st :: rest := rfl
  exact ⟨hfresh, hsplit, supplies_follow_handovers _ 4 hfresh hsplit⟩

end Manager

end RadarIngest
