import RadarIngest.Subscriber.Registry

/-!
**What each registry operation does to the slots.**

The registry's operations come in two kinds.  Waking, acknowledging and clearing touch only the
flags of the slots, never who holds them.  Subscribing and unsubscribing change who holds one
slot: a subscription either finds its consumer already registered and changes nothing, or takes
the lowest free slot with both flags down; an unsubscription frees an occupied slot, or changes
nothing.  Each is stated once here, as an inversion lemma, for the invariants of the registry and
of the manager to use.

Main definitions:

* `RadarIngest.Registry.holders` — the consumer of each slot;
* `RadarIngest.Registry.occupied` — the number of occupied slots;
* `RadarIngest.Registry.Distinct` — no consumer holds two slots.

Main results:

* `RadarIngest.Registry.subscribe_eq_ok`, `RadarIngest.Registry.unsubscribe_cases`,
  `RadarIngest.Registry.acknowledge_eq_ok` — the inversion lemmas;
* `RadarIngest.Registry.occupied_subscribe_fresh`, `RadarIngest.Registry.occupied_unsubscribe` —
  a fresh subscription occupies one more slot, an unsubscription one fewer;
* `RadarIngest.Registry.mem_woken_iff` — with distinct consumers, a wake reaches a consumer
  exactly when its slot has not consumed the window.
-/

set_option autoImplicit false

namespace RadarIngest

namespace Registry

/-- The consumer of each slot, in slot order. -/
def holders (r : Registry) : List (Option Consumer) := r.slots.map (·.holder)

/-- The number of occupied slots. -/
def occupied (r : Registry) : Nat := r.slots.countP (·.holder.isSome)

@[simp] theorem holders_notifyAll (r : Registry) : r.notifyAll.1.holders = r.holders := by
  simp [holders, Function.comp_def]

@[simp] theorem holders_clearAcknowledgements (r : Registry) :
    r.clearAcknowledgements.holders = r.holders := by
  simp [holders, Function.comp_def]

@[simp] theorem occupied_notifyAll (r : Registry) : r.notifyAll.1.occupied = r.occupied := by
  simp [occupied, List.countP_map, Function.comp_def]

@[simp] theorem occupied_clearAcknowledgements (r : Registry) :
    r.clearAcknowledgements.occupied = r.occupied := by
  simp [occupied, List.countP_map, Function.comp_def]

@[simp] theorem occupied_empty (n : Nat) : (empty n).occupied = 0 := by
  simp [empty, occupied, List.countP_replicate]

/-- No slot is occupied exactly when every slot is free. -/
theorem occupied_eq_zero {r : Registry} : r.occupied = 0 ↔ ∀ s ∈ r.slots, s.holder = none := by
  simp [occupied, List.countP_eq_zero]

theorem slot?_eq_some {r : Registry} {id : Nat} {s : Slot} :
    r.slot? id = some s ↔ id ≠ 0 ∧ r.slots[id - 1]? = some s := by
  unfold slot?
  split <;> simp_all

theorem mem_of_slot?_eq_some {r : Registry} {id : Nat} {s : Slot} (h : r.slot? id = some s) :
    s ∈ r.slots :=
  List.mem_of_getElem? (slot?_eq_some.1 h).2

/-- The acknowledgement flag read by id is the flag of the slot with that id. -/
theorem isAcknowledged_of_slot? {r : Registry} {id : Nat} {s : Slot} (h : r.slot? id = some s) :
    r.isAcknowledged id = s.acknowledged := by
  simp [isAcknowledged, h]

/-- With no slot occupied, no id is registered. -/
theorem isRegistered_of_occupied_eq_zero {r : Registry} (h : r.occupied = 0) (id : Nat) :
    r.isRegistered id = false := by
  unfold isRegistered
  split
  · rename_i s hs
    simp [occupied_eq_zero.1 h s (mem_of_slot?_eq_some hs)]
  · rfl

/-! ### Subscribing -/

/-- **A subscription that succeeds** either finds the consumer already holding a slot and changes
nothing, or — when no slot holds it — puts it in the lowest free slot with both flags down. -/
theorem subscribe_eq_ok {r r' : Registry} {c : Consumer} {id : Nat}
    (h : r.subscribe c = .ok (r', id)) :
    c.name.isEmpty = false ∧
      ((∃ (i : Nat) (hi : i < r.slots.length), r.slots[i].holder.any (·.same c) = true ∧
          id = i + 1 ∧ r' = r) ∨
        ((∀ s ∈ r.slots, s.holder.any (·.same c) = false) ∧
          ∃ (i : Nat) (hi : i < r.slots.length), r.slots[i].holder = none ∧
            (∀ j (hj : j < i), r.slots[j].holder ≠ none) ∧ id = i + 1 ∧
            r' = ⟨r.slots.set i ⟨some c, false, false⟩, r.active + 1⟩)) := by
  unfold subscribe at h
  split at h
  · cases h
  · rename_i hname
    refine ⟨by simpa using hname, ?_⟩
    split at h
    · rename_i i hfind
      cases h
      obtain ⟨hi, hsame, -⟩ := List.findIdx?_eq_some_iff_getElem.1 hfind
      exact .inl ⟨i, hi, hsame, rfl, rfl⟩
    · rename_i hfind
      split at h
      · rename_i i hfree
        cases h
        obtain ⟨hi, hnone, hbefore⟩ := List.findIdx?_eq_some_iff_getElem.1 hfree
        refine .inr ⟨List.findIdx?_eq_none_iff.1 hfind, i, hi, by simpa using hnone,
          fun j hj => ?_, rfl, rfl⟩
        simpa using hbefore j hj
      · cases h

/-- A fresh subscription occupies one more slot. -/
theorem occupied_subscribe_fresh {r : Registry} {i : Nat} (hi : i < r.slots.length)
    (hfree : r.slots[i].holder = none) (c : Consumer) :
    (⟨r.slots.set i ⟨some c, false, false⟩, r.active + 1⟩ : Registry).occupied =
      r.occupied + 1 := by
  simp [occupied, List.countP_set hi, hfree]

/-! ### Unsubscribing -/

/-- **An unsubscription** frees an occupied slot, with both flags down, or changes nothing. -/
theorem unsubscribe_cases (r : Registry) (id : Nat) :
    (r.unsubscribe id).1 = r ∨
      ∃ (c : Consumer) (a k : Bool), r.active ≠ 0 ∧ r.slot? id = some ⟨some c, a, k⟩ ∧
        (r.unsubscribe id).1 = ⟨r.slots.set (id - 1) {}, r.active - 1⟩ := by
  unfold unsubscribe
  split
  · exact .inl rfl
  · rename_i hactive
    split
    · rename_i c a k hslot
      exact .inr ⟨c, a, k, hactive, hslot, rfl⟩
    · exact .inl rfl

/-- An unsubscription that frees a slot occupies one fewer. -/
theorem occupied_unsubscribe {r : Registry} {id : Nat} {c : Consumer} {a k : Bool}
    (hslot : r.slot? id = some ⟨some c, a, k⟩) :
    (⟨r.slots.set (id - 1) {}, r.active - 1⟩ : Registry).occupied = r.occupied - 1 := by
  obtain ⟨-, hget⟩ := slot?_eq_some.1 hslot
  obtain ⟨hlt, hat⟩ := List.getElem?_eq_some_iff.1 hget
  simp [occupied, List.countP_set hlt, hat]

/-! ### Acknowledging -/

/-- **An acknowledgement that succeeds** raises the flag of an occupied slot. -/
theorem acknowledge_eq_ok {r r' : Registry} {id : Nat} (h : r.acknowledge id = .ok r') :
    ∃ s, r.slot? id = some s ∧ s.holder.isSome ∧
      r' = { r with slots := r.slots.set (id - 1) { s with acknowledged := true } } := by
  unfold acknowledge at h
  split at h
  · cases h
  · rename_i s hslot
    split at h
    · cases h
    · rename_i hheld
      cases h
      exact ⟨s, hslot, Option.isSome_iff_ne_none.2 (by simpa using hheld), rfl⟩

theorem holders_acknowledge {r r' : Registry} {id : Nat} (h : r.acknowledge id = .ok r') :
    r'.holders = r.holders ∧ r'.active = r.active := by
  obtain ⟨s, hslot, -, rfl⟩ := acknowledge_eq_ok h
  obtain ⟨-, hget⟩ := slot?_eq_some.1 hslot
  obtain ⟨hlt, hat⟩ := List.getElem?_eq_some_iff.1 hget
  refine ⟨?_, rfl⟩
  have hlt₁ : id - 1 < (r.slots.map (·.holder)).length := by simpa using hlt
  have hheld : (r.slots.map (·.holder))[id - 1] = s.holder := by simp [hat]
  simp only [holders, List.map_set]
  rw [← hheld, List.set_getElem_self]

theorem occupied_eq_of_holders {r r' : Registry} (h : r'.holders = r.holders) :
    r'.occupied = r.occupied := by
  have := congrArg (List.countP Option.isSome) h
  simpa [holders, occupied, List.countP_map, Function.comp_def] using this

/-! ### Who holds a slot -/

/-- The consumer holding the slot with a given id. -/
def holder? (r : Registry) (id : Nat) : Option Consumer := (r.slot? id).bind (·.holder)

theorem holder_eq_of_holders {r r' : Registry} (h : r'.holders = r.holders) {k : Nat}
    (hk : k < r'.slots.length) (hk' : k < r.slots.length) :
    r'.slots[k].holder = r.slots[k].holder := by
  have hk₁ : k < r'.holders.length := by simpa [holders] using hk
  simpa [holders] using List.getElem_of_eq h hk₁

/-- No two slots hold consumers with the same key: a consumer holds at most one slot. -/
def Distinct (r : Registry) : Prop :=
  ∀ i j (hi : i < r.slots.length) (hj : j < r.slots.length) (a b : Consumer),
    r.slots[i].holder = some a → r.slots[j].holder = some b → a.key = b.key → i = j

theorem distinct_empty (n : Nat) : (empty n).Distinct := by
  intro i j hi hj a b ha
  simp [empty] at ha

/-- Flags never matter to distinctness: a registry with the same holders is distinct too. -/
theorem Distinct.of_holders {r r' : Registry} (hd : r.Distinct) (h : r'.holders = r.holders) :
    r'.Distinct := by
  have hlen : r'.slots.length = r.slots.length := by
    simpa [holders] using congrArg List.length h
  intro i j hi hj a b ha hb hkey
  rw [holder_eq_of_holders h hi (hlen ▸ hi)] at ha
  rw [holder_eq_of_holders h hj (hlen ▸ hj)] at hb
  exact hd i j _ _ a b ha hb hkey

/-- A consumer that no slot holds is not the consumer of any slot. -/
theorem ne_holder_of_unheld {r : Registry} {c : Consumer}
    (hnew : ∀ s ∈ r.slots, s.holder.any (·.same c) = false) {s : Slot} (hs : s ∈ r.slots)
    {d : Consumer} (hd : s.holder = some d) : c ≠ d := by
  rintro rfl
  have := hnew s hs
  simp [hd, Consumer.same] at this

/-- A fresh subscription of a consumer no slot holds keeps the consumers distinct. -/
theorem Distinct.subscribe_fresh {r : Registry} (hd : r.Distinct) {c : Consumer}
    (hnew : ∀ s ∈ r.slots, s.holder.any (·.same c) = false) (i n : Nat) :
    (⟨r.slots.set i ⟨some c, false, false⟩, n⟩ : Registry).Distinct := by
  -- a slot other than `i` holds a consumer whose key is not `c`'s
  have hother : ∀ k (hk : k < r.slots.length) (b : Consumer), r.slots[k].holder = some b →
      b.key ≠ c.key := by
    intro k hk b hb hkey
    have := hnew r.slots[k] (List.getElem_mem hk)
    simp [hb, Consumer.same, hkey] at this
  intro k l hk hl a b ha hb hkey
  simp only [List.getElem_set] at ha hb
  simp only [List.length_set] at hk hl
  split at ha <;> split at hb
  · omega
  · cases ha
    exact absurd hkey.symm (hother l hl b hb)
  · cases hb
    exact absurd hkey (hother k hk a ha)
  · exact hd k l hk hl a b ha hb hkey

/-- Freeing a slot keeps the consumers distinct. -/
theorem Distinct.set_free {r : Registry} (hd : r.Distinct) (i n : Nat) :
    (⟨r.slots.set i {}, n⟩ : Registry).Distinct := by
  intro k l hk hl a b ha hb hkey
  simp only [List.getElem_set] at ha hb
  simp only [List.length_set] at hk hl
  split at ha
  · cases ha
  · split at hb
    · cases hb
    · exact hd k l hk hl a b ha hb hkey

/-! ### Waking -/

/-- In a registry of distinct consumers, a wake reaches the consumer of a slot exactly when
that slot has not consumed the window. -/
theorem mem_woken_iff {r : Registry} (hd : r.Distinct) {i : Nat} (hi : i < r.slots.length)
    {c : Consumer} (hc : r.slots[i].holder = some c) :
    c ∈ r.notifyAll.2 ↔ r.slots[i].consumed = false := by
  rw [woken_notifyAll, List.mem_filterMap]
  constructor
  · rintro ⟨s, hs, hwake⟩
    obtain ⟨k, hk, rfl⟩ := List.mem_iff_getElem.1 hs
    split at hwake
    · cases hwake
    · rename_i hcons
      -- the slot woken holds `c`, so it is slot `i`
      have hki := hd k i hk hi c c hwake hc rfl
      subst hki
      simpa using hcons
  · intro hcons
    exact ⟨r.slots[i], List.getElem_mem hi, by simp [hcons, hc]⟩

/-- Every occupied slot is acknowledged. -/
theorem allAcknowledged_iff {r : Registry} :
    r.allAcknowledged = true ↔
      ∀ i (hi : i < r.slots.length) (c : Consumer), r.slots[i].holder = some c →
        r.slots[i].acknowledged = true := by
  unfold allAcknowledged
  rw [List.all_eq_true]
  constructor
  · intro h i hi c hc
    simpa [hc] using h r.slots[i] (List.getElem_mem hi)
  · intro h s hs
    obtain ⟨i, hi, rfl⟩ := List.mem_iff_getElem.1 hs
    cases hc : r.slots[i].holder with
    | none => simp
    | some c => simp [h i hi c hc]

/-! ### One slot at a time -/

@[simp] theorem slot?_notifyAll (r : Registry) (id : Nat) :
    r.notifyAll.1.slot? id = (r.slot? id).map fun s => (wakeSlot s).1 := by
  unfold slot?
  split <;> simp

@[simp] theorem slot?_clearAcknowledgements (r : Registry) (id : Nat) :
    r.clearAcknowledgements.slot? id =
      (r.slot? id).map fun s => { s with acknowledged := false, consumed := false } := by
  unfold slot?
  split <;> simp [clearAcknowledgements]

/-- Changing another slot leaves a slot as it was. -/
theorem slot?_of_set_ne {r r' : Registry} {k : Nat} {x : Slot} (hslots : r'.slots = r.slots.set k x)
    {id : Nat} (hk : k ≠ id - 1) : r'.slot? id = r.slot? id := by
  unfold slot?
  split
  · rfl
  · rw [hslots, List.getElem?_set_ne hk]

/-- Rewriting the slot of one id leaves the slot of every other id as it was. -/
theorem slot?_of_set_other {r r' : Registry} {k : Nat} {x : Slot}
    (hslots : r'.slots = r.slots.set (k - 1) x) (hk : k ≠ 0) {id : Nat} (hne : id ≠ k) :
    r'.slot? id = r.slot? id := by
  unfold slot?
  split
  · rfl
  · rw [hslots, List.getElem?_set_ne (by omega)]

/-- An unsubscription leaves the slot of every other id as it was. -/
theorem slot?_unsubscribe_of_ne (r : Registry) {k id : Nat} (hne : id ≠ k) :
    (r.unsubscribe k).1.slot? id = r.slot? id := by
  rcases unsubscribe_cases r k with hsame | ⟨c, a, b, -, hslot, hfreed⟩
  · rw [hsame]
  · exact slot?_of_set_other (by rw [hfreed]) (slot?_eq_some.1 hslot).1 hne

theorem slot?_of_set_self {r r' : Registry} {id : Nat} {x : Slot}
    (hslots : r'.slots = r.slots.set (id - 1) x) (hid : id ≠ 0) (hlt : id - 1 < r.slots.length) :
    r'.slot? id = some x := by
  unfold slot?
  rw [if_neg hid, hslots, List.getElem?_set_self hlt]

/-- A free slot is not the slot of an id that a consumer holds. -/
theorem index_ne_of_free {r : Registry} {id : Nat} {s : Slot} (hs : r.slot? id = some s)
    {c : Consumer} (hc : s.holder = some c) {i : Nat} (hi : i < r.slots.length)
    (hfree : r.slots[i].holder = none) : i ≠ id - 1 := by
  rintro rfl
  obtain ⟨-, hget⟩ := slot?_eq_some.1 hs
  rw [List.getElem?_eq_getElem hi] at hget
  cases hget
  rw [hfree] at hc
  cases hc

/-- A wake acknowledges the slot of a callback whose consumed flag follows its acknowledgement,
and leaves any other flag as it was. -/
theorem acknowledged_wakeSlot_of_held {s : Slot} {c : Consumer} (hc : s.holder = some c)
    (hcb : c.consumesOnWake = true → s.consumed = s.acknowledged) :
    (wakeSlot s).1.acknowledged = (s.acknowledged || c.consumesOnWake) := by
  cases hcw : c.consumesOnWake
  · simp [hc, hcw]
  · simp [hc, hcw, hcb hcw]

/-- `mem_woken_iff`, for the slot with a given id. -/
theorem mem_woken_iff_slot? {r : Registry} (hd : r.Distinct) {id : Nat} {s : Slot}
    (hs : r.slot? id = some s) {c : Consumer} (hc : s.holder = some c) :
    c ∈ r.notifyAll.2 ↔ s.consumed = false := by
  obtain ⟨-, hget⟩ := slot?_eq_some.1 hs
  obtain ⟨hlt, rfl⟩ := List.getElem?_eq_some_iff.1 hget
  exact mem_woken_iff hd hlt hc

/-- A consumer is registered exactly when the slot of some id holds it. -/
theorem mem_holders_iff {r : Registry} {c : Consumer} :
    some c ∈ r.holders ↔ ∃ id s, r.slot? id = some s ∧ s.holder = some c := by
  constructor
  · intro hc
    obtain ⟨i, hi, hget⟩ := List.mem_iff_getElem.1 hc
    simp only [holders, List.length_map, List.getElem_map] at hi hget
    exact ⟨i + 1, r.slots[i], slot?_eq_some.2 ⟨by omega, by simp [hi]⟩, hget⟩
  · rintro ⟨id, s, hs, hc⟩
    exact List.mem_map.2 ⟨s, mem_of_slot?_eq_some hs, hc⟩

/-- In a registry of distinct consumers, the slots of two ids hold two different consumers. -/
theorem Distinct.holder_ne {r : Registry} (hd : r.Distinct) {i j : Nat} {s t : Slot}
    (hs : r.slot? i = some s) (ht : r.slot? j = some t) {a b : Consumer} (ha : s.holder = some a)
    (hb : t.holder = some b) (hij : i ≠ j) : a ≠ b := by
  rintro rfl
  obtain ⟨hi, hgi⟩ := slot?_eq_some.1 hs
  obtain ⟨hj, hgj⟩ := slot?_eq_some.1 ht
  obtain ⟨hil, rfl⟩ := List.getElem?_eq_some_iff.1 hgi
  obtain ⟨hjl, rfl⟩ := List.getElem?_eq_some_iff.1 hgj
  have := hd (i - 1) (j - 1) hil hjl a a ha hb rfl
  omega

/-- When every occupied slot is acknowledged, so is the slot of any registered consumer. -/
theorem acknowledged_of_allAcknowledged {r : Registry} (hall : r.allAcknowledged = true)
    {id : Nat} {s : Slot} (hs : r.slot? id = some s) {c : Consumer} (hc : s.holder = some c) :
    s.acknowledged = true := by
  obtain ⟨-, hget⟩ := slot?_eq_some.1 hs
  obtain ⟨hlt, rfl⟩ := List.getElem?_eq_some_iff.1 hget
  exact allAcknowledged_iff.1 hall _ hlt c hc

/-- Every occupied slot is acknowledged exactly when the slot of every registered consumer is. -/
theorem allAcknowledged_iff_slot? {r : Registry} :
    r.allAcknowledged = true ↔
      ∀ id s c, r.slot? id = some s → s.holder = some c → s.acknowledged = true := by
  refine ⟨fun hall id s c hs hc => acknowledged_of_allAcknowledged hall hs hc, fun h => ?_⟩
  refine allAcknowledged_iff.2 fun i hi c hc => h (i + 1) r.slots[i] c ?_ hc
  exact slot?_eq_some.2 ⟨by omega, by simp [hi]⟩

/-- In a registry of distinct consumers, a wake reaches each consumer at most once. -/
theorem nodup_woken {r : Registry} (hd : r.Distinct) : r.notifyAll.2.Nodup := by
  -- two slots hold different consumers
  have hpair : r.slots.Pairwise fun s t => ∀ a b, s.holder = some a → t.holder = some b → a ≠ b := by
    refine List.pairwise_iff_getElem.2 fun i j hi hj hij a b ha hb hab => ?_
    subst hab
    have := hd i j hi hj a a ha hb rfl
    omega
  rw [woken_notifyAll]
  refine hpair.filterMap _ fun s t hst a ha b hb => hst a b ?_ ?_
  · split at ha
    · cases ha
    · exact ha
  · split at hb
    · cases hb
    · exact hb

/-- The slot of an id lies within the slots. -/
theorem index_lt_of_slot? {r : Registry} {id : Nat} {s : Slot} (hs : r.slot? id = some s) :
    id - 1 < r.slots.length :=
  (List.getElem?_eq_some_iff.1 (slot?_eq_some.1 hs).2).1

/-- After one slot is rewritten, a slot is the new one or one that was there. -/
theorem slot?_set_cases {r : Registry} {k : Nat} (hk : k < r.slots.length) (x : Slot) (n : Nat)
    {id : Nat} {s : Slot} (hs : (⟨r.slots.set k x, n⟩ : Registry).slot? id = some s) :
    (id = k + 1 ∧ s = x) ∨ (id ≠ k + 1 ∧ r.slot? id = some s) := by
  have hid := (slot?_eq_some.1 hs).1
  by_cases h : id = k + 1
  · subst h
    rw [slot?_of_set_self (show (⟨r.slots.set k x, n⟩ : Registry).slots =
      r.slots.set (k + 1 - 1) x from rfl) hid (by simpa using hk)] at hs
    exact .inl ⟨rfl, (Option.some.inj hs).symm⟩
  · rw [slot?_of_set_ne (show (⟨r.slots.set k x, n⟩ : Registry).slots = r.slots.set k x from rfl)
      (by omega)] at hs
    exact .inr ⟨h, hs⟩

/-- Every slot is the slot of some id. -/
theorem exists_slot?_of_mem {r : Registry} {s : Slot} (hs : s ∈ r.slots) :
    ∃ id, r.slot? id = some s := by
  obtain ⟨i, hi, rfl⟩ := List.mem_iff_getElem.1 hs
  exact ⟨i + 1, slot?_eq_some.2 ⟨by omega, by simp [hi]⟩⟩

end Registry

end RadarIngest
