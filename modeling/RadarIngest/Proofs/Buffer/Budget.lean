import Mathlib
import RadarIngest.Proofs.Manager.Allocation

/-!
**A budgeted supply keeps an exact account.**

A budgeted supply, the bounded allocator, hands out a block only when its length fits what is
left of the budget and the heap can supply it; it then counts the block's bytes as in use.  Taking
a block back subtracts the block's length, stopping at zero, whatever the block's origin.  So the
bytes in use never exceed the budget, whatever is given back, and what is left of the budget is
never negative.

Giving back a block that was never handed out, or one given back already, lowers the count below
what is really out.  When every block given back is one the supply handed out and has not had back
yet, the count is exact: the bytes in use are the total length of the blocks still out, which
therefore never exceed the budget either.  `RadarIngest.Supply.Ledger` follows the blocks out
beside the supply, so the two can be compared.

Main definitions:

* `RadarIngest.Supply.Call` — a request for a block, or a block given back;
* `RadarIngest.Supply.Ledger` — a supply with the blocks it has handed out and not had back;
* `RadarIngest.Supply.Ledger.ownedAll` — every block given back is one that is out.

Main results:

* `RadarIngest.Supply.allocate_budgeted` — what one request of a budgeted supply does;
* `RadarIngest.Supply.Ledger.within_performAll` — the bytes in use stay within the budget;
* `RadarIngest.Supply.Ledger.balanced_performAll` — with owned returns, the count is exact;
* `RadarIngest.Supply.budget_accounting_along_calls` — **the budget and the account along any
  calls**.
-/

set_option autoImplicit false

namespace RadarIngest

namespace Supply

/-! ### One request -/

/-- The heap supplies exactly the blocks below its limit. -/
theorem heap_grants_iff (size : Nat) :
    (∃ block, (heap.allocate size).2 = .ok block) ↔ size < heapLimit := by
  simp only [result_allocate, heap, grant]
  by_cases h : size < heapLimit <;> simp [h]

theorem kind_release_budgeted {s : Supply} {budget inUse : Nat}
    (hk : s.kind = .budgeted budget inUse) (block : List UInt8) :
    (s.release block).kind = .budgeted budget (inUse - block.length) := by
  simp [release, hk]

/-- **One request of a budgeted supply.**  When the size fits what is left of the budget and the
heap can supply it, the supply hands out a zeroed block of that size and counts it as in use;
otherwise it refuses with the size asked for and counts nothing. -/
theorem allocate_budgeted {s : Supply} {budget inUse : Nat} (hk : s.kind = .budgeted budget inUse)
    (size : Nat) :
    (size ≤ budget - inUse ∧ (∃ block, (heap.allocate size).2 = .ok block) →
      (s.allocate size).2 = .ok (List.replicate size 0) ∧
        (s.allocate size).1.kind = .budgeted budget (inUse + size)) ∧
    (¬(size ≤ budget - inUse ∧ ∃ block, (heap.allocate size).2 = .ok block) →
      (s.allocate size).2 = .error (.allocationFailed size) ∧
        (s.allocate size).1.kind = .budgeted budget inUse) := by
  rw [heap_grants_iff, result_allocate, kind_allocate, hk]
  -- the budgeted grant checks the budget and the heap's limit together
  by_cases h : size ≤ budget - inUse ∧ size < heapLimit
  · have hfit : ¬(budget - inUse < size ∨ heapLimit ≤ size) := by omega
    exact ⟨fun _ => by simp [grant, hfit], fun hn => absurd h hn⟩
  · have hrefuse : budget - inUse < size ∨ heapLimit ≤ size := by omega
    exact ⟨fun hy => absurd hy h, fun _ => by simp [grant, hrefuse]⟩

/-! ### Calls and the blocks out -/

/-- The calls a client makes on a supply. -/
inductive Call where
  | allocate (size : Nat)
  | release (block : List UInt8)
  deriving DecidableEq, Repr

/-- A supply together with the blocks it has handed out and not had back, oldest first. -/
structure Ledger where
  supply : Supply
  outstanding : List (List UInt8)

namespace Ledger

/-- A new budgeted supply, with nothing out. -/
def start (budget : Nat) : Ledger := ⟨budgeted budget, []⟩

/-- One call: a block handed out joins those out; a block given back leaves them, one copy of it
if it is there. -/
def perform (l : Ledger) : Call → Ledger
  | .allocate size =>
    ⟨(l.supply.allocate size).1, l.outstanding ++ (l.supply.allocate size).2.toOption.toList⟩
  | .release block => ⟨l.supply.release block, l.outstanding.erase block⟩

/-- The ledger after a sequence of calls. -/
def performAll (l : Ledger) (calls : List Call) : Ledger := calls.foldl perform l

@[simp] theorem performAll_nil (l : Ledger) : l.performAll [] = l := rfl

@[simp] theorem performAll_cons (l : Ledger) (c : Call) (calls : List Call) :
    l.performAll (c :: calls) = (l.perform c).performAll calls := rfl

/-- Whether a call gives back only a block that is out. -/
def owns (l : Ledger) : Call → Prop
  | .allocate _ => True
  | .release block => block ∈ l.outstanding

/-- Whether every call of a sequence gives back only a block that is out when it is made. -/
def ownedAll : Ledger → List Call → Prop
  | _, [] => True
  | l, c :: calls => l.owns c ∧ ownedAll (l.perform c) calls

/-- The supply is budgeted with `budget` bytes and counts at most that many in use. -/
def Within (budget : Nat) (l : Ledger) : Prop :=
  ∃ inUse, l.supply.kind = .budgeted budget inUse ∧ inUse ≤ budget

/-- The supply counts as in use exactly the bytes of the blocks out. -/
def Balanced (l : Ledger) : Prop :=
  l.supply.inUse? = some (l.outstanding.map List.length).sum

variable {budget : Nat} {l : Ledger}

/-- A balanced budgeted supply counts as in use exactly the bytes of the blocks out. -/
theorem Balanced.inUse_eq {inUse : Nat} (hb : Balanced l)
    (hk : l.supply.kind = .budgeted budget inUse) : inUse = (l.outstanding.map List.length).sum := by
  simpa [Balanced, inUse?, hk] using hb

/-- **Every call keeps the bytes in use within the budget**, a block of any origin given back
included. -/
theorem within_perform (h : Within budget l) (c : Call) : Within budget (l.perform c) := by
  obtain ⟨inUse, hk, hle⟩ := h
  cases c with
  | allocate size =>
      obtain ⟨hgrant, hrefuse⟩ := allocate_budgeted hk size
      by_cases hfit : size ≤ budget - inUse ∧ ∃ block, (heap.allocate size).2 = .ok block
      · exact ⟨inUse + size, (hgrant hfit).2, by omega⟩
      · exact ⟨inUse, (hrefuse hfit).2, hle⟩
  | release block => exact ⟨inUse - block.length, kind_release_budgeted hk block, by omega⟩

theorem within_performAll (h : Within budget l) (calls : List Call) :
    Within budget (l.performAll calls) := by
  induction calls generalizing l with
  | nil => exact h
  | cons c calls ih => exact ih (within_perform h c)

/-- **An owned call keeps the count exact**: a block handed out adds its length on both sides, and
a block given back that is out takes its length off both. -/
theorem balanced_perform (hw : Within budget l) (hb : Balanced l) {c : Call} (hc : l.owns c) :
    Balanced (l.perform c) := by
  obtain ⟨inUse, hk, -⟩ := hw
  have hsum := hb.inUse_eq hk
  cases c with
  | allocate size =>
      obtain ⟨hgrant, hrefuse⟩ := allocate_budgeted hk size
      by_cases hfit : size ≤ budget - inUse ∧ ∃ block, (heap.allocate size).2 = .ok block
      · obtain ⟨hok, hk'⟩ := hgrant hfit
        simp only [Balanced, perform, inUse?, hk', hok]
        simp [hsum, Except.toOption]
      · obtain ⟨herr, hk'⟩ := hrefuse hfit
        simp only [Balanced, perform, inUse?, hk', herr]
        simp [hsum, Except.toOption]
  | release block =>
      -- the block is out, so its length is part of the total
      have hout : block.length + ((l.outstanding.erase block).map List.length).sum =
          (l.outstanding.map List.length).sum := by
        simpa using ((List.perm_cons_erase hc).map List.length).sum_nat.symm
      simp only [Balanced, perform, inUse?, kind_release_budgeted hk block]
      congr 1
      omega

theorem balanced_performAll (hw : Within budget l) (hb : Balanced l) {calls : List Call}
    (howned : l.ownedAll calls) : Balanced (l.performAll calls) := by
  induction calls generalizing l with
  | nil => exact hb
  | cons c calls ih =>
      obtain ⟨hc, hrest⟩ := howned
      exact ih (within_perform hw c) (balanced_perform hw hb hc) hrest

end Ledger

/-- **Accounting of a budgeted supply.**  Start a budgeted supply with any budget and make any
sequence of requests and returns, the returns being blocks of any length and origin.  Afterwards
the bytes in use are at most the budget, so what is left of it is the budget less the bytes in use.
The next request of a size that fits what is left, when the heap can supply it, gets a zeroed block
of exactly that size and adds the size to the bytes in use; any other request is refused with the
size asked for and leaves the bytes in use as they were.  And if every block given back was one the
supply handed out and had not had back yet, the bytes in use are the total length of the blocks
still out, which is therefore at most the budget. -/
theorem budget_accounting_along_calls (budget : Nat) (calls : List Call) :
    let l := (Ledger.start budget).performAll calls
    ∃ inUse, l.supply.kind = .budgeted budget inUse ∧ inUse ≤ budget ∧
      l.supply.available? = some (budget - inUse) ∧
      (∀ size,
        (size ≤ budget - inUse ∧ (∃ block, (heap.allocate size).2 = .ok block) →
          (l.supply.allocate size).2 = .ok (List.replicate size 0) ∧
            (l.supply.allocate size).1.inUse? = some (inUse + size)) ∧
        (¬(size ≤ budget - inUse ∧ ∃ block, (heap.allocate size).2 = .ok block) →
          (l.supply.allocate size).2 = .error (.allocationFailed size) ∧
            (l.supply.allocate size).1.inUse? = some inUse)) ∧
      ((Ledger.start budget).ownedAll calls →
        inUse = (l.outstanding.map List.length).sum ∧ (l.outstanding.map List.length).sum ≤ budget) := by
  intro l
  have hstart : Ledger.Within budget (Ledger.start budget) := ⟨0, rfl, Nat.zero_le _⟩
  obtain ⟨inUse, hk, hle⟩ : Ledger.Within budget l := Ledger.within_performAll hstart calls
  refine ⟨inUse, hk, hle, by simp [available?, hk], fun size => ?_, fun howned => ?_⟩
  · obtain ⟨hgrant, hrefuse⟩ := allocate_budgeted hk size
    exact ⟨fun hfit => ⟨(hgrant hfit).1, by simp only [inUse?, (hgrant hfit).2]⟩,
      fun hfit => ⟨(hrefuse hfit).1, by simp only [inUse?, (hrefuse hfit).2]⟩⟩
  · -- the count is exact from the start, where nothing is out
    have hb : Ledger.Balanced l := Ledger.balanced_performAll hstart rfl howned
    have hsum := hb.inUse_eq hk
    exact ⟨hsum, hsum ▸ hle⟩

/-- A budget of 32 bytes grants 24, refuses 16 more, and is whole again once the 24 are back. -/
example :
    ((Ledger.start 32).performAll
      [.allocate 24, .allocate 16, .release (List.replicate 24 0)]).supply.inUse? = some 0 := by
  decide

end Supply

end RadarIngest
