import RadarIngest.Fault

/-!
**Checked arithmetic on 64-bit machine words.**

Sizes, counts and counters are machine words of 64 bits.  They are held as `Nat` below
`RadarIngest.wordBound`, and every product or sum that could leave that range goes through
`RadarIngest.Word.mul` or `RadarIngest.Word.add`, which stop with a `RadarIngest.Panic`
instead of wrapping.

Main results:

* `RadarIngest.Word.mul_eq_ok_iff` — a checked product succeeds exactly when it fits, and then
  it is the product.
-/

set_option autoImplicit false

namespace RadarIngest

/-- The number of values of a 64-bit machine word. -/
def wordBound : Nat := Nat.pow 2 64

namespace Word

/-- The product of two words, or a stop when it does not fit in a word. -/
def mul (a b : Nat) : Except Panic Nat :=
  if a * b < wordBound then .ok (a * b) else .error .multiplyOverflow

/-- The sum of two words, or a stop when it does not fit in a word. -/
def add (a b : Nat) : Except Panic Nat :=
  if a + b < wordBound then .ok (a + b) else .error .addOverflow

theorem mul_eq_ok_iff (a b c : Nat) : mul a b = .ok c ↔ a * b < wordBound ∧ c = a * b := by
  unfold mul
  split
  · simp_all [eq_comm]
  · simp only [reduceCtorEq, false_iff, not_and]
    omega

theorem add_eq_ok_iff (a b c : Nat) : add a b = .ok c ↔ a + b < wordBound ∧ c = a + b := by
  unfold add
  split
  · simp_all [eq_comm]
  · simp only [reduceCtorEq, false_iff, not_and]
    omega

end Word

end RadarIngest
