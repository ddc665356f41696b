import RadarIngest.Random.ChaCha

/-!
**A ChaCha generator from a 64-bit seed.**

The 64-bit seed is expanded into the eight key words by a PCG32 generator: the state is first
advanced by a multiply and an add (modulo `2 ^ 64`), then a 32-bit word is taken from it by the
xorshift-and-rotate output function.

Main definitions:

* `RadarIngest.Pcg.next`, `RadarIngest.ChaCha.Stream.ofSeed`.
-/

set_option autoImplicit false

namespace RadarIngest

namespace Pcg

/-- The multiplier of the state update. -/
def multiplier : UInt64 := 6364136223846793005

/-- The increment of the state update. -/
def increment : UInt64 := 11634580027462260723

/-- Rotates a word right by `n < 32` bits. -/
def rotr (x : UInt32) (n : UInt32) : UInt32 := (x >>> n) ||| (x <<< (32 - n))

/-- Advances the state and returns the output word of the new state. -/
def next (state : UInt64) : UInt32 × UInt64 :=
  let state := state * multiplier + increment
  let xorshifted := (((state >>> 18) ^^^ state) >>> 27).toUInt32
  let rot := (state >>> 59).toUInt32
  (rotr xorshifted rot, state)

/-- The first `n` output words from a state. -/
def words : Nat → UInt64 → List UInt32
  | 0, _ => []
  | n + 1, state =>
    let (w, state) := next state
    w :: words n state

end Pcg

/-- The generator whose key is the first eight PCG32 words of the seed. -/
def ChaCha.Stream.ofSeed (seed : UInt64) : ChaCha.Stream := { key := Pcg.words 8 seed }

end RadarIngest
