/-!
**The ChaCha keystream as a generator of 32-bit words.**

A ChaCha block is computed from four constant words, an eight-word key, a 64-bit block counter
and a 64-bit stream number (zero here).  The sixteen words are mixed by quarter rounds, in
alternating column and diagonal rounds, and the mixed words are added to the initial ones.  The
generator hands out the words of block 0, then of block 1, and so on, in order.

Main definitions:

* `RadarIngest.ChaCha.block`, `RadarIngest.ChaCha.Stream`, `RadarIngest.ChaCha.Stream.next`.
-/

set_option autoImplicit false

namespace RadarIngest

namespace ChaCha

/-- Rotates a word left by `n < 32` bits. -/
def rotl (x : UInt32) (n : UInt32) : UInt32 := (x <<< n) ||| (x >>> (32 - n))

/-- One quarter round on four words of the state. -/
def quarter (s : Array UInt32) (a b c d : Nat) : Array UInt32 :=
  let va := s.getD a 0
  let vb := s.getD b 0
  let vc := s.getD c 0
  let vd := s.getD d 0
  let va := va + vb
  let vd := rotl (vd ^^^ va) 16
  let vc := vc + vd
  let vb := rotl (vb ^^^ vc) 12
  let va := va + vb
  let vd := rotl (vd ^^^ va) 8
  let vc := vc + vd
  let vb := rotl (vb ^^^ vc) 7
  ((((s.setIfInBounds a va).setIfInBounds b vb).setIfInBounds c vc).setIfInBounds d vd)

/-- A column round followed by a diagonal round. -/
def doubleRound (s : Array UInt32) : Array UInt32 :=
  let s := quarter s 0 4 8 12
  let s := quarter s 1 5 9 13
  let s := quarter s 2 6 10 14
  let s := quarter s 3 7 11 15
  let s := quarter s 0 5 10 15
  let s := quarter s 1 6 11 12
  let s := quarter s 2 7 8 13
  quarter s 3 4 9 14

/-- The words "expand 32-byte k". -/
def constants : List UInt32 := [0x61707865, 0x3320646e, 0x79622d32, 0x6b206574]

/-- The initial state of a block: constants, key, counter (low word first), stream zero. -/
def initial (key : List UInt32) (counter : Nat) : Array UInt32 :=
  (constants ++ key ++ [counter.toUInt32, (counter / Nat.pow 2 32).toUInt32, 0, 0]).toArray

/-- The sixteen words of a block after `doubleRounds` double rounds. -/
def block (doubleRounds : Nat) (key : List UInt32) (counter : Nat) : List UInt32 :=
  let start := initial key counter
  let mixed := doubleRounds.repeat doubleRound start
  (mixed.zipWith (· + ·) start).toList

/-- A ChaCha generator with twelve rounds: its key, the next block, and the unread words of the
current block. -/
structure Stream where
  key : List UInt32
  counter : Nat := 0
  pending : List UInt32 := []
  deriving Repr

/-- The next word of the keystream. -/
def Stream.next (s : Stream) : UInt32 × Stream :=
  match s.pending with
  | w :: rest => (w, { s with pending := rest })
  | [] =>
    match block 6 s.key s.counter with
    | w :: rest => (w, { s with counter := s.counter + 1, pending := rest })
    | [] => (0, { s with counter := s.counter + 1 })

end ChaCha

end RadarIngest
