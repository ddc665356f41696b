import RadarIngest.Fault

/-!
**Samples as little-endian byte pairs.**

A sample is a 16-bit word stored low byte first.  Decoding reads consecutive pairs and ignores
a trailing odd byte; encoding overwrites the first two bytes of a slot and refuses a slot shorter
than two bytes.

Main definitions:

* `RadarIngest.Sample.decode`, `RadarIngest.Sample.encode`.

Main results:

* `RadarIngest.Sample.length_decode` — one sample for every whole pair;
* `RadarIngest.Sample.decode_encode` — a written sample reads back.
-/

set_option autoImplicit false

namespace RadarIngest

namespace Sample

/-- The sample a low and a high byte stand for. -/
def ofBytes (lo hi : UInt8) : UInt16 :=
  UInt16.ofNat (lo.toNat + 256 * hi.toNat)

/-- The low byte of a sample. -/
def low (x : UInt16) : UInt8 := UInt8.ofNat (x.toNat % 256)

/-- The high byte of a sample. -/
def high (x : UInt16) : UInt8 := UInt8.ofNat (x.toNat / 256)

/-- The samples of a byte string, one for each whole pair, low byte first. -/
def decode : List UInt8 → List UInt16
  | lo :: hi :: rest => ofBytes lo hi :: decode rest
  | _ => []

/-- Writes a sample into the first two bytes of a slot, keeping the rest of the slot. -/
def encode (x : UInt16) : List UInt8 → Except ManagerError (List UInt8)
  | _ :: _ :: rest => .ok (low x :: high x :: rest)
  | short => .error (.invalidParam (.shortSlot short.length))

theorem length_decode : ∀ bytes : List UInt8, (decode bytes).length = bytes.length / 2
  | [] => rfl
  | [_] => by simp [decode]
  | _ :: _ :: rest => by simp [decode, length_decode rest]; omega

theorem ofBytes_split (x : UInt16) : ofBytes (low x) (high x) = x := by
  have hx := x.toNat_lt
  apply UInt16.toNat_inj.mp
  simp only [ofBytes, low, high, UInt16.toNat_ofNat', UInt8.toNat_ofNat']
  omega

theorem decode_encode (x : UInt16) (a b : UInt8) (rest : List UInt8) :
    (encode x (a :: b :: rest)).map decode = .ok (x :: decode rest) := by
  simp [encode, decode, ofBytes_split, Except.map]

end Sample

end RadarIngest
