import Mathlib
import RadarIngest.Frame.Sample

/-!
**Round trips of the sample codec.**

Samples travel through the staging buffer as little-endian byte pairs: a frame writer puts sample
`i` into the two-byte slot at byte `2 i`, and a reader decodes the window pair by pair.  The two
sides agree.  Decoding reads exactly the whole pairs, low byte first; writing samples slot by slot
lays down their little-endian bytes and keeps the rest of the buffer, so decoding the slots gives
the samples back; and re-encoding what was decoded from an even number of bytes gives the bytes
back.  Writing one sample touches only the first two bytes of its slot, and is refused exactly for
a slot of fewer than two bytes.

Main definitions:

* `RadarIngest.Sample.toBytes` — the little-endian bytes of a list of samples;
* `RadarIngest.Sample.encodeSlots` — samples written into consecutive two-byte slots.

Main results:

* `RadarIngest.Sample.getElem?_decode` — sample `i` of a byte string is its pair at byte `2 i`;
* `RadarIngest.Sample.encode_of_two_le`, `RadarIngest.Sample.encode_eq_error_iff` — what writing
  one sample does;
* `RadarIngest.Sample.encodeSlots_of_le`, `RadarIngest.Sample.decode_toBytes_append`,
  `RadarIngest.Sample.toBytes_decode` — the pieces of the round trips;
* `RadarIngest.Sample.sample_codec_round_trips` — **the codec's laws in one statement**.
-/

set_option autoImplicit false

namespace RadarIngest

namespace Sample

/-! ### Decoding -/

@[simp] theorem decode_cons_cons (lo hi : UInt8) (rest : List UInt8) :
    decode (lo :: hi :: rest) = ofBytes lo hi :: decode rest := rfl

/-- A pair of bytes stands for the number `lo + 256 hi`, which always fits in sixteen bits. -/
theorem toNat_ofBytes (lo hi : UInt8) : (ofBytes lo hi).toNat = lo.toNat + 256 * hi.toNat := by
  have hlo := lo.toNat_lt
  have hhi := hi.toNat_lt
  rw [ofBytes, UInt16.toNat_ofNat']
  omega

/-- **Sample `i` of a byte string is the pair at byte `2 i`**, when that pair is whole; a trailing
odd byte yields nothing. -/
theorem getElem?_decode (b : List UInt8) (i : Nat) :
    (decode b)[i]? =
      if 2 * i + 1 < b.length then some (ofBytes (b.getD (2 * i) 0) (b.getD (2 * i + 1) 0))
      else none := by
  -- the recursion of `decode` peels one pair, which moves the index down by one
  induction b using decode.induct generalizing i with
  | case1 lo hi rest ih =>
      cases i with
      | zero => simp
      | succ k =>
          have hidx : 2 * (k + 1) = 2 * k + 1 + 1 := by omega
          rw [decode_cons_cons, List.getElem?_cons_succ, ih k, hidx]
          simp only [List.length_cons, List.getD_cons_succ]
          congr 1
          simp only [eq_iff_iff]
          omega
  | case2 b hb =>
      -- fewer than two bytes left: no whole pair
      obtain ⟨hshort, hnil⟩ : b.length < 2 ∧ decode b = [] := by
        match b, hb with
        | [], _ => exact ⟨by simp, rfl⟩
        | [_], _ => exact ⟨by simp, rfl⟩
        | _ :: _ :: _, hb => exact absurd rfl (hb _ _ _)
      rw [hnil, List.getElem?_nil, if_neg (by omega)]

/-! ### Writing one sample -/

/-- **Writing a sample into a slot of two bytes or more** puts its low byte and then its high
byte at the front, and keeps the rest of the slot. -/
theorem encode_of_two_le (x : UInt16) {dst : List UInt8} (h : 2 ≤ dst.length) :
    encode x dst = .ok (low x :: high x :: dst.drop 2) := by
  match dst, h with
  | _ :: _ :: rest, _ => rfl

/-- **Writing a sample is refused exactly for a slot shorter than two bytes**, and the refusal
names the slot's length. -/
theorem encode_eq_error_iff (x : UInt16) (dst : List UInt8) :
    encode x dst = .error (.invalidParam (.shortSlot dst.length)) ↔ dst.length < 2 := by
  match dst with
  | [] => simp [encode]
  | [_] => simp [encode]
  | _ :: _ :: rest => simp [encode]

/-! ### Writing slot by slot -/

/-- The little-endian bytes of a list of samples, two for each. -/
def toBytes (s : List UInt16) : List UInt8 := s.flatMap fun x => [low x, high x]

@[simp] theorem toBytes_nil : toBytes [] = [] := rfl

@[simp] theorem toBytes_cons (x : UInt16) (s : List UInt16) :
    toBytes (x :: s) = low x :: high x :: toBytes s := rfl

@[simp] theorem length_toBytes (s : List UInt16) : (toBytes s).length = 2 * s.length := by
  induction s with
  | nil => rfl
  | cons x s ih => simp [ih]; omega

/-- Writes the samples into consecutive two-byte slots of a buffer, sample `i` into the slot at
byte `2 i`, as a frame writer does; the bytes past the last slot are kept.  Refused at the first
slot that is short. -/
def encodeSlots : List UInt16 → List UInt8 → Except ManagerError (List UInt8)
  | [], buf => .ok buf
  | x :: xs, buf => do
    let slot ← encode x (buf.take 2)
    let rest ← encodeSlots xs (buf.drop 2)
    pure (slot ++ rest)

/-- **A buffer that holds every slot takes the samples**: the slots then hold the samples'
little-endian bytes, and the bytes past them are as they were. -/
theorem encodeSlots_of_le (s : List UInt16) {buf : List UInt8} (h : 2 * s.length ≤ buf.length) :
    encodeSlots s buf = .ok (toBytes s ++ buf.drop (2 * s.length)) := by
  induction s generalizing buf with
  | nil => rfl
  | cons x s ih =>
      -- the first slot is whole, and the rest of the buffer holds the other slots
      have hslot : encode x (buf.take 2) = .ok [low x, high x] := by
        rw [encode_of_two_le x (by simp at h ⊢; omega)]
        simp
      have hrest := ih (show 2 * s.length ≤ (buf.drop 2).length by simp at h ⊢; omega)
      have hdrop : (buf.drop 2).drop (2 * s.length) = buf.drop (2 * (s.length + 1)) := by
        rw [List.drop_drop]
        congr 1
        omega
      simp only [encodeSlots, hslot, hrest, hdrop, bind, Except.bind, pure, Except.pure,
        List.length_cons, toBytes_cons]
      rfl

/-- A buffer too short for the last slot refuses the write. -/
theorem encodeSlots_of_lt (s : List UInt16) {buf : List UInt8} (h : buf.length < 2 * s.length) :
    ∃ e, encodeSlots s buf = .error e := by
  induction s generalizing buf with
  | nil => simp at h
  | cons x s ih =>
      by_cases hslot : 2 ≤ buf.length
      · obtain ⟨e, he⟩ := ih (show (buf.drop 2).length < 2 * s.length by simp at h ⊢; omega)
        refine ⟨e, ?_⟩
        rw [encodeSlots, encode_of_two_le x (by simp; omega)]
        simp [he, bind, Except.bind]
      · refine ⟨.invalidParam (.shortSlot (buf.take 2).length), ?_⟩
        rw [encodeSlots, (encode_eq_error_iff x (buf.take 2)).2 (by simp; omega)]
        rfl

/-- **Decoding reads written samples back**, whatever bytes follow them. -/
theorem decode_toBytes_append (s : List UInt16) (rest : List UInt8) :
    decode (toBytes s ++ rest) = s ++ decode rest := by
  induction s with
  | nil => rfl
  | cons x s ih => simp [ih, ofBytes_split]

/-- **Encoding what was decoded from an even number of bytes gives the bytes back.** -/
theorem toBytes_decode {b : List UInt8} (h : b.length % 2 = 0) : toBytes (decode b) = b := by
  induction b using decode.induct with
  | case1 lo hi rest ih =>
      have hrest : toBytes (decode rest) = rest := ih (by simp at h; omega)
      -- the pair is recovered from the sample it stands for
      have hlo : low (ofBytes lo hi) = lo := by
        apply UInt8.toNat_inj.mp
        simp only [low, UInt8.toNat_ofNat', toNat_ofBytes]
        have := lo.toNat_lt
        omega
      have hhi : high (ofBytes lo hi) = hi := by
        apply UInt8.toNat_inj.mp
        simp only [high, UInt8.toNat_ofNat', toNat_ofBytes]
        have := lo.toNat_lt
        have := hi.toNat_lt
        omega
      simp [hrest, hlo, hhi]
  | case2 b hb =>
      rcases b with _ | ⟨x, _ | ⟨y, rest⟩⟩
      · rfl
      · simp at h
      · exact absurd rfl (hb x y rest)

/-- **The sample codec.**  Decoding a byte string gives one sample for each whole pair, sample `i`
being `b[2i] + 256 b[2i+1]`, and ignores a trailing odd byte.  Writing samples slot by slot into a
buffer that holds them and decoding the slots gives the samples back; re-encoding the samples
decoded from an even number of bytes, into a buffer at least as long, reproduces those bytes and
keeps the rest.  Writing one sample changes only the first two bytes of its slot, and it is
refused, with the slot's length named, exactly when the slot is shorter than two bytes. -/
theorem sample_codec_round_trips :
    (∀ b : List UInt8, (decode b).length = b.length / 2 ∧
      ∀ i, ((decode b)[i]?).map UInt16.toNat =
        if 2 * i + 1 < b.length then
          some ((b.getD (2 * i) 0).toNat + 256 * (b.getD (2 * i + 1) 0).toNat)
        else none) ∧
    (∀ (s : List UInt16) (buf : List UInt8), 2 * s.length ≤ buf.length →
      ∃ out, encodeSlots s buf = .ok out ∧ out.length = buf.length ∧
        decode (out.take (2 * s.length)) = s) ∧
    (∀ b buf : List UInt8, b.length % 2 = 0 → b.length ≤ buf.length →
      encodeSlots (decode b) buf = .ok (b ++ buf.drop b.length)) ∧
    (∀ (x : UInt16) (dst : List UInt8),
      (2 ≤ dst.length → ∃ out, encode x dst = .ok out ∧ out.length = dst.length ∧
        out.drop 2 = dst.drop 2 ∧ decode out = x :: decode (dst.drop 2)) ∧
      (encode x dst = .error (.invalidParam (.shortSlot dst.length)) ↔ dst.length < 2)) := by
  refine ⟨fun b => ⟨length_decode b, fun i => ?_⟩, fun s buf h => ?_, fun b buf heven hle => ?_,
    fun x dst => ⟨fun h => ?_, encode_eq_error_iff x dst⟩⟩
  · rw [getElem?_decode]
    split <;> simp [toNat_ofBytes]
  · refine ⟨_, encodeSlots_of_le s h, by simp; omega, ?_⟩
    rw [List.take_left' (length_toBytes s), ← List.append_nil (toBytes s),
      decode_toBytes_append, show decode [] = [] from rfl, List.append_nil]
  · have hlen : 2 * (decode b).length = b.length := by rw [length_decode]; omega
    rw [encodeSlots_of_le _ (by omega), toBytes_decode heven, hlen]
  · refine ⟨_, encode_of_two_le x h, by simp; omega, rfl, ?_⟩
    simp [ofBytes_split]

end Sample

end RadarIngest
