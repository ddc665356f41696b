/-!
**The staging buffer: a byte store with a head and a tail.**

The buffer is a fixed block of bytes.  The bytes from `head` to `tail` are the live data, oldest
first; the bytes from `tail` on are the spare region, which the producer writes into and `commit`
accepts.  Compaction advances the head past the bytes consumed and, once the head is past offset
zero, slides the live data back to offset zero and puts the head there: so after a compaction the
head is zero whatever it was, and no other call moves it but `clear`, which zeroes it too.
Compaction leaves the spare bytes as they were, stale copies included; only `clear` zeroes them.

Main definitions:

* `RadarIngest.Staging`, with `capacity`, `buffered`, `room`, `spare`, `live`;
* `RadarIngest.Staging.writeSpare`, `commit`, `window`, `compact`, `resetIfExhausted`, `clear`.

Main results:

* `RadarIngest.Staging.head_compact` — a compaction leaves the head at offset zero;
* `RadarIngest.Staging.live_commit` — a commit appends the first bytes of the spare region;
* `RadarIngest.Staging.live_compact` — a compaction drops bytes from the front of the live data;
* `RadarIngest.Staging.resetIfExhausted_of_pos` — a buffer of at least one byte whose head is at
  offset zero is never exhausted with nothing unread.
-/

set_option autoImplicit false

namespace RadarIngest

/-- A block of bytes whose bytes from `head` to `tail` are live. -/
structure Staging where
  bytes : List UInt8
  head : Nat
  tail : Nat
  head_le : head ≤ tail
  tail_le : tail ≤ bytes.length

namespace Staging

/-- An empty staging buffer over a block of bytes. -/
def ofBytes (bytes : List UInt8) : Staging := ⟨bytes, 0, 0, Nat.le_refl _, Nat.zero_le _⟩

/-- The size of the block. -/
def capacity (s : Staging) : Nat := s.bytes.length

/-- The number of live bytes. -/
def buffered (s : Staging) : Nat := s.tail - s.head

/-- The number of bytes that can still be appended. -/
def room (s : Staging) : Nat := s.capacity - s.tail

/-- The spare region, where the next bytes are written. -/
def spare (s : Staging) : List UInt8 := s.bytes.drop s.tail

/-- The live bytes, oldest first. -/
def live (s : Staging) : List UInt8 := (s.bytes.take s.tail).drop s.head

/-- Overwrites the spare region from its start with `data`, as far as the region reaches; the
count written is `min data.length s.room`. -/
def writeSpare (s : Staging) (data : List UInt8) : Staging :=
  let n := min data.length s.room
  ⟨s.bytes.take s.tail ++ data.take n ++ s.bytes.drop (s.tail + n), s.head, s.tail, s.head_le, by
    have := s.tail_le
    simp only [List.length_append, List.length_take, List.length_drop]
    omega⟩

/-- Accepts the first `count` spare bytes as live data; refuses, changing nothing, when `count`
exceeds the room. -/
def commit (s : Staging) (count : Nat) : Staging × Bool :=
  if h : count ≤ s.room then
    (⟨s.bytes, s.head, s.tail + count, Nat.le_add_right_of_le s.head_le, by
      simp only [room, capacity] at h; have := s.tail_le; omega⟩, true)
  else (s, false)

/-- The `len` bytes at the head, if that many are live. -/
def window (s : Staging) (len : Nat) : Option (List UInt8) :=
  if len ≤ s.buffered then some ((s.bytes.drop s.head).take len) else none

/-- Advances the head past `min consumed buffered` bytes; once it is past offset zero, moves the
bytes from the head to the tail to offset zero and puts the head there.  A head still at zero
was at zero before, and nothing moves. -/
def compact (s : Staging) (consumed : Nat) : Staging :=
  let head := s.head + min consumed s.buffered
  if head = 0 then s
  else
    ⟨(s.bytes.drop head).take (s.tail - head) ++ s.bytes.drop (s.tail - head), 0, s.tail - head,
      Nat.zero_le _, by
        have := s.tail_le
        simp only [List.length_append, List.length_take, List.length_drop]
        omega⟩

/-- Empties the buffer and zeroes every byte. -/
def clear (s : Staging) : Staging :=
  ⟨List.replicate s.capacity 0, 0, 0, Nat.le_refl _, Nat.zero_le _⟩

/-- Clears the buffer when it is filled to the end and nothing is left unread. -/
def resetIfExhausted (s : Staging) : Staging × Bool :=
  if s.tail = s.capacity ∧ s.head = s.tail then (s.clear, true) else (s, false)

/-! ### The head -/

@[simp] theorem head_ofBytes (bytes : List UInt8) : (ofBytes bytes).head = 0 := rfl

@[simp] theorem head_writeSpare (s : Staging) (data : List UInt8) :
    (s.writeSpare data).head = s.head := rfl

@[simp] theorem head_commit (s : Staging) (count : Nat) : (s.commit count).1.head = s.head := by
  unfold commit
  split <;> rfl

/-- **A compaction leaves the head at offset zero**, whatever it was: a head that the consumed
bytes leave at zero was at zero already. -/
@[simp] theorem head_compact (s : Staging) (consumed : Nat) : (s.compact consumed).head = 0 := by
  unfold compact
  dsimp only
  split
  · omega
  · rfl

@[simp] theorem head_clear (s : Staging) : s.clear.head = 0 := rfl

theorem buffered_of_head_eq_zero {s : Staging} (h : s.head = 0) : s.buffered = s.tail := by
  simp [buffered, h]

/-- With the head at offset zero the live bytes are the first `tail` bytes of the block. -/
theorem live_of_head_eq_zero {s : Staging} (h : s.head = 0) : s.live = s.bytes.take s.tail := by
  simp [live, h]

/-! ### The live bytes and the spare region -/

@[simp] theorem length_live (s : Staging) : s.live.length = s.buffered := by
  simp [live, buffered, s.tail_le]

@[simp] theorem length_spare (s : Staging) : s.spare.length = s.room := by
  simp [spare, room, capacity]

@[simp] theorem capacity_writeSpare (s : Staging) (data : List UInt8) :
    (s.writeSpare data).capacity = s.capacity := by
  have := s.tail_le
  simp only [writeSpare, capacity, room, List.length_append, List.length_take, List.length_drop]
  omega

@[simp] theorem tail_writeSpare (s : Staging) (data : List UInt8) :
    (s.writeSpare data).tail = s.tail := rfl

@[simp] theorem room_writeSpare (s : Staging) (data : List UInt8) :
    (s.writeSpare data).room = s.room := by
  simp [room]

/-- Writing into the spare region leaves the live data alone. -/
@[simp] theorem live_writeSpare (s : Staging) (data : List UInt8) :
    (s.writeSpare data).live = s.live := by
  have := s.tail_le
  simp only [live, writeSpare, List.append_assoc]
  rw [List.take_append_of_le_length (by simp; omega)]
  rw [List.take_take, Nat.min_self]

theorem commit_of_le {s : Staging} {count : Nat} (h : count ≤ s.room) :
    (s.commit count).2 = true := by
  simp [commit, h]

/-- A refused commit changes nothing. -/
theorem commit_of_lt {s : Staging} {count : Nat} (h : s.room < count) :
    s.commit count = (s, false) := by
  simp [commit, Nat.not_le.2 h]

@[simp] theorem capacity_commit (s : Staging) (count : Nat) :
    (s.commit count).1.capacity = s.capacity := by
  unfold commit
  split <;> rfl

@[simp] theorem capacity_compact (s : Staging) (consumed : Nat) :
    (s.compact consumed).capacity = s.capacity := by
  have := s.tail_le
  unfold compact
  dsimp only
  split
  · rfl
  · simp only [capacity, List.length_append, List.length_take, List.length_drop]
    omega

@[simp] theorem capacity_clear (s : Staging) : s.clear.capacity = s.capacity := by
  simp [clear, capacity]

@[simp] theorem live_clear (s : Staging) : s.clear.live = [] := by
  simp [clear, live]

/-- The window is the front of the live data. -/
theorem window_of_le {s : Staging} {len : Nat} (h : len ≤ s.buffered) :
    s.window len = some (s.live.take len) := by
  have hlen : len ≤ s.tail - s.head := h
  rw [window, if_pos h, live, List.drop_take, List.take_take, Nat.min_eq_left hlen]

theorem window_of_lt {s : Staging} {len : Nat} (h : s.buffered < len) : s.window len = none := by
  simp only [window, if_neg (Nat.not_le.2 h)]

/-- **A buffer of at least one byte whose head is at offset zero is never exhausted** with
nothing unread: that would need a tail both at the end and at the head. -/
theorem resetIfExhausted_of_pos {s : Staging} (hhead : s.head = 0) (h : 0 < s.capacity) :
    s.resetIfExhausted = (s, false) := by
  unfold resetIfExhausted
  rw [if_neg]
  rw [hhead]
  omega

theorem live_commit (s : Staging) (count : Nat) (h : count ≤ s.room) :
    (s.commit count).1.live = s.live ++ (s.spare.take count) := by
  have := s.head_le
  have := s.tail_le
  simp only [commit, h, dite_true, live, spare]
  rw [List.take_add, List.drop_append_of_le_length (by simp; omega)]

/-- A compaction drops the bytes consumed, never more than are live, from the front of the live
data: the bytes between the advanced head and the tail are the ones it moves to offset zero. -/
theorem live_compact (s : Staging) (consumed : Nat) :
    (s.compact consumed).live = s.live.drop (min consumed s.buffered) := by
  have := s.tail_le
  have := s.head_le
  unfold compact
  dsimp only
  split
  · rename_i h
    rw [show min consumed s.buffered = 0 by omega, List.drop_zero]
  · rename_i h
    simp only [live, List.drop_zero, List.drop_drop]
    -- the moved bytes are the ones past the advanced head, up to the tail
    rw [List.take_append_of_le_length (by simp; omega), List.take_take, Nat.min_self,
      List.drop_take]

/-- Compacting at most the buffered count drops exactly that many live bytes. -/
theorem live_compact_of_le {s : Staging} {consumed : Nat} (h : consumed ≤ s.buffered) :
    (s.compact consumed).live = s.live.drop consumed := by
  rw [live_compact, Nat.min_eq_left h]

end Staging

end RadarIngest
