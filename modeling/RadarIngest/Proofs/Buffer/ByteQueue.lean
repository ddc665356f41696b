import RadarIngest.Buffer.Staging

/-!
**The staging buffer is a bounded byte queue.**

A client drives a staging buffer by six calls: it writes into the spare region, commits what it
wrote, reads a window off the front, compacts the front away, resets an exhausted buffer, or clears
it.  Seen through its live bytes `L` (the bytes from the head to the tail), a buffer is a queue of
at most `capacity` bytes: a commit appends the first bytes of the spare region when they fit and
changes nothing otherwise, a window is a prefix of `L`, a compaction drops a prefix of `L` (never
more than there is) and keeps the rest in order, and a clear empties it and zeroes every byte.

A new buffer has its head at offset zero, and no call moves it anywhere else: a compaction that
advances it slides the live data back and resets it, and only a clear sets it otherwise, to zero.
So the live data of a buffer driven from its start is the first `tail` bytes of the block.  No call
changes the size of the block either, so a buffer built over `v` keeps `|v|` bytes whatever is done
to it.  Its exhausted reset, which needs a tail at the end of the block and at the head, can then
fire only on a block of no bytes.

Main definitions:

* `RadarIngest.Staging.Call`, `RadarIngest.Staging.perform`, `RadarIngest.Staging.performAll` —
  calls on a staging buffer;
* `RadarIngest.Staging.QueueLaws` — what each call does to the live bytes.

Main results:

* `RadarIngest.Staging.capacity_performAll` — no sequence of calls changes the size of the block;
* `RadarIngest.Staging.head_performAll` — no sequence of calls moves the head off offset zero;
* `RadarIngest.Staging.queueLaws` — every buffer with its head at offset zero obeys the queue
  laws;
* `RadarIngest.Staging.staging_is_bounded_queue` — **a buffer built over any bytes stays a
  bounded byte queue of their length under any calls**.
-/

set_option autoImplicit false

namespace RadarIngest

namespace Staging

/-! ### Calls on a buffer -/

/-- The calls a client makes on a staging buffer. -/
inductive Call where
  /-- Writes bytes at the start of the spare region, as far as it reaches. -/
  | write (data : List UInt8)
  | commit (count : Nat)
  | window (len : Nat)
  | compact (consumed : Nat)
  | resetIfExhausted
  | clear
  deriving DecidableEq, Repr

/-- The buffer after a call; reading a window changes nothing. -/
def perform (s : Staging) : Call → Staging
  | .write data => s.writeSpare data
  | .commit count => (s.commit count).1
  | .window _ => s
  | .compact consumed => s.compact consumed
  | .resetIfExhausted => s.resetIfExhausted.1
  | .clear => s.clear

/-- The buffer after a sequence of calls. -/
def performAll (s : Staging) (calls : List Call) : Staging := calls.foldl perform s

@[simp] theorem performAll_nil (s : Staging) : s.performAll [] = s := rfl

@[simp] theorem performAll_cons (s : Staging) (c : Call) (calls : List Call) :
    s.performAll (c :: calls) = (s.perform c).performAll calls := rfl

@[simp] theorem capacity_ofBytes (bytes : List UInt8) : (ofBytes bytes).capacity = bytes.length :=
  rfl

@[simp] theorem bytes_commit (s : Staging) (count : Nat) : (s.commit count).1.bytes = s.bytes := by
  unfold commit
  split <;> rfl

@[simp] theorem bytes_clear (s : Staging) : s.clear.bytes = List.replicate s.capacity 0 := rfl

@[simp] theorem capacity_resetIfExhausted (s : Staging) :
    s.resetIfExhausted.1.capacity = s.capacity := by
  unfold resetIfExhausted
  split
  · exact capacity_clear s
  · rfl

/-- **No call changes the size of the block.** -/
@[simp] theorem capacity_perform (s : Staging) (c : Call) :
    (s.perform c).capacity = s.capacity := by
  cases c <;> simp [perform]

/-- No sequence of calls changes the size of the block. -/
theorem capacity_performAll (s : Staging) (calls : List Call) :
    (s.performAll calls).capacity = s.capacity := by
  induction calls generalizing s with
  | nil => rfl
  | cons c calls ih => rw [performAll_cons, ih, capacity_perform]

/-- **No call moves the head off offset zero**: a compaction and a clear put it there, and the
other calls leave it where it is. -/
theorem head_perform {s : Staging} (h : s.head = 0) (c : Call) : (s.perform c).head = 0 := by
  cases c with
  | resetIfExhausted =>
      show s.resetIfExhausted.1.head = 0
      unfold resetIfExhausted
      split
      · exact head_clear s
      · exact h
  | write data => rwa [perform, head_writeSpare]
  | commit count => rwa [perform, head_commit]
  | window len => exact h
  | compact consumed => exact head_compact s consumed
  | clear => exact head_clear s

/-- No sequence of calls moves the head off offset zero. -/
theorem head_performAll {s : Staging} (h : s.head = 0) (calls : List Call) :
    (s.performAll calls).head = 0 := by
  induction calls generalizing s with
  | nil => exact h
  | cons c calls ih => exact ih (head_perform h c)

/-! ### The laws of each call -/

/-- A write fills the spare region from its start with as much of the data as fits, and keeps the
rest of the region. -/
theorem spare_writeSpare (s : Staging) (data : List UInt8) :
    (s.writeSpare data).spare = data.take s.room ++ s.spare.drop data.length := by
  have htail := s.tail_le
  have hlen : (s.bytes.take s.tail).length = s.tail := by simp; omega
  simp only [spare, writeSpare, List.append_assoc]
  rw [List.drop_append_of_le_length (by omega), List.drop_of_length_le (by omega), List.nil_append,
    List.drop_drop]
  -- the data is cut at the room; what follows it is the old region past the data, if any
  by_cases hfit : data.length ≤ s.room
  · rw [Nat.min_eq_left hfit, List.take_length, List.take_of_length_le hfit]
  · have hend : s.bytes.length ≤ s.tail + s.room := by simp only [room, capacity]; omega
    have hpast : s.bytes.length ≤ s.tail + data.length := by
      simp only [room, capacity] at hfit
      omega
    rw [Nat.min_eq_right (by omega), List.drop_of_length_le hend, List.drop_of_length_le hpast]

/-- A buffer whose block has no bytes is always exhausted. -/
theorem resetIfExhausted_of_capacity_eq_zero {s : Staging} (h : s.capacity = 0) :
    s.resetIfExhausted = (s.clear, true) := by
  have htail : s.tail = 0 := by have := s.tail_le; simp only [capacity] at h; omega
  have hhead : s.head = 0 := by have := s.head_le; omega
  unfold resetIfExhausted
  rw [if_pos ⟨by rw [htail, h], by rw [hhead, htail]⟩]

/-- **What each call does to a buffer `s`**, seen through its live bytes `L`: the bytes before the
tail, starting at offset zero. -/
structure QueueLaws (s : Staging) : Prop where
  head_eq_zero : s.head = 0
  tail_le : s.tail ≤ s.capacity
  live_eq : s.live = s.bytes.take s.tail
  /-- A write keeps `L` and puts the data at the start of the spare region, as far as it fits. -/
  write : ∀ data, (s.writeSpare data).live = s.live ∧
    (s.writeSpare data).spare = data.take (s.capacity - s.tail) ++ s.spare.drop data.length
  /-- A commit succeeds exactly when the count fits the room, and then appends the bytes that stand
  at the tail, without moving any. -/
  commit_iff : ∀ n, (s.commit n).2 = true ↔ n ≤ s.capacity - s.tail
  commit_appends : ∀ n, n ≤ s.capacity - s.tail →
    (s.commit n).1.live = s.live ++ (s.bytes.drop s.tail).take n ∧ (s.commit n).1.bytes = s.bytes
  /-- A refused commit changes nothing. -/
  commit_refused : ∀ n, s.capacity - s.tail < n → s.commit n = (s, false)
  window : ∀ len, s.window len = if len ≤ s.live.length then some (s.live.take len) else none
  /-- A compaction drops the first `min k |L|` bytes of `L` and keeps the rest in order. -/
  compact : ∀ k, (s.compact k).live = s.live.drop (min k s.live.length)
  clear : s.clear.live = [] ∧ s.clear.bytes = List.replicate s.capacity 0
  /-- The exhausted reset fires, and clears, exactly on a block of no bytes. -/
  reset : s.resetIfExhausted = if s.capacity = 0 then (s.clear, true) else (s, false)

/-- **Every buffer with its head at offset zero obeys the queue laws.** -/
theorem queueLaws {s : Staging} (hhead : s.head = 0) : s.QueueLaws where
  head_eq_zero := hhead
  tail_le := s.tail_le
  live_eq := live_of_head_eq_zero hhead
  write data := ⟨live_writeSpare s data, spare_writeSpare s data⟩
  commit_iff n := by
    constructor
    · intro h
      refine Nat.le_of_not_lt fun hlt => ?_
      rw [commit_of_lt hlt] at h
      cases h
    · exact fun h => commit_of_le h
  commit_appends n h := ⟨live_commit s n h, bytes_commit s n⟩
  commit_refused n h := commit_of_lt h
  window len := by
    rw [length_live]
    by_cases h : len ≤ s.buffered
    · rw [if_pos h, window_of_le h]
    · rw [if_neg h, window_of_lt (Nat.lt_of_not_le h)]
  compact k := by rw [live_compact, length_live]
  clear := ⟨live_clear s, bytes_clear s⟩
  reset := by
    by_cases h : s.capacity = 0
    · rw [if_pos h, resetIfExhausted_of_capacity_eq_zero h]
    · rw [if_neg h, resetIfExhausted_of_pos hhead (Nat.pos_of_ne_zero h)]

/-- **The staging buffer is a bounded byte queue.**  Build a buffer over any bytes `v` and make any
sequence of calls on it.  Afterwards the head is at offset zero, so the live bytes `L` are the bytes
before the tail; the tail lies within the block, and the block still has `|v|` bytes; and each next
call does to `L` what a bounded queue does.  A write keeps `L`.  A commit of `n` bytes succeeds exactly when `n` fits the
room, and then appends the `n` bytes at the tail; otherwise it changes nothing.  A window of `len`
bytes is the first `len` bytes of `L`, given exactly when `L` has that many.  A compaction of `k`
bytes drops the first `min k |L|` bytes and keeps the rest in order.  A clear empties `L` and zeroes
every byte.  The exhausted reset fires, and clears, exactly when `v` is empty. -/
theorem staging_is_bounded_queue (v : List UInt8) (calls : List Call) :
    let s := (ofBytes v).performAll calls
    s.capacity = v.length ∧ s.QueueLaws := by
  intro s
  exact ⟨capacity_performAll _ calls, queueLaws (head_performAll (head_ofBytes v) calls)⟩

/-- A compaction of four bytes keeps the three unread bytes of seven, at the front. -/
example :
    ((ofBytes (List.replicate 12 0)).performAll
      [.write [1, 2, 3, 4, 5, 6, 7], .commit 7, .compact 4]).live = [5, 6, 7] := by
  decide

end Staging

end RadarIngest
