import Shoes.Wire

/-!
# Slide buffers

`SlideBuffer` of `slide_buffer.rs`: a buffer of fixed capacity whose data runs from a start
offset to an end offset. Data is written at the end and consumed from the front; the space
consumed at the front is given back to the end only when the buffer is compacted, which moves
the data to offset 0. `maybe_compact` compacts only when more than a threshold has been
consumed, so the room at the end depends on how much was consumed before.

The model keeps the data itself rather than the whole backing array, with the invariant that it
ends within the capacity, so that `remaining_capacity` never underflows.
-/

namespace Shoes

open Wire

/-- `SlideBuffer`: its capacity, the start offset, and the data from there to the end offset. -/
structure SlideBuffer where
  capacity : Nat
  start : Nat
  data : List UInt8
  within : start + data.length ≤ capacity

namespace SlideBuffer

def new (capacity : Nat) : SlideBuffer :=
  ⟨capacity, 0, [], by simp⟩

/-- The end offset. -/
def endOffset (buffer : SlideBuffer) : Nat :=
  buffer.start + buffer.data.length

/-- `remaining_capacity`: the space after the end offset. -/
def remainingCapacity (buffer : SlideBuffer) : Nat :=
  buffer.capacity - buffer.endOffset

/-- `advance_write` of the bytes a read put into `write_slice`, which has room for
`remaining_capacity` bytes. -/
def advanceWrite (buffer : SlideBuffer) (bytes : List UInt8)
    (room : bytes.length ≤ buffer.remainingCapacity) : SlideBuffer :=
  ⟨buffer.capacity, buffer.start, buffer.data ++ bytes, by
    have fits := buffer.within
    simp only [remainingCapacity, endOffset] at room
    simp only [List.length_append]
    omega⟩

/-- `extend_from_slice`: the bytes are copied into the space at the end. -/
def extendFromSlice (buffer : SlideBuffer) (bytes : List UInt8)
    (room : bytes.length ≤ buffer.remainingCapacity) : SlideBuffer :=
  buffer.advanceWrite bytes room

/-- `consume`: the start moves past `count` bytes, and both offsets go back to 0 when no data is
left. -/
def consume (buffer : SlideBuffer) (count : Nat) : SlideBuffer :=
  if drained : buffer.endOffset ≤ buffer.start + count then ⟨buffer.capacity, 0, [], by simp⟩
  else
    ⟨buffer.capacity, buffer.start + count, buffer.data.drop count, by
      have fits := buffer.within
      simp only [endOffset] at drained
      simp only [List.length_drop]
      omega⟩

/-- `compact`: the data moves to offset 0, and an empty buffer goes back to offset 0. -/
def compact (buffer : SlideBuffer) : SlideBuffer :=
  if 0 < buffer.start ∧ buffer.start < buffer.endOffset then
    ⟨buffer.capacity, 0, buffer.data, by have fits := buffer.within; omega⟩
  else if buffer.endOffset ≤ buffer.start then ⟨buffer.capacity, 0, [], by simp⟩
  else buffer

/-- `maybe_compact`: compaction once more than `threshold` bytes have been consumed. -/
def maybeCompact (buffer : SlideBuffer) (threshold : Nat) : SlideBuffer :=
  if threshold < buffer.start then buffer.compact else buffer

@[simp] theorem data_new (capacity : Nat) : (new capacity).data = [] :=
  rfl

@[simp] theorem capacity_advanceWrite (buffer : SlideBuffer) (bytes : List UInt8)
    (room : bytes.length ≤ buffer.remainingCapacity) :
    (buffer.advanceWrite bytes room).capacity = buffer.capacity :=
  rfl

@[simp] theorem data_advanceWrite (buffer : SlideBuffer) (bytes : List UInt8)
    (room : bytes.length ≤ buffer.remainingCapacity) :
    (buffer.advanceWrite bytes room).data = buffer.data ++ bytes :=
  rfl

@[simp] theorem start_advanceWrite (buffer : SlideBuffer) (bytes : List UInt8)
    (room : bytes.length ≤ buffer.remainingCapacity) :
    (buffer.advanceWrite bytes room).start = buffer.start :=
  rfl

theorem consume_data (buffer : SlideBuffer) (count : Nat) :
    (buffer.consume count).capacity = buffer.capacity ∧
      (buffer.consume count).data = buffer.data.drop count := by
  unfold consume
  split_ifs with drained
  · simp only [endOffset] at drained
    exact ⟨rfl, (List.drop_eq_nil_of_le (by omega)).symm⟩
  · exact ⟨rfl, rfl⟩

theorem consume_start {buffer : SlideBuffer} {count : Nat} (inside : count < buffer.data.length) :
    (buffer.consume count).start = buffer.start + count := by
  unfold consume
  rw [dif_neg (by simp only [endOffset]; omega)]

theorem compact_data (buffer : SlideBuffer) :
    buffer.compact.capacity = buffer.capacity ∧ buffer.compact.data = buffer.data ∧
      buffer.compact.start = 0 := by
  have fits := buffer.within
  unfold compact
  split_ifs with moved drained
  · exact ⟨rfl, rfl, rfl⟩
  · simp only [endOffset] at drained
    exact ⟨rfl, (List.eq_nil_of_length_eq_zero (by omega)).symm, rfl⟩
  · simp only [endOffset, not_and, not_lt, not_le] at moved drained
    exact ⟨rfl, rfl, by omega⟩

theorem maybeCompact_of_le {buffer : SlideBuffer} {threshold : Nat} (below : buffer.start ≤ threshold) :
    buffer.maybeCompact threshold = buffer :=
  if_neg (Nat.not_lt.mpr below)

theorem maybeCompact_data (buffer : SlideBuffer) (threshold : Nat) :
    (buffer.maybeCompact threshold).capacity = buffer.capacity ∧
      (buffer.maybeCompact threshold).data = buffer.data ∧
      (buffer.maybeCompact threshold).start ≤ threshold := by
  by_cases past : threshold < buffer.start
  · obtain ⟨capacity, data, start⟩ := compact_data buffer
    simp only [maybeCompact, if_pos past]
    exact ⟨capacity, data, by omega⟩
  · rw [maybeCompact_of_le (Nat.not_lt.mp past)]
    exact ⟨rfl, rfl, Nat.not_lt.mp past⟩

end SlideBuffer

end Shoes
