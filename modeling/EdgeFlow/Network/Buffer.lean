import EdgeFlow.Library.Bytes

/-! `network::Buffer`: a vector of which the bytes between two indices are readable. -/

set_option autoImplicit false

namespace EdgeFlow.Network
open Library

/-! ## Vectors -/

/-- `std::copy` of `data` to an offset inside the vector. -/
def overwrite (vector : Bytes) (offset : Nat) (data : Bytes) : Bytes :=
  vector.take offset ++ (data ++ vector.drop (offset + data.length))

/-- `std::vector::resize` -/
def resize (vector : Bytes) (size : Nat) : Bytes := vector.take size ++ List.replicate (size - vector.length) 0

/-- The bytes from one index up to another. -/
def slice (vector : Bytes) (first last : Nat) : Bytes := (vector.take last).drop first

section
variable {vector data : Bytes} {offset first last size : Nat}

theorem overwrite_length (inside : offset + data.length ≤ vector.length) :
    (overwrite vector offset data).length = vector.length := by
  simp only [overwrite, List.length_append, List.length_take, List.length_drop]
  omega

theorem resize_length : (resize vector size).length = size := by
  simp only [resize, List.length_append, List.length_take, List.length_replicate]
  omega

theorem slice_length (inside : last ≤ vector.length) : (slice vector first last).length = last - first := by
  rw [slice, List.length_drop, List.length_take, Nat.min_eq_left inside]

/-- What was written stands at its offset. -/
theorem slice_overwrite (inside : offset + data.length ≤ vector.length) :
    slice (overwrite vector offset data) offset (offset + data.length) = data := by
  have before : (vector.take offset).length = offset := by
    rw [List.length_take]
    omega
  rw [slice, overwrite, ← List.append_assoc, List.take_left' (by rw [List.length_append, before])]
  exact List.drop_left' before

/-- What stands before the offset stays. -/
theorem slice_overwrite_before (inside : offset ≤ vector.length) (before : last ≤ offset) :
    slice (overwrite vector offset data) first last = slice vector first last := by
  have length : last ≤ (vector.take offset).length := by
    rw [List.length_take]
    omega
  rw [slice, overwrite, List.take_append_of_le_length length, List.take_take, Nat.min_eq_left before, slice]

/-- What stands behind what was written stays. -/
theorem slice_overwrite_behind (inside : offset + data.length ≤ vector.length) (behind : offset + data.length ≤ first) :
    slice (overwrite vector offset data) first last = slice vector first last := by
  have length : (vector.take offset ++ data).length = offset + data.length := by
    rw [List.length_append, List.length_take]
    omega
  have rest : (overwrite vector offset data).drop first = vector.drop first := by
    rw [overwrite, ← List.append_assoc, List.drop_append, List.drop_of_length_le (by omega), List.nil_append, length,
      List.drop_drop, Nat.add_sub_cancel' behind]
  rw [slice, slice, List.drop_take, List.drop_take, rest]

theorem slice_resize (inside : last ≤ vector.length) (grows : vector.length ≤ size) :
    slice (resize vector size) first last = slice vector first last := by
  rw [slice, resize, List.take_of_length_le grows, List.take_append_of_le_length inside, slice]

theorem slice_append {middle : Nat} (ordered : first ≤ middle) (inside : middle ≤ last)
    (bounded : last ≤ vector.length) : slice vector first middle ++ slice vector middle last =
      slice vector first last := by
  have parts : vector.take last = vector.take middle ++ (vector.take last).drop middle := by
    conv_lhs => rw [← List.take_append_drop middle (vector.take last)]
    rw [List.take_take, Nat.min_eq_left inside]
  have length : first ≤ (vector.take middle).length := by
    rw [List.length_take]
    omega
  rw [slice, slice, slice, ← List.drop_append_of_le_length length, ← parts]

end

/-! ## Buffers -/

def kCheapPrepend : Nat := 8
def kInitialSize : Nat := 1024 * 4

structure Buffer where
  buffer : Bytes
  readerIndex : Nat
  writerIndex : Nat
  ordered : readerIndex ≤ writerIndex
  bounded : writerIndex ≤ buffer.length
  prepends : kCheapPrepend ≤ buffer.length

namespace Buffer

def empty : Buffer where
  buffer := List.replicate (kCheapPrepend + kInitialSize) 0
  readerIndex := kCheapPrepend
  writerIndex := kCheapPrepend
  ordered := Nat.le_refl _
  bounded := by simp
  prepends := by simp

variable (b : Buffer)

def readableBytes : Nat := b.writerIndex - b.readerIndex

def writableBytes : Nat := b.buffer.length - b.writerIndex

def prependableBytes : Nat := b.readerIndex

/-- The bytes that `peek` and `readableBytes` give access to. -/
def readable : Bytes := slice b.buffer b.readerIndex b.writerIndex

def retrieveAll : Buffer where
  buffer := b.buffer
  readerIndex := kCheapPrepend
  writerIndex := kCheapPrepend
  ordered := Nat.le_refl _
  bounded := b.prepends
  prepends := b.prepends

/-- Callers retrieve no more than is readable. -/
def retrieve (len : Nat) : Buffer :=
  if less : len < b.readableBytes then
    { b with
      readerIndex := b.readerIndex + len
      ordered := by unfold readableBytes at less; omega }
  else b.retrieveAll

/-- Makes room for `len` bytes, of which there are fewer. -/
def makeSpace (len : Nat) (short : b.writableBytes < len) : Buffer :=
  if grow : b.writableBytes + b.prependableBytes < len + kCheapPrepend then
    { b with
      buffer := resize b.buffer (b.writerIndex + len)
      bounded := by rw [resize_length]; omega
      prepends := by
        have := b.prepends
        have := b.bounded
        unfold writableBytes at short
        rw [resize_length]
        omega }
  else
    -- the readable bytes move to the front
    have room : kCheapPrepend + b.readable.length ≤ b.buffer.length := by
      have := b.ordered
      have := b.bounded
      unfold writableBytes prependableBytes at grow
      unfold writableBytes at short
      rw [readable, slice_length b.bounded]
      omega
    { buffer := overwrite b.buffer kCheapPrepend b.readable
      readerIndex := kCheapPrepend
      writerIndex := kCheapPrepend + b.readable.length
      ordered := Nat.le_add_right _ _
      bounded := by rw [overwrite_length room]; exact room
      prepends := by rw [overwrite_length room]; exact b.prepends }

def ensureWritableBytes (len : Nat) : Buffer :=
  if short : b.writableBytes < len then b.makeSpace len short else b

theorem ensureWritableBytes_room (len : Nat) : len ≤ (b.ensureWritableBytes len).writableBytes := by
  unfold ensureWritableBytes
  split
  · next short =>
    unfold makeSpace
    split
    · simp only [writableBytes, resize_length]
      omega
    · next grow =>
      have := b.ordered
      have := b.bounded
      unfold writableBytes prependableBytes at grow
      unfold writableBytes at short
      have length : b.readable.length = b.writerIndex - b.readerIndex := slice_length b.bounded
      have room : kCheapPrepend + b.readable.length ≤ b.buffer.length := by omega
      simp only [writableBytes, overwrite_length room]
      omega
  · omega

/-- `std::copy` to `beginWrite` and `hasWritten`. -/
def write (data : Bytes) (enough : data.length ≤ b.writableBytes) : Buffer :=
  have room : b.writerIndex + data.length ≤ b.buffer.length := by
    have := b.bounded
    unfold writableBytes at enough
    omega
  { buffer := overwrite b.buffer b.writerIndex data
    readerIndex := b.readerIndex
    writerIndex := b.writerIndex + data.length
    ordered := Nat.le_trans b.ordered (Nat.le_add_right _ _)
    bounded := by rw [overwrite_length room]; exact room
    prepends := by rw [overwrite_length room]; exact b.prepends }

def append (data : Bytes) : Buffer :=
  (b.ensureWritableBytes data.length).write data (b.ensureWritableBytes_room data.length)

/-! ## What is readable -/

@[simp] theorem readable_empty : empty.readable = [] := by
  have none : empty.readable.length = 0 := slice_length empty.bounded
  exact List.eq_nil_of_length_eq_zero none

theorem readable_length : b.readable.length = b.readableBytes := slice_length b.bounded

@[simp] theorem readable_retrieveAll : b.retrieveAll.readable = [] := by
  have none : b.retrieveAll.readable.length = 0 := by
    rw [readable_length]
    exact Nat.sub_self _
  exact List.eq_nil_of_length_eq_zero none

theorem readable_retrieve {len : Nat} (within : len ≤ b.readableBytes) :
    (b.retrieve len).readable = b.readable.drop len := by
  unfold retrieve
  split
  · simp only [readable, slice, List.drop_drop]
  · next all =>
    have same : len = b.readable.length := by
      rw [readable_length]
      omega
    rw [readable_retrieveAll, same, List.drop_length]

theorem readable_ensureWritableBytes (len : Nat) : (b.ensureWritableBytes len).readable = b.readable := by
  unfold ensureWritableBytes
  split
  · next short =>
    unfold makeSpace
    split
    · next grow =>
      have grows : b.buffer.length ≤ b.writerIndex + len := by
        unfold writableBytes at short
        omega
      exact slice_resize b.bounded grows
    · next grow =>
      have := b.ordered
      have := b.bounded
      unfold writableBytes prependableBytes at grow
      unfold writableBytes at short
      have length : b.readable.length = b.writerIndex - b.readerIndex := slice_length b.bounded
      exact slice_overwrite (by omega)
  · rfl

theorem readable_write {data : Bytes} (enough : data.length ≤ b.writableBytes) :
    (b.write data enough).readable = b.readable ++ data := by
  have bounded := b.bounded
  have room : b.writerIndex + data.length ≤ b.buffer.length := by
    unfold writableBytes at enough
    omega
  have length := overwrite_length room
  have joined := slice_append b.ordered (Nat.le_add_right b.writerIndex data.length)
    (Nat.le_trans room (Nat.le_of_eq length.symm))
  rw [slice_overwrite_before bounded (Nat.le_refl _), slice_overwrite room] at joined
  exact joined.symm

theorem readable_append (data : Bytes) : (b.append data).readable = b.readable ++ data := by
  rw [append, readable_write, readable_ensureWritableBytes]

end Buffer

end EdgeFlow.Network
