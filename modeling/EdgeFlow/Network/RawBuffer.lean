import EdgeFlow.Library.Run
import EdgeFlow.Library.Wave
import EdgeFlow.Network.Buffer

/-! `network::Buffer` with its assertions, and the queue of bytes that it is.

Here the indices are plain numbers, and sums and differences of them wrap around as those of `size_t` do. A call ends in
the first assertion that fails. The machine has the memory that a vector may ask for.
-/

set_option autoImplicit false

namespace EdgeFlow.Network
open Library Library.Wave

/-- The assertions of `Buffer.h`, by the function that they are in. -/
inductive Assertion where
  | constructor
  | retrieve
  | retrieveAsString
  | makeSpace
  | ensureWritableBytes
  | hasWritten
  | unwrite
  | peekInt
  | prepend
  deriving DecidableEq, Repr

/-! ## Integers -/

inductive IntWidth where
  | int8
  | int16
  | int32
  | int64
  deriving DecidableEq, Repr

/-- `sizeof` -/
def IntWidth.size : IntWidth → Nat
  | .int8 => 1
  | .int16 => 2
  | .int32 => 4
  | .int64 => 8

/-- The bytes of `hostToNetwork` in memory, the most significant one in front. -/
def hostToNetwork {width : IntWidth} (x : BitVec (8 * width.size)) : Bytes := (le width.size x.toNat).reverse

def networkToHost (width : IntWidth) (bytes : Bytes) : BitVec (8 * width.size) := BitVec.ofNat _ (leValue bytes.reverse)

@[simp] theorem length_hostToNetwork {width : IntWidth} (x : BitVec (8 * width.size)) :
    (hostToNetwork x).length = width.size := by
  rw [hostToNetwork, List.length_reverse, length_le]

/-- A `size_t` has 64 bits. -/
def sizeRange : Nat := 2 ^ 64

def plus (a b : Nat) : Nat := (a + b) % sizeRange

def minus (a b : Nat) : Nat := (a + (sizeRange - b)) % sizeRange

/-- `max_size` of a `std::vector<char>` -/
def maxSize : Nat := 2 ^ 63 - 1

theorem plus_eq {a b : Nat} (fits : a + b < sizeRange) : plus a b = a + b := Nat.mod_eq_of_lt fits

theorem minus_eq {a b : Nat} (less : b ≤ a) (fits : a < sizeRange) : minus a b = a - b := by
  unfold minus
  unfold sizeRange at fits ⊢
  omega

/-! ## The functions -/

structure RawBuffer where
  buffer : Bytes
  readerIndex : Nat
  writerIndex : Nat
  deriving DecidableEq

/-- How a call does not return. -/
inductive CallFailure (Left : Type) where
  | assertion (failed : Assertion)
  /-- `std::length_error` of the vector, and what is left behind it -/
  | lengthError (left : Left)
  deriving DecidableEq

/-- `sizeof extrabuf` -/
def extraSize : Nat := 1024 * 1024

namespace RawBuffer

section
variable (b : RawBuffer)

def readableBytes : Nat := minus b.writerIndex b.readerIndex

def writableBytes : Nat := minus b.buffer.length b.writerIndex

def prependableBytes : Nat := b.readerIndex

/-- The constructor. -/
def construct (initialSize : Nat) : Except (CallFailure Unit) RawBuffer :=
  let size := plus kCheapPrepend initialSize
  if maxSize < size then .error (.lengthError ())
  else
    let b : RawBuffer := ⟨List.replicate size 0, kCheapPrepend, kCheapPrepend⟩
    if b.readableBytes = 0 ∧ b.writableBytes = initialSize ∧ b.prependableBytes = kCheapPrepend then .ok b
    else .error (.assertion .constructor)

def retrieveAll : RawBuffer := { b with readerIndex := kCheapPrepend, writerIndex := kCheapPrepend }

def retrieve (len : Nat) : Except (CallFailure RawBuffer) RawBuffer :=
  if len ≤ b.readableBytes then
    if len < b.readableBytes then .ok { b with readerIndex := plus b.readerIndex len } else .ok b.retrieveAll
  else .error (.assertion .retrieve)

def retrieveAsString (len : Nat) : Except (CallFailure RawBuffer) (RawBuffer × Bytes) :=
  if len ≤ b.readableBytes then do .ok (← b.retrieve len, slice b.buffer b.readerIndex (b.readerIndex + len))
  else .error (.assertion .retrieveAsString)

def makeSpace (len : Nat) : Except (CallFailure RawBuffer) RawBuffer :=
  if plus b.writableBytes b.prependableBytes < plus len kCheapPrepend then
    let size := plus b.writerIndex len
    if maxSize < size then .error (.lengthError b) else .ok { b with buffer := resize b.buffer size }
  else if kCheapPrepend < b.readerIndex then
    let readable := b.readableBytes
    let moved : RawBuffer :=
      ⟨overwrite b.buffer kCheapPrepend (slice b.buffer b.readerIndex b.writerIndex), kCheapPrepend,
        plus kCheapPrepend readable⟩
    if readable = moved.readableBytes then .ok moved else .error (.assertion .makeSpace)
  else .error (.assertion .makeSpace)

def ensureWritableBytes (len : Nat) : Except (CallFailure RawBuffer) RawBuffer := do
  let b ← if b.writableBytes < len then b.makeSpace len else .ok b
  if len ≤ b.writableBytes then .ok b else .error (.assertion .ensureWritableBytes)

def hasWritten (len : Nat) : Except (CallFailure RawBuffer) RawBuffer :=
  if len ≤ b.writableBytes then .ok { b with writerIndex := plus b.writerIndex len }
  else .error (.assertion .hasWritten)

def append (data : Bytes) : Except (CallFailure RawBuffer) RawBuffer := do
  let b ← b.ensureWritableBytes data.length
  { b with buffer := overwrite b.buffer b.writerIndex data }.hasWritten data.length

def unwrite (len : Nat) : Except (CallFailure RawBuffer) RawBuffer :=
  if len ≤ b.readableBytes then .ok { b with writerIndex := minus b.writerIndex len }
  else .error (.assertion .unwrite)

def prepend (data : Bytes) : Except (CallFailure RawBuffer) RawBuffer :=
  if data.length ≤ b.prependableBytes then
    let readerIndex := minus b.readerIndex data.length
    .ok { b with readerIndex, buffer := overwrite b.buffer readerIndex data }
  else .error (.assertion .prepend)

section
variable (width : IntWidth)

def appendInt (x : BitVec (8 * width.size)) : Except (CallFailure RawBuffer) RawBuffer := b.append (hostToNetwork x)

def prependInt (x : BitVec (8 * width.size)) : Except (CallFailure RawBuffer) RawBuffer := b.prepend (hostToNetwork x)

def peekInt : Except (CallFailure RawBuffer) (BitVec (8 * width.size)) :=
  if width.size ≤ b.readableBytes then
    .ok (networkToHost width (slice b.buffer b.readerIndex (b.readerIndex + width.size)))
  else .error (.assertion .peekInt)

def readInt : Except (CallFailure RawBuffer) (RawBuffer × BitVec (8 * width.size)) := do
  let result ← b.peekInt width
  .ok (← b.retrieve width.size, result)

end

def appendInt8 (x : BitVec 8) : Except (CallFailure RawBuffer) RawBuffer := b.appendInt .int8 x
def appendInt16 (x : BitVec 16) : Except (CallFailure RawBuffer) RawBuffer := b.appendInt .int16 x
def appendInt32 (x : BitVec 32) : Except (CallFailure RawBuffer) RawBuffer := b.appendInt .int32 x
def appendInt64 (x : BitVec 64) : Except (CallFailure RawBuffer) RawBuffer := b.appendInt .int64 x
def prependInt8 (x : BitVec 8) : Except (CallFailure RawBuffer) RawBuffer := b.prependInt .int8 x
def prependInt16 (x : BitVec 16) : Except (CallFailure RawBuffer) RawBuffer := b.prependInt .int16 x
def prependInt32 (x : BitVec 32) : Except (CallFailure RawBuffer) RawBuffer := b.prependInt .int32 x
def prependInt64 (x : BitVec 64) : Except (CallFailure RawBuffer) RawBuffer := b.prependInt .int64 x
def readInt8 : Except (CallFailure RawBuffer) (RawBuffer × BitVec 8) := b.readInt .int8
def readInt16 : Except (CallFailure RawBuffer) (RawBuffer × BitVec 16) := b.readInt .int16
def readInt32 : Except (CallFailure RawBuffer) (RawBuffer × BitVec 32) := b.readInt .int32
def readInt64 : Except (CallFailure RawBuffer) (RawBuffer × BitVec 64) := b.readInt .int64

/-- What the `iovec`s of `readFd` have room for: the free bytes, and the side buffer unless they are more. -/
def iovecBytes : Nat := b.writableBytes + if b.writableBytes < extraSize then extraSize else 0

/-- `readFd`: what `readv` delivers is `none` when it fails. -/
def readFd (delivered : Option Bytes) : Except (CallFailure RawBuffer) (RawBuffer × Option Nat) :=
  match delivered with
  | none => .ok (b, none)
  | some bytes =>
    let n := bytes.length
    let writable := b.writableBytes
    -- `readv` has filled the free bytes before it went on to the side buffer
    let filled := overwrite b.buffer b.writerIndex (bytes.take writable)
    if n ≤ writable then .ok ({ b with buffer := filled, writerIndex := plus b.writerIndex n }, some n)
    else do
      let full : RawBuffer := { b with buffer := filled, writerIndex := filled.length }
      .ok (← full.append (bytes.drop writable), some n)

end

/-! ## Calls -/

inductive Call where
  | append (data : Bytes)
  | prepend (data : Bytes)
  | retrieve (len : Nat)
  | retrieveAsString (len : Nat)
  | unwrite (len : Nat)
  | ensureWritableBytes (len : Nat)
  | appendInt (width : IntWidth) (x : BitVec (8 * width.size))
  | prependInt (width : IntWidth) (x : BitVec (8 * width.size))
  | readInt (width : IntWidth)
  | readFd (delivered : Option Bytes)

/-- What a call returns, or throws. -/
inductive Returned where
  | void
  | string (s : Bytes)
  | int (width : IntWidth) (x : BitVec (8 * width.size))
  | count (n : Option Nat)
  | lengthError
  deriving DecidableEq

def returns {A : Type} (wrap : A → Returned) :
    Except (CallFailure RawBuffer) (RawBuffer × A) → Except Assertion (RawBuffer × Returned)
  | .ok (b, value) => .ok (b, wrap value)
  | .error (.assertion failed) => .error failed
  | .error (.lengthError left) => .ok (left, .lengthError)

def void : Except (CallFailure RawBuffer) RawBuffer → Except Assertion (RawBuffer × Returned)
  | .ok b => .ok (b, .void)
  | .error (.assertion failed) => .error failed
  | .error (.lengthError left) => .ok (left, .lengthError)

def perform (b : RawBuffer) : Call → Except Assertion (RawBuffer × Returned)
  | .append data => void (b.append data)
  | .prepend data => void (b.prepend data)
  | .retrieve len => void (b.retrieve len)
  | .retrieveAsString len => returns .string (b.retrieveAsString len)
  | .unwrite len => void (b.unwrite len)
  | .ensureWritableBytes len => void (b.ensureWritableBytes len)
  | .appendInt .int8 x => void (b.appendInt8 x)
  | .appendInt .int16 x => void (b.appendInt16 x)
  | .appendInt .int32 x => void (b.appendInt32 x)
  | .appendInt .int64 x => void (b.appendInt64 x)
  | .prependInt .int8 x => void (b.prependInt8 x)
  | .prependInt .int16 x => void (b.prependInt16 x)
  | .prependInt .int32 x => void (b.prependInt32 x)
  | .prependInt .int64 x => void (b.prependInt64 x)
  | .readInt .int8 => returns (.int .int8) b.readInt8
  | .readInt .int16 => returns (.int .int16) b.readInt16
  | .readInt .int32 => returns (.int .int32) b.readInt32
  | .readInt .int64 => returns (.int .int64) b.readInt64
  | .readFd delivered => returns .count (b.readFd delivered)

/-- The calls one after the other, and what they return; the caller goes on behind an exception. -/
def run (b : RawBuffer) : List Call → Except Assertion (RawBuffer × List Returned)
  | [] => .ok (b, [])
  | call :: calls => do
    let (b, returned) ← b.perform call
    let (b, later) ← run b calls
    .ok (b, returned :: later)

/-- The lengths are within what the call asserts, and `readv` delivers what its `iovec`s have room for. -/
def Admits (b : RawBuffer) : Call → Prop
  | .append _ | .appendInt _ _ | .ensureWritableBytes _ => True
  | .prepend data => data.length ≤ b.prependableBytes
  | .prependInt width _ => width.size ≤ b.prependableBytes
  | .retrieve len | .retrieveAsString len | .unwrite len => len ≤ b.readableBytes
  | .readInt width => width.size ≤ b.readableBytes
  | .readFd delivered => ∀ bytes ∈ delivered, bytes.length ≤ b.iovecBytes

instance (b : RawBuffer) : (call : Call) → Decidable (b.Admits call)
  | .append _ | .appendInt _ _ | .ensureWritableBytes _ => isTrue trivial
  | .prepend _ | .prependInt _ _ | .retrieve _ | .retrieveAsString _ | .unwrite _ | .readInt _ =>
    inferInstanceAs (Decidable (_ ≤ _))
  | .readFd none => isTrue fun _ member => by cases member
  | .readFd (some bytes) => decidable_of_iff (bytes.length ≤ b.iovecBytes) (by simp [Admits])

/-- No sum that `makeSpace` makes with the length wraps around. -/
def RoomFits (b : RawBuffer) (len : Nat) : Prop := len + kCheapPrepend < sizeRange ∧ b.writerIndex + len < sizeRange

instance (b : RawBuffer) (len : Nat) : Decidable (b.RoomFits len) := inferInstanceAs (Decidable (_ ∧ _))

/-- The other calls make room for a MiB at most. -/
def Fits (b : RawBuffer) : Call → Prop
  | .append data => b.RoomFits data.length
  | .ensureWritableBytes len => b.RoomFits len
  | _ => True

instance (b : RawBuffer) : (call : Call) → Decidable (b.Fits call)
  | .append _ | .ensureWritableBytes _ => inferInstanceAs (Decidable (RoomFits _ _))
  | .prepend _ | .retrieve _ | .retrieveAsString _ | .unwrite _ | .appendInt _ _ | .prependInt _ _ | .readInt _
  | .readFd _ => isTrue trivial

/-- A call, where no assertion fails. -/
def step (b : RawBuffer) (call : Call) : Option RawBuffer := (b.perform call).toOption.map Prod.fst

end RawBuffer

/-! ## The queue -/

/-- What a call does to a queue of bytes. -/
def queueStep (queue : Bytes) : RawBuffer.Call → Bytes × RawBuffer.Returned
  | .append data => (queue ++ data, .void)
  | .prepend data => (data ++ queue, .void)
  | .retrieve len => (queue.drop len, .void)
  | .retrieveAsString len => (queue.drop len, .string (queue.take len))
  | .unwrite len => (queue.take (queue.length - len), .void)
  | .ensureWritableBytes _ => (queue, .void)
  | .appendInt _ x => (queue ++ hostToNetwork x, .void)
  | .prependInt _ x => (hostToNetwork x ++ queue, .void)
  | .readInt width => (queue.drop width.size, .int width (networkToHost width (queue.take width.size)))
  | .readFd none => (queue, .count none)
  | .readFd (some bytes) => (queue ++ bytes, .count (some bytes.length))

def RawBuffer.Call.makesRoom : RawBuffer.Call → Bool
  | .append _ | .appendInt _ _ | .ensureWritableBytes _ | .readFd _ => true
  | _ => false

/-- A call does what it does to the queue, or there is no room to be had, and nothing or the first part of what would
have come behind the queue is there. -/
def QueueStep (queue : Bytes) (call : RawBuffer.Call) (after : Bytes) (returned : RawBuffer.Returned) : Prop :=
  (after, returned) = queueStep queue call ∨
    returned = .lengthError ∧ call.makesRoom = true ∧ queue <+: after ∧ after <+: (queueStep queue call).1

def QueueRun (queue : Bytes) : List RawBuffer.Call → Bytes → List RawBuffer.Returned → Prop
  | [], last, returned => (last, returned) = (queue, [])
  | call :: calls, last, returned => ∃ after first later, QueueStep queue call after first ∧
      QueueRun after calls last later ∧ returned = first :: later

theorem makesRoom_prefix {call : RawBuffer.Call} (makes : call.makesRoom = true) (queue : Bytes) :
    queue <+: (queueStep queue call).1 := by
  cases call with
  | append data => exact List.prefix_append _ _
  | appendInt width x => exact List.prefix_append _ _
  | ensureWritableBytes len => exact List.prefix_refl _
  | readFd delivered =>
    cases delivered with
    | none => exact List.prefix_refl _
    | some bytes => exact List.prefix_append _ _
  | _ => cases makes

theorem QueueStep.eq_queueStep {call : RawBuffer.Call} {queue after : Bytes} {returned : RawBuffer.Returned}
    (step : QueueStep queue call after returned) (fixed : call.makesRoom = false) :
    (after, returned) = queueStep queue call := by
  obtain same | ⟨-, makes, -⟩ := step
  · exact same
  · cases fixed.symm.trans makes

theorem queueStep_returns (queue : Bytes) (call : RawBuffer.Call) : (queueStep queue call).2 ≠ .lengthError := by
  cases call with
  | readFd delivered => cases delivered <;> simp [queueStep]
  | _ => simp [queueStep]

/-- Calls that make no room throw nothing. -/
theorem QueueRun.returns {calls : List RawBuffer.Call} {queue last : Bytes} {returned : List RawBuffer.Returned}
    (run : QueueRun queue calls last returned) (fixed : ∀ call ∈ calls, call.makesRoom = false) :
    .lengthError ∉ returned := by
  induction calls generalizing queue returned with
  | nil =>
    obtain ⟨-, rfl⟩ := Prod.mk.inj run
    exact List.not_mem_nil
  | cons call calls ih =>
    obtain ⟨after, first, later, step, rest, rfl⟩ := run
    obtain ⟨here, behind⟩ := List.forall_mem_cons.mp fixed
    have returns := queueStep_returns queue call
    rw [← step.eq_queueStep here] at returns
    exact List.mem_cons.not.mpr (not_or.mpr ⟨returns.symm, ih rest behind⟩)

namespace Buffer
variable (b : Buffer)

/-- A buffer without its invariant. -/
def raw : RawBuffer := ⟨b.buffer, b.readerIndex, b.writerIndex⟩

def Sized : Prop := b.buffer.length ≤ maxSize

@[simp] theorem raw_buffer : b.raw.buffer = b.buffer := rfl
@[simp] theorem raw_readerIndex : b.raw.readerIndex = b.readerIndex := rfl
@[simp] theorem raw_writerIndex : b.raw.writerIndex = b.writerIndex := rfl
@[simp] theorem raw_prependableBytes : b.raw.prependableBytes = b.prependableBytes := rfl

variable {b}

section
variable (sized : b.Sized)

include sized

theorem Sized.writerIndex_lt : b.writerIndex < sizeRange := by
  have bounded := b.bounded
  unfold Sized maxSize at sized
  unfold sizeRange
  omega

theorem Sized.readableBytes : b.raw.readableBytes = b.readableBytes := minus_eq b.ordered sized.writerIndex_lt

theorem Sized.writableBytes : b.raw.writableBytes = b.writableBytes := by
  refine minus_eq b.bounded ?_
  unfold Sized maxSize at sized
  unfold sizeRange
  rw [raw_buffer]
  omega

theorem retrieve_ok {len : Nat} (within : len ≤ b.readableBytes) :
    (b.retrieve len).Sized ∧ b.raw.retrieve len = .ok (b.retrieve len).raw := by
  rw [RawBuffer.retrieve, sized.readableBytes, if_pos within, retrieve]
  by_cases less : len < b.readableBytes
  · have inside : b.readerIndex + len < sizeRange := by
      have := sized.writerIndex_lt
      unfold Buffer.readableBytes at less
      omega
    rw [if_pos less, dif_pos less, raw_readerIndex, plus_eq inside]
    exact ⟨sized, rfl⟩
  · rw [if_neg less, dif_neg less]
    exact ⟨sized, rfl⟩

omit sized in
/-- The bytes at the reader are the first of the queue. -/
theorem slice_reader {len : Nat} (within : len ≤ b.readableBytes) :
    slice b.buffer b.readerIndex (b.readerIndex + len) = b.readable.take len := by
  have ordered := b.ordered
  unfold Buffer.readableBytes at within
  rw [readable, slice, slice, List.take_drop, List.take_take, Nat.min_eq_left (by omega)]

theorem retrieveAsString_ok {len : Nat} (within : len ≤ b.readableBytes) :
    b.raw.retrieveAsString len = .ok ((b.retrieve len).raw, b.readable.take len) := by
  rw [RawBuffer.retrieveAsString, sized.readableBytes, if_pos within, (retrieve_ok sized within).2,
    ← slice_reader within]
  rfl

/-- Where the buffer need not grow there is more in front of the content than has to stay. -/
theorem makeSpace_cases {len : Nat} (short : b.writableBytes < len) (fits : b.raw.RoomFits len) :
    (b.makeSpace len short).Sized ∧ b.raw.makeSpace len = .ok (b.makeSpace len short).raw ∨
      b.raw.makeSpace len = .error (.lengthError b.raw) := by
  obtain ⟨lenFits, writerFits⟩ := fits
  have ordered := b.ordered
  have bounded := b.bounded
  have free : b.writableBytes + b.prependableBytes < sizeRange := by
    unfold Sized maxSize at sized
    unfold sizeRange Buffer.writableBytes prependableBytes
    omega
  rw [RawBuffer.makeSpace, sized.writableBytes, raw_prependableBytes, plus_eq free, plus_eq lenFits,
    plus_eq writerFits, makeSpace]
  by_cases grow : b.writableBytes + b.prependableBytes < len + kCheapPrepend
  · rw [dif_pos grow, if_pos grow]
    by_cases large : maxSize < b.raw.writerIndex + len
    · exact .inr (if_pos large)
    · refine .inl ⟨?_, if_neg large⟩
      rw [Sized, resize_length]
      exact not_lt.mp large
  · have behind : kCheapPrepend < b.readerIndex := by
      unfold prependableBytes at grow
      omega
    have moves : kCheapPrepend + b.readableBytes < sizeRange := by
      have := sized.writerIndex_lt
      unfold Buffer.readableBytes
      omega
    have room : kCheapPrepend + b.readable.length ≤ b.buffer.length := by
      rw [readable_length]
      unfold Buffer.readableBytes
      omega
    rw [dif_neg grow, if_neg grow, raw_readerIndex, if_pos behind, sized.readableBytes]
    refine .inl ⟨?_, ?_⟩
    · rw [Sized, overwrite_length room]
      exact sized
    · have same : b.readableBytes = minus (plus kCheapPrepend b.readableBytes) kCheapPrepend := by
        rw [plus_eq moves]
        exact ((minus_eq (Nat.le_add_right _ _) moves).trans (Nat.add_sub_cancel_left _ _)).symm
      refine (if_pos same).trans ?_
      simp only [raw, b.readable_length, plus_eq moves]
      rfl

theorem ensureWritableBytes_cases {len : Nat} (fits : b.raw.RoomFits len) :
    (b.ensureWritableBytes len).Sized ∧ b.raw.ensureWritableBytes len = .ok (b.ensureWritableBytes len).raw ∨
      b.raw.ensureWritableBytes len = .error (.lengthError b.raw) := by
  have room := b.ensureWritableBytes_room len
  rw [RawBuffer.ensureWritableBytes, sized.writableBytes]
  unfold ensureWritableBytes at room ⊢
  by_cases short : b.writableBytes < len
  · rw [dif_pos short] at room ⊢
    rw [if_pos short]
    obtain ⟨grown, made⟩ | thrown := makeSpace_cases sized short fits
    · rw [← grown.writableBytes] at room
      rw [made]
      exact .inl ⟨grown, if_pos room⟩
    · rw [thrown]
      exact .inr rfl
  · rw [dif_neg short] at room ⊢
    rw [if_neg short]
    rw [← sized.writableBytes] at room
    exact .inl ⟨sized, if_pos room⟩

theorem append_cases {data : Bytes} (fits : b.raw.RoomFits data.length) :
    (b.append data).Sized ∧ b.raw.append data = .ok (b.append data).raw ∨
      b.raw.append data = .error (.lengthError b.raw) := by
  obtain ⟨grown, ensured⟩ | thrown := ensureWritableBytes_cases sized fits
  · have room := b.ensureWritableBytes_room data.length
    have inside : (b.ensureWritableBytes data.length).writerIndex + data.length ≤
        (b.ensureWritableBytes data.length).buffer.length := by
      have := (b.ensureWritableBytes data.length).bounded
      unfold Buffer.writableBytes at room
      omega
    have length := overwrite_length inside
    have written : (b.ensureWritableBytes data.length).writerIndex + data.length < sizeRange := by
      unfold Sized maxSize at grown
      unfold sizeRange
      omega
    refine .inl ⟨?_, ?_⟩
    · rw [Sized, append, write, length]
      exact grown
    · rw [RawBuffer.append, ensured]
      refine (if_pos ?_).trans ?_
      · rw [RawBuffer.writableBytes]
        dsimp only [raw]
        rw [length]
        exact room.trans_eq grown.writableBytes.symm
      · dsimp only [raw]
        rw [plus_eq written]
        rfl
  · rw [RawBuffer.append, thrown]
    exact .inr rfl

theorem unwrite_ok {len : Nat} (within : len ≤ b.readableBytes) : ∃ after : Buffer, after.Sized ∧
    b.raw.unwrite len = .ok after.raw ∧ after.readable = b.readable.take (b.readable.length - len) := by
  have ordered := b.ordered
  have bounded := b.bounded
  have fewer : len ≤ b.writerIndex - b.readerIndex := within
  let after : Buffer := { b with
    writerIndex := b.writerIndex - len
    ordered := by omega
    bounded := by omega }
  have first := @slice_reader b (b.readableBytes - len) (Nat.sub_le _ _)
  have last : b.readerIndex + (b.readableBytes - len) = b.writerIndex - len := by
    unfold Buffer.readableBytes
    omega
  refine ⟨after, sized, ?_, ?_⟩
  · rw [RawBuffer.unwrite, sized.readableBytes, if_pos within, raw_writerIndex,
      minus_eq (show len ≤ b.writerIndex by omega) sized.writerIndex_lt]
    rfl
  · rw [b.readable_length, ← first, last]
    rfl

theorem prepend_ok {data : Bytes} (enough : data.length ≤ b.prependableBytes) : ∃ after : Buffer, after.Sized ∧
    b.raw.prepend data = .ok after.raw ∧ after.readable = data ++ b.readable := by
  have ordered := b.ordered
  have bounded := b.bounded
  have fewer : data.length ≤ b.readerIndex := enough
  have inside : b.readerIndex - data.length + data.length ≤ b.buffer.length := by omega
  have length := overwrite_length inside
  let after : Buffer :=
    { buffer := overwrite b.buffer (b.readerIndex - data.length) data
      readerIndex := b.readerIndex - data.length
      writerIndex := b.writerIndex
      ordered := by omega
      bounded := by rw [length]; exact bounded
      prepends := by rw [length]; exact b.prepends }
  have joined : slice after.buffer (b.readerIndex - data.length) b.readerIndex ++
      slice after.buffer b.readerIndex b.writerIndex = after.readable :=
    slice_append (Nat.sub_le b.readerIndex data.length) ordered after.bounded
  have written := slice_overwrite inside
  have kept : slice after.buffer b.readerIndex b.writerIndex = b.readable :=
    slice_overwrite_behind inside (Nat.le_of_eq (Nat.sub_add_cancel fewer))
  rw [Nat.sub_add_cancel fewer] at written
  refine ⟨after, length.trans_le sized, ?_, ?_⟩
  · rw [RawBuffer.prepend, raw_prependableBytes, if_pos enough, raw_readerIndex,
      minus_eq fewer (ordered.trans_lt sized.writerIndex_lt)]
    rfl
  · rw [← joined, written, kept]

omit sized in
/-- Where all free bytes are written, the writer is at the end. -/
theorem raw_write_full {data : Bytes} (fills : data.length = b.writableBytes) : (b.write data fills.le).raw =
    ⟨overwrite b.buffer b.writerIndex data, b.readerIndex, (overwrite b.buffer b.writerIndex data).length⟩ := by
  have size : b.writerIndex + data.length = b.buffer.length := by
    rw [fills]
    exact Nat.add_sub_cancel' b.bounded
  rw [overwrite_length size.le, ← size]
  rfl

theorem write_sized {data : Bytes} (enough : data.length ≤ b.writableBytes) : (b.write data enough).Sized := by
  have bounded := b.bounded
  have room : b.writerIndex + data.length ≤ b.buffer.length := by
    unfold Buffer.writableBytes at enough
    omega
  rw [Sized, write, overwrite_length room]
  exact sized

/-- A few bytes more than a vector can have are still no more than a `size_t` can say. -/
theorem roomFits_of_le {len : Nat} (few : len ≤ extraSize) : b.raw.RoomFits len := by
  have bounded := b.bounded
  unfold Sized maxSize at sized
  unfold extraSize at few
  unfold RawBuffer.RoomFits sizeRange kCheapPrepend
  rw [raw_writerIndex]
  constructor
  · omega
  · omega

/-- What `readv` delivers beyond the free bytes fits the side buffer. -/
theorem rest_few {bytes : Bytes} (delivered : bytes.length ≤ b.raw.iovecBytes) :
    (bytes.drop b.writableBytes).length ≤ extraSize := by
  rw [RawBuffer.iovecBytes, sized.writableBytes] at delivered
  rw [List.length_drop]
  split at delivered
  · omega
  · omega

/-- When there is no room for the side buffer, the free bytes have been filled. -/
theorem readFd_cases {delivered : Option Bytes} (admits : ∀ bytes ∈ delivered, bytes.length ≤ b.raw.iovecBytes) :
    (∃ after : Buffer, after.Sized ∧ b.raw.readFd delivered = .ok (after.raw, delivered.map List.length) ∧
      after.readable = b.readable ++ delivered.getD []) ∨
    ∃ left : Buffer, left.Sized ∧ b.raw.readFd delivered = .error (.lengthError left.raw) ∧
      b.readable <+: left.readable ∧ left.readable <+: b.readable ++ delivered.getD [] := by
  cases delivered with
  | none => exact .inl ⟨b, sized, rfl, (List.append_nil _).symm⟩
  | some bytes =>
    rw [RawBuffer.readFd, sized.writableBytes]
    by_cases enough : bytes.length ≤ b.writableBytes
    · have all : bytes.take b.writableBytes = bytes := List.take_of_length_le enough
      have inside : b.writerIndex + bytes.length < sizeRange := by
        have bounded := b.bounded
        unfold Sized maxSize at sized
        unfold Buffer.writableBytes at enough
        unfold sizeRange
        omega
      refine .inl ⟨b.write bytes enough, write_sized sized enough, ?_, readable_write b enough⟩
      refine (if_pos enough).trans ?_
      rw [all, raw_writerIndex, plus_eq inside]
      rfl
    · -- the free bytes are filled, and the side buffer is appended
      have length : (bytes.take b.writableBytes).length = b.writableBytes := by
        rw [List.length_take]
        omega
      have same := readable_write b length.le
      have first : (b.write (bytes.take b.writableBytes) length.le).Sized := write_sized sized length.le
      have few := roomFits_of_le first (rest_few sized (admits bytes rfl))
      have joined : b.readable ++ bytes.take b.writableBytes ++ bytes.drop b.writableBytes = b.readable ++ bytes := by
        rw [List.append_assoc, List.take_append_drop]
      obtain ⟨grown, appended⟩ | thrown := append_cases first few
      · refine .inl ⟨_, grown, ?_, ?_⟩
        · rw [raw_write_full length] at appended
          refine (if_neg enough).trans ?_
          simp only [raw_buffer, raw_readerIndex, raw_writerIndex, appended]
          rfl
        · rw [readable_append, same]
          exact joined
      · refine .inr ⟨_, first, ?_, ?_, ?_⟩
        · rw [raw_write_full length] at thrown ⊢
          refine (if_neg enough).trans ?_
          simp only [raw_buffer, raw_readerIndex, raw_writerIndex, thrown]
          rfl
        · rw [same]
          exact List.prefix_append _ _
        · rw [same]
          exact ⟨_, joined⟩

section
variable (width : IntWidth)

theorem appendInt_cases (x : BitVec (8 * width.size)) :
    (b.append (hostToNetwork x)).Sized ∧ b.raw.appendInt width x = .ok (b.append (hostToNetwork x)).raw ∨
      b.raw.appendInt width x = .error (.lengthError b.raw) := by
  refine append_cases sized (roomFits_of_le sized ?_)
  rw [length_hostToNetwork]
  cases width <;> decide

theorem prependInt_ok {x : BitVec (8 * width.size)} (enough : width.size ≤ b.prependableBytes) :
    ∃ after : Buffer, after.Sized ∧ b.raw.prependInt width x = .ok after.raw ∧
      after.readable = hostToNetwork x ++ b.readable :=
  prepend_ok sized (by rw [length_hostToNetwork]; exact enough)

theorem readInt_ok (within : width.size ≤ b.readableBytes) :
    b.raw.readInt width = .ok ((b.retrieve width.size).raw, networkToHost width (b.readable.take width.size)) := by
  have peeked : b.raw.peekInt width = .ok (networkToHost width (b.readable.take width.size)) := by
    rw [RawBuffer.peekInt, sized.readableBytes, if_pos within, ← slice_reader within]
    rfl
  rw [RawBuffer.readInt, peeked, (retrieve_ok sized within).2]
  rfl

end

end

/-- What a call comes to: a buffer in order that holds what the queue does. -/
def Does (b : Buffer) (call : RawBuffer.Call) (result : Except Assertion (RawBuffer × RawBuffer.Returned)) : Prop :=
  ∃ (after : Buffer) (returned : RawBuffer.Returned), after.Sized ∧ result = .ok (after.raw, returned) ∧
    QueueStep b.readable call after.readable returned

section
variable {call : RawBuffer.Call}

theorem Does.void {result : Except (CallFailure RawBuffer) RawBuffer} (done : ∃ after : Buffer, after.Sized ∧
    result = .ok after.raw ∧ (after.readable, RawBuffer.Returned.void) = queueStep b.readable call) :
    b.Does call (RawBuffer.void result) := by
  obtain ⟨after, sized, rfl, same⟩ := done
  exact ⟨after, .void, sized, rfl, .inl same⟩

theorem Does.returns {A : Type} {result : Except (CallFailure RawBuffer) (RawBuffer × A)} {value : A}
    (wrap : A → RawBuffer.Returned) (done : ∃ after : Buffer, after.Sized ∧ result = .ok (after.raw, value) ∧
      (after.readable, wrap value) = queueStep b.readable call) : b.Does call (RawBuffer.returns wrap result) := by
  obtain ⟨after, sized, rfl, same⟩ := done
  exact ⟨after, wrap value, sized, rfl, .inl same⟩

/-- Without room the buffer stays as it is. -/
theorem Does.voidThrown {result : Except (CallFailure RawBuffer) RawBuffer} (sized : b.Sized)
    (thrown : result = .error (.lengthError b.raw)) (makes : call.makesRoom = true) :
    b.Does call (RawBuffer.void result) := by
  obtain rfl := thrown
  exact ⟨b, .lengthError, sized, rfl, .inr ⟨rfl, makes, List.prefix_refl _, makesRoom_prefix makes b.readable⟩⟩

end

/-- No assertion of an admitted call fails, and it does to the readable bytes what it does to the queue. -/
theorem perform_ok {call : RawBuffer.Call} (sized : b.Sized) (admits : b.raw.Admits call) (fits : b.raw.Fits call) :
    b.Does call (b.raw.perform call) := by
  have readable {len : Nat} (within : len ≤ b.raw.readableBytes) : len ≤ b.readableBytes :=
    within.trans_eq sized.readableBytes
  cases call with
  | append data =>
    obtain ⟨grown, done⟩ | thrown := append_cases sized fits
    · exact .void ⟨_, grown, done, by rw [readable_append]; rfl⟩
    · exact .voidThrown sized thrown rfl
  | prepend data =>
    obtain ⟨after, grown, done, same⟩ := prepend_ok sized admits
    exact .void ⟨after, grown, done, by rw [same]; rfl⟩
  | retrieve len =>
    obtain ⟨rest, done⟩ := retrieve_ok sized (readable admits)
    exact .void ⟨_, rest, done, by rw [readable_retrieve b (readable admits)]; rfl⟩
  | retrieveAsString len =>
    exact .returns .string ⟨_, (retrieve_ok sized (readable admits)).1, retrieveAsString_ok sized (readable admits),
      by rw [readable_retrieve b (readable admits)]; rfl⟩
  | unwrite len =>
    obtain ⟨after, rest, done, same⟩ := unwrite_ok sized (readable admits)
    exact .void ⟨after, rest, done, by rw [same]; rfl⟩
  | ensureWritableBytes len =>
    obtain ⟨grown, done⟩ | thrown := ensureWritableBytes_cases sized fits
    · exact .void ⟨_, grown, done, by rw [readable_ensureWritableBytes]; rfl⟩
    · exact .voidThrown sized thrown rfl
  | appendInt width x =>
    have appended : b.Does (.appendInt width x) (RawBuffer.void (b.raw.appendInt width x)) := by
      obtain ⟨grown, done⟩ | thrown := appendInt_cases sized width x
      · exact .void ⟨_, grown, done, by rw [readable_append]; rfl⟩
      · exact .voidThrown sized thrown rfl
    cases width <;> exact appended
  | prependInt width x =>
    obtain ⟨after, grown, done, same⟩ := prependInt_ok (x := x) sized width admits
    have prepended : b.Does (.prependInt width x) (RawBuffer.void (b.raw.prependInt width x)) :=
      .void ⟨after, grown, done, by rw [same]; rfl⟩
    cases width <;> exact prepended
  | readInt width =>
    have read : b.Does (.readInt width) (RawBuffer.returns (.int width) (b.raw.readInt width)) :=
      .returns (.int width) ⟨_, (retrieve_ok sized (readable admits)).1, readInt_ok sized width (readable admits),
        by rw [readable_retrieve b (readable admits)]; rfl⟩
    cases width <;> exact read
  | readFd delivered =>
    obtain ⟨after, grown, done, same⟩ | ⟨left, rest, thrown, kept, first⟩ := readFd_cases sized admits
    · refine .returns .count ⟨after, grown, done, ?_⟩
      rw [same]
      cases delivered with
      | none => rw [Option.getD_none, List.append_nil]; rfl
      | some bytes => rfl
    · refine ⟨left, .lengthError, rest, ?_, .inr ⟨rfl, rfl, kept, ?_⟩⟩
      · rw [RawBuffer.perform, thrown]
        rfl
      · cases delivered with
        | none =>
          rw [Option.getD_none, List.append_nil] at first
          exact first
        | some bytes => exact first

end Buffer

/-! ## Integers in a row -/

/-- An integer of one of the widths. -/
structure SizedInt where
  width : IntWidth
  x : BitVec (8 * width.size)

namespace SizedInt

def reads (ints : List SizedInt) : List RawBuffer.Call := ints.map fun int => .readInt int.width
def values (ints : List SizedInt) : List RawBuffer.Returned := ints.map fun int => .int int.width int.x
def bytes (ints : List SizedInt) : Bytes := ints.flatMap fun int => hostToNetwork int.x

end SizedInt

namespace Buffer
variable {b : Buffer}

section
variable (sized : b.Sized)

include sized

theorem step_cases (call : RawBuffer.Call) (admits : b.raw.Admits call) (fits : b.raw.Fits call)
    {after : RawBuffer} (taken : b.raw.step call = some after) : ∃ (next : Buffer) (returned : RawBuffer.Returned),
      next.Sized ∧ after = next.raw ∧ QueueStep b.readable call next.readable returned := by
  obtain ⟨next, returned, nextSized, done, does⟩ := perform_ok sized admits fits
  rw [RawBuffer.step, done] at taken
  exact ⟨next, returned, nextSized, (Option.some.inj taken).symm, does⟩

end

end Buffer

end EdgeFlow.Network
