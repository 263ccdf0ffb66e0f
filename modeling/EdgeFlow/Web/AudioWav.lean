import EdgeFlow.Library.Wave
import Mathlib.Data.Rat.Floor
import Mathlib.Tactic.Linarith

/-! `audioWav.js`: the samples of a recording as a WAV file.

Numbers that the script computes with are rational; an integer that it stores is taken
modulo the width it is stored in.
-/

set_option autoImplicit false

namespace EdgeFlow.Web
open Library Library.Wave

/-! ## `DataView` -/

/-- Bytes stored at an offset of a buffer; `none` is a `RangeError`. -/
def store (offset : Nat) (bytes buffer : Bytes) : Option Bytes :=
  if offset + bytes.length ≤ buffer.length then
    some (buffer.take offset ++ (bytes ++ buffer.drop (offset + bytes.length)))
  else none

def setUint8 (offset : Nat) (value : Byte) (view : Bytes) : Option Bytes := store offset [value] view
def setUint16 (offset value : Nat) (view : Bytes) : Option Bytes := store offset (le 2 value) view
def setUint32 (offset value : Nat) (view : Bytes) : Option Bytes := store offset (le 4 value) view

/-- Towards zero, as a number is stored as an integer. -/
def truncate (value : ℚ) : Int := if value < 0 then ⌈value⌉ else ⌊value⌋

def setInt16 (offset : Nat) (value : ℚ) (view : Bytes) : Option Bytes :=
  store offset (le 2 (BitVec.ofInt 16 (truncate value)).toNat) view

/-- `writeString` -/
def writeString : (offset : Nat) → (value : Bytes) → Bytes → Option Bytes
  | _, [], view => some view
  | offset, c :: value, view => do
    let view ← setUint8 offset c view
    writeString (offset + 1) value view

/-! ## `encodeWav` -/

def clamp (sample : ℚ) : ℚ := max (-1) (min 1 sample)

def scale (sample : ℚ) : ℚ := if sample < 0 then sample * 0x8000 else sample * 0x7fff

/-- The loop over the samples. -/
def writeSamples : (offset : Nat) → (samples : List ℚ) → Bytes → Option Bytes
  | _, [], view => some view
  | offset, sample :: samples, view => do
    let view ← setInt16 offset (scale (clamp sample)) view
    writeSamples (offset + 2) samples view

def encodeWav (samples : List ℚ) (sampleRate : Nat) : Option Bytes := do
  let bytesPerSample := 2
  let blockAlign := bytesPerSample
  let view : Bytes := List.replicate (44 + samples.length * bytesPerSample) 0
  let view ← writeString 0 (ascii "RIFF") view
  let view ← setUint32 4 (36 + samples.length * bytesPerSample) view
  let view ← writeString 8 (ascii "WAVE") view
  let view ← writeString 12 (ascii "fmt ") view
  let view ← setUint32 16 16 view
  let view ← setUint16 20 1 view
  let view ← setUint16 22 1 view
  let view ← setUint32 24 sampleRate view
  let view ← setUint32 28 (sampleRate * blockAlign) view
  let view ← setUint16 32 blockAlign view
  let view ← setUint16 34 16 view
  let view ← writeString 36 (ascii "data") view
  let view ← setUint32 40 (samples.length * bytesPerSample) view
  writeSamples 44 samples view

/-! ## A buffer that is filled from its front -/

/-- A buffer of which so much is written, and so much is not. -/
def filled (front : Bytes) (free : Nat) : Bytes := front ++ List.replicate free 0

section
variable {front : Bytes} {offset : Nat}

theorem store_filled (next : front.length = offset) (bytes : Bytes) (free : Nat) :
    store offset bytes (filled front (bytes.length + free)) = some (filled (front ++ bytes) free) := by
  subst next
  have within : front.length + bytes.length ≤ (filled front (bytes.length + free)).length := by
    rw [filled, List.length_append, List.length_replicate]
    omega
  rw [store, if_pos within, filled, List.take_left, ← List.drop_drop, List.drop_left, List.drop_replicate,
    Nat.add_sub_cancel_left, filled, List.append_assoc]

theorem writeString_filled (next : front.length = offset) (value : Bytes) (free : Nat) :
    writeString offset value (filled front (value.length + free)) = some (filled (front ++ value) free) := by
  induction value generalizing front offset with
  | nil => simp [writeString]
  | cons c value ih =>
    have first := store_filled next [c] (value.length + free)
    have length : (c :: value).length + free = [c].length + (value.length + free) := by
      rw [List.length_cons, List.length_singleton]
      omega
    rw [writeString, length, setUint8, first]
    show writeString (offset + 1) value _ = _
    rw [ih (by rw [List.length_append, next]; rfl), List.append_assoc, List.singleton_append]

/-- The sample that is stored for one of the recording. -/
def word (sample : ℚ) : BitVec 16 := BitVec.ofInt 16 (truncate (scale (clamp sample)))

theorem writeSamples_filled (next : front.length = offset) (samples : List ℚ) :
    writeSamples offset samples (filled front (2 * samples.length)) = some (front ++ encode (samples.map word)) := by
  induction samples generalizing front offset with
  | nil => simp [writeSamples, filled, encode]
  | cons sample samples ih =>
    have first := store_filled next (le 2 (word sample).toNat) (2 * samples.length)
    have length : 2 * (sample :: samples).length = (le 2 (word sample).toNat).length + 2 * samples.length := by
      rw [List.length_cons, length_le]
      omega
    rw [writeSamples, length, setInt16]
    show (store offset (le 2 (word sample).toNat) _ >>= _) = _
    rw [first]
    show writeSamples (offset + 2) samples _ = _
    rw [ih (by rw [List.length_append, next, length_le]), List.append_assoc]
    rfl

theorem store_next {bytes : Bytes} {free : Nat} (left : Nat) (next : front.length = offset)
    (room : bytes.length + left = free) :
    store offset bytes (filled front free) = some (filled (front ++ bytes) left) :=
  room ▸ store_filled next bytes left

theorem writeString_next {value : Bytes} {free : Nat} (left : Nat) (next : front.length = offset)
    (room : value.length + left = free) : writeString offset value (filled front free) =
      some (filled (front ++ value) left) :=
  room ▸ writeString_filled next value left

theorem bind_of_some {α β : Type} {x : Option α} {a : α} {k : α → Option β} {r : Option β} (isSome : x = some a)
    (rest : k a = r) : (x >>= k) = r := by
  rw [isSome]
  exact rest

/-- What is written is a PCM file of one channel. -/
theorem encodeWav_eq (samples : List ℚ) (sampleRate : Nat) :
    encodeWav samples sampleRate = some (pcm16 sampleRate (encode (samples.map word))) := by
  have size : samples.length * 2 = (encode (samples.map word)).length := by
    rw [length_encode, List.length_map, Nat.mul_comm]
  simp only [encodeWav, size]
  generalize isSize : (encode (samples.map word)).length = n
  rw [← List.nil_append (List.replicate (44 + n) 0), ← filled]
  refine bind_of_some (writeString_next (40 + n) rfl (by simp [ascii]; omega)) ?_
  refine bind_of_some (store_next (36 + n) (by simp [ascii]) (by simp; omega)) ?_
  refine bind_of_some (writeString_next (32 + n) (by simp [ascii]) (by simp [ascii]; omega)) ?_
  refine bind_of_some (writeString_next (28 + n) (by simp [ascii]) (by simp [ascii]; omega)) ?_
  refine bind_of_some (store_next (24 + n) (by simp [ascii]) (by simp; omega)) ?_
  refine bind_of_some (store_next (22 + n) (by simp [ascii]) (by simp; omega)) ?_
  refine bind_of_some (store_next (20 + n) (by simp [ascii]) (by simp; omega)) ?_
  refine bind_of_some (store_next (16 + n) (by simp [ascii]) (by simp; omega)) ?_
  refine bind_of_some (store_next (12 + n) (by simp [ascii]) (by simp; omega)) ?_
  refine bind_of_some (store_next (10 + n) (by simp [ascii]) (by simp; omega)) ?_
  refine bind_of_some (store_next (8 + n) (by simp [ascii]) (by simp; omega)) ?_
  refine bind_of_some (writeString_next (4 + n) (by simp [ascii]) (by simp [ascii]; omega)) ?_
  refine bind_of_some (store_next n (by simp [ascii]) (by simp)) ?_
  have length : n = 2 * samples.length := by rw [← isSize, length_encode, List.length_map]
  rw [length, writeSamples_filled (by simp [ascii]), ← length, pcm16, isSize, fmtFields]
  simp only [List.nil_append, List.append_assoc]

end

/-! ## The stored samples -/

theorem clamp_bounds (sample : ℚ) : -1 ≤ clamp sample ∧ clamp sample ≤ 1 :=
  ⟨le_max_left _ _, max_le (by norm_num) (min_le_left _ _)⟩

/-- What a clamped sample is scaled to is an integer of 16 bits when it is stored. -/
theorem truncate_bounds (sample : ℚ) : -2 ^ 15 ≤ truncate (scale (clamp sample)) ∧
    truncate (scale (clamp sample)) < 2 ^ 15 := by
  obtain ⟨low, high⟩ := clamp_bounds sample
  unfold scale
  split
  · next negative =>
    have below : clamp sample * 0x8000 < 0 := by linarith
    rw [truncate, if_pos below]
    refine ⟨Int.le_ceil_iff.mpr ?_, Int.ceil_lt_iff.mpr ?_⟩
    · push_cast
      linarith
    · push_cast
      linarith
  · next positive =>
    have above : ¬ clamp sample * 0x7fff < 0 := by linarith
    rw [truncate, if_neg above]
    refine ⟨Int.le_floor.mpr ?_, Int.floor_lt.mpr ?_⟩
    · push_cast
      linarith
    · push_cast
      linarith

theorem toInt_word (sample : ℚ) : (word sample).toInt = truncate (scale (clamp sample)) := by
  obtain ⟨low, high⟩ := truncate_bounds sample
  exact BitVec.toInt_ofInt_eq_self (by decide) low high

end EdgeFlow.Web
