import EdgeFlow.Library.Wave

/-! `TtsEngine::write_wav`: the samples of a synthesis as a WAV file. -/

set_option autoImplicit false

namespace EdgeFlow.Node
open Library Library.Wave

def appendU16Le (value : UInt16) (buffer : Bytes) : Bytes :=
  buffer ++ [(value &&& 0xff).toUInt8, ((value >>> 8) &&& 0xff).toUInt8]

def appendU32Le (value : UInt32) (buffer : Bytes) : Bytes :=
  buffer ++ [(value &&& 0xff).toUInt8, ((value >>> 8) &&& 0xff).toUInt8, ((value >>> 16) &&& 0xff).toUInt8,
    ((value >>> 24) &&& 0xff).toUInt8]

def appendBytes (data buffer : Bytes) : Bytes := buffer ++ data

def kSampleRate : UInt32 := 16000

/-- `write_wav` -/
def writeWav (pcm : List Int16) : Bytes :=
  let kChannels : UInt16 := 1
  let kBitsPerSample : UInt16 := 16
  let kBlockAlign : UInt16 := kChannels * kBitsPerSample / 8
  let kByteRate : UInt32 := kSampleRate * kBlockAlign.toUInt32
  let dataSize := UInt32.ofNat (pcm.length * 2)
  let riffSize := 36 + dataSize
  let wav := appendBytes (ascii "RIFF") []
  let wav := appendU32Le riffSize wav
  let wav := appendBytes (ascii "WAVE") wav
  let wav := appendBytes (ascii "fmt ") wav
  let wav := appendU32Le 16 wav
  let wav := appendU16Le 1 wav
  let wav := appendU16Le kChannels wav
  let wav := appendU32Le kSampleRate wav
  let wav := appendU32Le kByteRate wav
  let wav := appendU16Le kBlockAlign wav
  let wav := appendU16Le kBitsPerSample wav
  let wav := appendBytes (ascii "data") wav
  let wav := appendU32Le dataSize wav
  pcm.foldl (fun wav sample => appendU16Le sample.toUInt16 wav) wav

theorem and_255 (n : Nat) : n &&& 255 = n % 256 := Nat.and_two_pow_sub_one_eq_mod n 8

theorem appendU16Le_eq (value : UInt16) (buffer : Bytes) : appendU16Le value buffer = buffer ++ le 2 value.toNat := by
  have low : (value &&& 0xff).toUInt8 = UInt8.ofNat value.toNat := by
    refine UInt8.toNat.inj ?_
    simp [and_255]
  have high : ((value >>> 8) &&& 0xff).toUInt8 = UInt8.ofNat (value.toNat / 256) := by
    refine UInt8.toNat.inj ?_
    simp [and_255, Nat.shiftRight_eq_div_pow]
  rw [appendU16Le, low, high]
  rfl

theorem appendU32Le_eq (value : UInt32) (buffer : Bytes) : appendU32Le value buffer = buffer ++ le 4 value.toNat := by
  have first : (value &&& 0xff).toUInt8 = UInt8.ofNat value.toNat := by
    refine UInt8.toNat.inj ?_
    simp [and_255]
  have second : ((value >>> 8) &&& 0xff).toUInt8 = UInt8.ofNat (value.toNat / 256) := by
    refine UInt8.toNat.inj ?_
    simp [and_255, Nat.shiftRight_eq_div_pow]
  have third : ((value >>> 16) &&& 0xff).toUInt8 = UInt8.ofNat (value.toNat / 256 / 256) := by
    refine UInt8.toNat.inj ?_
    simp [and_255, Nat.shiftRight_eq_div_pow, Nat.div_div_eq_div_mul]
  have fourth : ((value >>> 24) &&& 0xff).toUInt8 = UInt8.ofNat (value.toNat / 256 / 256 / 256) := by
    refine UInt8.toNat.inj ?_
    simp [and_255, Nat.shiftRight_eq_div_pow, Nat.div_div_eq_div_mul]
  rw [appendU32Le, first, second, third, fourth]
  rfl

theorem foldl_appendU16Le (pcm : List Int16) (wav : Bytes) :
    pcm.foldl (fun wav sample => appendU16Le sample.toUInt16 wav) wav = wav ++ encode (pcm.map Int16.toBitVec) := by
  induction pcm generalizing wav with
  | nil => exact (List.append_nil wav).symm
  | cons sample pcm ih =>
    rw [List.foldl_cons, ih, appendU16Le_eq, List.append_assoc]
    rfl

/-- What is written is a PCM file of one channel at 16 kHz. -/
theorem writeWav_eq {pcm : List Int16} (fits : 36 + 2 * pcm.length < 2 ^ 32) :
    writeWav pcm = pcm16 16000 (encode (pcm.map Int16.toBitVec)) := by
  have size : (UInt32.ofNat (pcm.length * 2)).toNat = (encode (pcm.map Int16.toBitVec)).length := by
    rw [length_encode, List.length_map, UInt32.toNat_ofNat', Nat.mod_eq_of_lt (by omega), Nat.mul_comm]
  have riffSize : (36 + UInt32.ofNat (pcm.length * 2)).toNat = 36 + (encode (pcm.map Int16.toBitVec)).length := by
    rw [UInt32.toNat_add, size, length_encode, List.length_map]
    exact Nat.mod_eq_of_lt fits
  simp only [writeWav, foldl_appendU16Le]
  simp only [appendU16Le_eq, appendU32Le_eq, appendBytes, size, riffSize, pcm16, fmtFields, List.nil_append,
    List.append_assoc]
  rfl

end EdgeFlow.Node
