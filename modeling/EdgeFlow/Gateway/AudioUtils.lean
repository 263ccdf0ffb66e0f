import EdgeFlow.Library.Wave

/-! `audio_utils`: an uploaded WAV file as chunks of samples. -/

set_option autoImplicit false

namespace EdgeFlow.Gateway
open Library Library.Wave

/-- The exceptions that leave `wav_pcm16_chunks`. -/
inductive ChunkFault where
  | audioFormatError (message : Bytes)
  /-- `struct.error` -/
  | structError
  /-- `RuntimeError` of the `wave` module -/
  | runtimeError
  deriving DecidableEq

def invalidWav (message : Bytes) : ChunkFault := .audioFormatError (ascii "invalid WAV file: " ++ message)

/-- The exceptions that `wave.open` raises, after the handler. -/
def ofWave : WaveFault → ChunkFault
  | .eofError => invalidWav []
  | .error message => invalidWav message
  | .runtimeError => .runtimeError

/-- `struct.unpack` of as many samples as there are -/
def unpack (sampleCount : Nat) (raw : Bytes) : Except ChunkFault (List Int) :=
  if raw.length = 2 * sampleCount then .ok (samples raw) else .error .structError

/-- The `while` loop: blocks of a number of bytes, until a read returns none. -/
def readBlocks (bytes : Nat) (data : Limited Riff) : Except ChunkFault (List (List Int)) :=
  let block := Reader.read bytes data
  if some : block.1 = [] then .ok []
  else do
    let chunk ← unpack (block.1.length / 2) block.1
    let chunks ← readBlocks bytes block.2
    .ok (chunk :: chunks)
termination_by (Reader.rest data).length
decreasing_by exact Reader.rest_shorter some

/-- `wav_pcm16_chunks`, as the list that is made of it. -/
def wavPcm16Chunks (wavBytes : Bytes) (chunkMilliseconds : Nat) : Except ChunkFault (List (List Int)) := do
  let wav ← (initfp wavBytes).mapError ofWave
  if wav.fmt.channels ≠ 1 then .error (.audioFormatError (ascii "WAV must be mono"))
  else if wav.fmt.sampWidth ≠ 2 then .error (.audioFormatError (ascii "WAV must use signed PCM16 samples"))
  else if wav.fmt.rate ≠ 16000 then .error (.audioFormatError (ascii "WAV sample rate must be 16000 Hz"))
  else
    -- `getcomptype` is the same for every file that was opened
    let framesPerChunk := wav.fmt.rate * chunkMilliseconds / 1000
    readBlocks (framesPerChunk * (wav.fmt.channels * wav.fmt.sampWidth)) wav.data

/-- The chunks `run_asr_transcription` makes of an upload. -/
def asrChunks (wavBytes : Bytes) : Except ChunkFault (List (List Int)) := do
  let chunks ← wavPcm16Chunks wavBytes 100
  if chunks = [] then .error (.audioFormatError (ascii "WAV must contain audio samples")) else .ok chunks

/-! ## Blocks of samples -/

section
variable {frames : Nat} {data : Limited Riff}

theorem readBlocks_nil (ended : Reader.rest data = []) (bytes : Nat) : readBlocks bytes data = .ok [] := by
  have nothing : (Reader.read bytes data).1 = [] := by rw [Reader.data, ended, List.take_nil]
  rw [readBlocks, dif_pos nothing]

theorem readBlocks_step {bytes : Nat} (positive : 0 < bytes) (more : Reader.rest data ≠ []) :
    readBlocks bytes data =
      (unpack (((Reader.rest data).take bytes).length / 2) ((Reader.rest data).take bytes)).bind fun chunk =>
        (readBlocks bytes (Reader.read bytes data).2).bind fun chunks => .ok (chunk :: chunks) := by
  have some : ¬ (Reader.read bytes data).1 = [] := by
    rw [Reader.data, List.take_eq_nil_iff, not_or]
    exact ⟨by omega, more⟩
  rw [readBlocks, dif_neg some, Reader.data]
  rfl

theorem unpack_even {raw : Bytes} (even : raw.length % 2 = 0) : unpack (raw.length / 2) raw = .ok (samples raw) :=
  if_pos (by omega)

theorem unpack_odd {raw : Bytes} (odd : raw.length % 2 = 1) : unpack (raw.length / 2) raw = .error .structError :=
  if_neg (by omega)

/-- An even number of bytes is cut into chunks of whole samples, of which only the last may be short. -/
theorem readBlocks_even (positive : 0 < frames) (even : (Reader.rest data).length % 2 = 0) :
    ∃ chunks, readBlocks (frames * 2) data = .ok chunks ∧ chunks.flatten = samples (Reader.rest data) ∧
      (chunks = [] ↔ Reader.rest data = []) ∧ ∀ chunk ∈ chunks.dropLast, chunk.length = frames := by
  induction size : (Reader.rest data).length using Nat.strong_induction_on generalizing data with
  | h size ih =>
    by_cases ended : Reader.rest data = []
    · exact ⟨[], readBlocks_nil ended _, by rw [ended]; rfl, iff_of_true rfl ended, List.forall_mem_nil _⟩
    · have length : 0 < (Reader.rest data).length := List.length_pos_of_ne_nil ended
      have behind := Reader.behind (frames * 2) data
      have lengthBehind : (Reader.rest (Reader.read (frames * 2) data).2).length =
          (Reader.rest data).length - frames * 2 := by rw [behind, List.length_drop]
      obtain ⟨chunks, read, flat, isNil, full⟩ := ih _ (by omega) (by omega) lengthBehind
      have blockEven : ((Reader.rest data).take (frames * 2)).length % 2 = 0 := by
        rw [List.length_take]
        omega
      refine ⟨samples ((Reader.rest data).take (frames * 2)) :: chunks, ?_, ?_, by simp [ended], ?_⟩
      · rw [readBlocks_step (by omega) ended, unpack_even blockEven, read]
        rfl
      · rw [List.flatten_cons, flat, behind, ← samples_append blockEven, List.take_append_drop]
      · cases chunks with
        | nil => exact List.forall_mem_nil _
        | cons next chunks =>
          rw [List.dropLast_cons_cons]
          refine List.forall_mem_cons.mpr ⟨?_, full⟩
          have more : Reader.rest (Reader.read (frames * 2) data).2 ≠ [] := fun none => nomatch isNil.mpr none
          have lengthMore := List.length_pos_of_ne_nil more
          rw [length_samples, List.length_take]
          omega

/-- The last byte of an odd number is no sample. -/
theorem readBlocks_odd (positive : 0 < frames) (odd : (Reader.rest data).length % 2 = 1) :
    readBlocks (frames * 2) data = .error .structError := by
  induction size : (Reader.rest data).length using Nat.strong_induction_on generalizing data with
  | h size ih =>
    have more : Reader.rest data ≠ [] := by
      intro none
      rw [none] at odd
      cases odd
    have lengthBehind : (Reader.rest (Reader.read (frames * 2) data).2).length =
        (Reader.rest data).length - frames * 2 := by rw [Reader.behind, List.length_drop]
    rw [readBlocks_step (by omega) more]
    by_cases last : (Reader.rest data).length ≤ frames * 2
    · have blockOdd : ((Reader.rest data).take (frames * 2)).length % 2 = 1 := by
        rw [List.length_take]
        omega
      rw [unpack_odd blockOdd]
      rfl
    · have blockEven : ((Reader.rest data).take (frames * 2)).length % 2 = 0 := by
        rw [List.length_take]
        omega
      rw [unpack_even blockEven, ih _ (by omega) (by omega) lengthBehind]
      rfl

end

/-! ## An upload -/

/-- The format that is asked for. -/
def mono16 : Fmt := ⟨1, 16000, 2⟩

/-- A file of that format, and the bytes there are of its samples. -/
def PcmFile (bytes payload : Bytes) : Prop :=
  ∃ wave, Holds bytes wave ∧ wave.fmt = mono16 ∧ Reader.rest wave.data = payload

/-- An upload becomes the whole samples of such a file, or is refused as no such file. -/
def Validated (bytes : Bytes) : Prop :=
  (∃ chunks payload, asrChunks bytes = .ok chunks ∧ PcmFile bytes payload ∧ chunks.flatten = samples payload) ∨
    ∃ message, asrChunks bytes = .error (.audioFormatError message)

section
variable {bytes : Bytes}

theorem wavPcm16Chunks_fault {fault : WaveFault} (opened : initfp bytes = .error fault) (chunkMilliseconds : Nat) :
    wavPcm16Chunks bytes chunkMilliseconds = .error (ofWave fault) := by
  rw [wavPcm16Chunks, opened]
  rfl

theorem wavPcm16Chunks_other {wave : WaveRead} (opened : initfp bytes = .ok wave) (other : wave.fmt ≠ mono16)
    (chunkMilliseconds : Nat) : ∃ message, wavPcm16Chunks bytes chunkMilliseconds =
      .error (.audioFormatError message) := by
  obtain ⟨⟨channels, rate, sampWidth⟩, data⟩ := wave
  simp only [wavPcm16Chunks, opened, Except.mapError, bind, Except.bind]
  split_ifs with notMono notWide notRate
  · exact ⟨_, rfl⟩
  · exact ⟨_, rfl⟩
  · exact ⟨_, rfl⟩
  · rw [not_not] at notMono notWide notRate
    subst notMono notWide notRate
    exact absurd rfl other

theorem wavPcm16Chunks_eq {data : Limited Riff} (opened : initfp bytes = .ok ⟨mono16, data⟩) :
    wavPcm16Chunks bytes 100 = readBlocks (1600 * 2) data := by
  simp [wavPcm16Chunks, opened, mono16, Except.mapError, bind, Except.bind]

theorem asrChunks_refused {fault : ChunkFault} (refused : wavPcm16Chunks bytes 100 = .error fault) :
    asrChunks bytes = .error fault := by
  rw [asrChunks, refused]
  rfl

theorem pcmFile_iff {data : Limited Riff} (opened : initfp bytes = .ok ⟨mono16, data⟩) {payload : Bytes} :
    PcmFile bytes payload ↔ Reader.rest data = payload := by
  constructor
  · rintro ⟨wave, holds, -, isPayload⟩
    cases opened.symm.trans (initfp_ok_iff.mpr holds)
    exact isPayload
  · exact fun isPayload => ⟨_, initfp_ok_iff.mp opened, rfl, isPayload⟩

theorem not_pcmFile {outcome : Except WaveFault WaveRead} (opened : initfp bytes = outcome)
    (other : ∀ data, outcome ≠ .ok ⟨mono16, data⟩) (payload : Bytes) : ¬ PcmFile bytes payload := by
  rintro ⟨⟨fmt, data⟩, holds, isMono, -⟩
  have same := opened.symm.trans (initfp_ok_iff.mpr holds)
  dsimp only at isMono
  exact other data (isMono ▸ same)

/-- An upload is validated where no chunk says it is longer than the file does, and no sample of it is half there. -/
theorem validated_iff (bytes : Bytes) :
    Validated bytes ↔ ¬ Overreaches bytes ∧ ∀ payload, PcmFile bytes payload → payload.length % 2 = 0 := by
  cases opened : initfp bytes with
  | error fault =>
    have isFault := asrChunks_refused (wavPcm16Chunks_fault opened 100)
    have noFile := not_pcmFile opened (fun data => by simp)
    rw [and_iff_left fun payload isFile => absurd isFile (noFile payload), ← initfp_runtimeError_iff, opened,
      Validated, isFault]
    cases fault <;> simp [ofWave, invalidWav]
  | ok wave =>
    have noRuntime : ¬ Overreaches bytes := by
      rw [← initfp_runtimeError_iff, opened]
      simp
    rw [and_iff_right noRuntime]
    by_cases isMono : wave.fmt = mono16
    · obtain ⟨fmt, data⟩ := wave
      dsimp only at isMono
      subst isMono
      simp only [Validated, pcmFile_iff opened, forall_eq']
      by_cases even : (Reader.rest data).length % 2 = 0
      · obtain ⟨chunks, read, flat, isNil, -⟩ := readBlocks_even (by decide : 0 < 1600) even
        refine iff_of_true ?_ even
        by_cases none : chunks = []
        · exact .inr ⟨_, by rw [asrChunks, wavPcm16Chunks_eq opened, read]; exact if_pos none⟩
        · exact .inl ⟨chunks, _, by rw [asrChunks, wavPcm16Chunks_eq opened, read]; exact if_neg none, rfl, flat⟩
      · have odd := readBlocks_odd (by decide : 0 < 1600) (Nat.mod_two_ne_zero.mp even)
        have refused := asrChunks_refused ((wavPcm16Chunks_eq opened).trans odd)
        refine iff_of_false ?_ even
        rintro (⟨chunks, payload, made, -⟩ | ⟨message, made⟩)
        · cases refused.symm.trans made
        · cases refused.symm.trans made
    · obtain ⟨message, refused⟩ := wavPcm16Chunks_other opened isMono 100
      have noFile := not_pcmFile opened fun data same => isMono (by cases same; rfl)
      exact iff_of_true (.inr ⟨message, asrChunks_refused refused⟩) fun payload isFile => absurd isFile (noFile payload)

end

/-- An upload of a sample and a half. -/
theorem halfSample_not_validated : ¬ ∀ bytes, Validated bytes := by
  intro validated
  obtain ⟨part, opened, isData⟩ := @initfp_pcm16 16000 [0, 1, 2] (by decide) (by decide)
  have even := ((validated_iff _).mp (validated (pcm16 16000 [0, 1, 2]))).2 [0, 1, 2] ((pcmFile_iff opened).mpr isData)
  exact absurd even (by decide)

end EdgeFlow.Gateway
