import EdgeFlow.Gateway.AudioUtils
import EdgeFlow.Node.TtsEngine
import EdgeFlow.Web.AudioWav

/-! WAV files between the parts of the system: what the node and the web client write, the gateway reads. -/

set_option autoImplicit false

namespace EdgeFlow.System
open Library Library.Wave Gateway Node Web

/-- The gateway takes the file apart into these samples, and every chunk but the last is a full one. -/
def Decodes (wav : Bytes) (pcm : List Int) : Prop :=
  ∃ chunks, wavPcm16Chunks wav 100 = .ok chunks ∧ (∀ chunk ∈ chunks.dropLast, chunk.length = 1600) ∧
    chunks.flatten = pcm

theorem decodes_pcm16 {pcm : List (BitVec 16)} (fits : 36 + 2 * pcm.length < 2 ^ 32) :
    Decodes (pcm16 16000 (encode pcm)) (pcm.map BitVec.toInt) := by
  have length := length_encode pcm
  obtain ⟨part, opened, isData⟩ := @initfp_pcm16 16000 (encode pcm) (by decide) (by rw [length]; omega)
  have even : (Reader.rest part).length % 2 = 0 := by
    rw [isData, length]
    omega
  obtain ⟨chunks, read, flat, -, full⟩ := readBlocks_even (by decide : 0 < 1600) even
  refine ⟨chunks, (wavPcm16Chunks_eq opened).trans read, full, ?_⟩
  rw [flat, isData, samples_encode]

/-- Both writers of WAV files agree with the reader. -/
theorem writers_agree :
    (∀ pcm : List Int16, 36 + 2 * pcm.length < 2 ^ 32 → Decodes (writeWav pcm) (pcm.map Int16.toInt)) ∧
      ∀ samples : List ℚ, 36 + 2 * samples.length < 2 ^ 32 → ∃ wav, encodeWav samples 16000 = some wav ∧
        Decodes wav (samples.map fun sample => truncate (scale (clamp sample))) := by
  constructor
  · intro pcm fits
    have decoded := @decodes_pcm16 (pcm.map Int16.toBitVec) (by rwa [List.length_map])
    rw [← writeWav_eq fits, List.map_map] at decoded
    exact decoded
  · intro samples fits
    refine ⟨_, encodeWav_eq samples 16000, ?_⟩
    have decoded := @decodes_pcm16 (samples.map word) (by rwa [List.length_map])
    have words : (samples.map word).map BitVec.toInt = samples.map fun sample => truncate (scale (clamp sample)) := by
      rw [List.map_map]
      exact List.map_congr_left fun sample _ => toInt_word sample
    rwa [words] at decoded

theorem writers_agree_three : Decodes (writeWav [0, -1, 32767]) [0, -1, 32767] ∧
    ∃ wav, encodeWav [0, -1, 1] 16000 = some wav ∧
      Decodes wav ([0, -1, 1].map fun sample => truncate (scale (clamp sample))) :=
  ⟨writers_agree.1 [0, -1, 32767] (by decide), writers_agree.2 [0, -1, 1] (by decide)⟩

end EdgeFlow.System
