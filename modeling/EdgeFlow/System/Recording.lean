import EdgeFlow.System.Audio
import EdgeFlow.Web.AudioRecorder

/-! The files of the recorder at the gateway.

The samples are exact rationals as far as the truncation to 16 bits.
-/

set_option autoImplicit false

namespace EdgeFlow.System
open Library Web

/-- Whatever is pressed and however slowly it is answered, every file of the recorder is that of one recording which is
over. It has all that was brought to the recording, in order, and the gateway takes it apart into the samples of that,
from the rate of its microphone to that of the recognizer. -/
theorem recorded_decodes {labels : List AudioRecorder.Label} {recorder : AudioRecorder}
    (run : follow AudioRecorder.step AudioRecorder.initial labels = some recorder) {target : AudioRecorder.Target}
    {file : Bytes} (recorded : recorder.recordedFiles target = some file) :
    ∃ (index : Nat) (recording : AudioRecorder.Recording), recorder.recordings[index]? = some recording ∧
      recording.on = false ∧ recording.chunks = AudioRecorder.heardBy labels index ∧
      (AudioRecorder.grantedRates labels)[index]? = some recording.sampleRate ∧
      recording.samples = (resampleFloat32 (AudioRecorder.heardBy labels index).flatten recording.sampleRate 16000).map
        (·.getD 0) ∧
      recording.file = some file ∧
      (36 + 2 * recording.samples.length < 2 ^ 32 →
        Decodes file (recording.samples.map fun sample => truncate (scale (clamp sample)))) := by
  obtain ⟨index, recording, found, off, its⟩ := (AudioRecorder.filed_of_run run).files target file recorded
  have heard := (AudioRecorder.heard_of_run run).contents index
  rw [found, Option.map_some, eq_comm, Option.map_eq_some_iff] at heard
  obtain ⟨sampleRate, granted, same⟩ := heard
  obtain ⟨chunks, rate⟩ := Prod.mk.inj same
  have resampled : recording.samples =
      (resampleFloat32 (AudioRecorder.heardBy labels index).flatten recording.sampleRate 16000).map (·.getD 0) := by
    rw [AudioRecorder.Recording.samples, AudioRecorder.mergeFloat32, chunks]
  refine ⟨index, recording, found, off, chunks.symm, granted.trans (congrArg some rate), resampled, its,
    fun fits => ?_⟩
  rw [AudioRecorder.Recording.file, encodeWav_eq, Option.some.injEq] at its
  rw [← its]
  have decoded := @decodes_pcm16 (recording.samples.map word) (by rwa [List.length_map])
  have words : (recording.samples.map word).map BitVec.toInt =
      recording.samples.map fun sample => truncate (scale (clamp sample)) := by
    rw [List.map_map]
    exact List.map_congr_left fun sample _ => toInt_word sample
  rwa [words] at decoded

/-- A recording of two pieces at twice the rate. -/
def twoPieces : List AudioRecorder.Label :=
  [.toggleRecording .asr, .granted 0 32000, .audioProcess 0 [0, 1], .audioProcess 0 [-1, 0], .toggleRecording .asr,
    .closed 0]

theorem recorded_decodes_two : ∃ recorder file,
    follow AudioRecorder.step AudioRecorder.initial twoPieces = some recorder ∧
      recorder.recordedFiles .asr = some file ∧ Decodes file [0, -32768] := by
  have ran : (follow AudioRecorder.step AudioRecorder.initial twoPieces).any (fun recorder =>
      (recorder.recordedFiles .asr).isSome ∧
        recorder.recordings = [⟨.asr, 32000, [[0, 1], [-1, 0]], false⟩]) = true := by decide +kernel
  obtain ⟨recorder, run, fields⟩ := (Option.any_eq_true _ _).mp ran
  obtain ⟨stored, recordings⟩ := of_decide_eq_true fields
  obtain ⟨file, recorded⟩ := Option.isSome_iff_exists.mp stored
  obtain ⟨index, recording, found, -, -, -, -, -, decodes⟩ := recorded_decodes run recorded
  have mem := List.mem_of_getElem? found
  rw [recordings, List.mem_singleton] at mem
  have samples : recording.samples = [0, -1] := by
    rw [mem]
    decide +kernel
  have heard : recording.samples.map (fun sample => truncate (scale (clamp sample))) = [0, -32768] := by
    rw [samples]
    decide +kernel
  rw [heard, samples] at decodes
  exact ⟨recorder, file, run, recorded, decodes (by decide)⟩

end EdgeFlow.System
