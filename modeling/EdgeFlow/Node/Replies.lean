import EdgeFlow.Library.Json.Compact
import EdgeFlow.Node.Inference
import EdgeFlow.Node.TtsEngine

/-! The lines that are written of the messages of a node, as `dump` writes them: a string
that is not UTF-8 is an exception, and the members of an object stand in the order of
their names.
-/

set_option autoImplicit false

namespace EdgeFlow.Node
open Library Library.Byte

/-- A string that `dump` takes. -/
def textOf (bytes : Bytes) : Option Json.Text := if valid : Utf8.Valid bytes then some ⟨bytes, valid⟩ else none

theorem textOf_eq_some {bytes : Bytes} {text : Json.Text} : textOf bytes = some text ↔ text.bytes = bytes := by
  unfold textOf
  constructor
  · intro made
    split at made
    · cases made
      rfl
    · cases made
  · rintro rfl
    rw [dif_pos text.valid]

/-- A name or a word that the node itself writes. -/
def word (text : String) (valid : Utf8.Valid (ascii text) := by decide +kernel) : Json.Text := ⟨ascii text, valid⟩

def sampleRate : Int := kSampleRate.toNat

/-- The `result` of a task; `lengthScale` is what is written of the `float`, which is null where it is no number. -/
def TaskResult.json (lengthScale : Json) : TaskResult → Option Json
  | .asr text endpoint final => do
    let text ← textOf text
    some (.object [(word "endpoint", .bool endpoint), (word "final", .bool final),
      (word "text", .string text)])
  | .tts text samples speakerId (some audio) => do
    let text ← textOf text
    let audio ← textOf audio
    some (.object [(word "audio_base64", .string audio), (word "format", .string (word "wav")),
      (word "length_scale", lengthScale), (word "played", .bool false),
      (word "sample_rate", .number (.ofInt sampleRate)), (word "samples", .number (.ofInt samples)),
      (word "speaker_id", .number (.ofInt speakerId)), (word "text", .string text)])
  | .tts text samples speakerId none => do
    let text ← textOf text
    some (.object [(word "format", .string (word "pcm")), (word "length_scale", lengthScale),
      (word "played", .bool true), (word "sample_rate", .number (.ofInt sampleRate)),
      (word "samples", .number (.ofInt samples)), (word "speaker_id", .number (.ofInt speakerId)),
      (word "text", .string text)])
  | .rkllm text => do
    let text ← textOf text
    some (.object [(word "text", .string text)])

def ResultData.json (lengthScale : Json) : ResultData → Option Json
  | .none => some (.string (word "None"))
  | .result made => made.json lengthScale
  | .chunk index delta finish => do
    let delta ← textOf delta
    some (.object [(word "delta", .string delta), (word "finish", .bool finish),
      (word "index", .number (.ofInt index))])

/-- The fields of an error. -/
def errorObject (code : Int) (message : Json.Text) : Json :=
  .object [(word "code", .number (.ofInt code)), (word "message", .string message)]

def successJson : Json := errorObject 0 (word "")

/-- `error`: an error that is reported stays the text it is. -/
def errorJson (errorMsg : Bytes) : Option Json :=
  if errorMsg = noError then some successJson else (textOf errorMsg).map .string

/-- `out_body` of `send` -/
def Message.json (lengthScale : Json) (created : Int) (message : Message ResultData) : Option Json := do
  let data ← message.data.json lengthScale
  let error ← errorJson message.error
  let object ← textOf message.object
  let requestId ← textOf message.requestId
  let workId ← textOf message.workId
  some (.object [(word "created", .number (.ofInt created)), (word "data", data), (word "error", error),
    (word "object", .string object), (word "request_id", .string requestId),
    (word "work_id", .string workId)])

/-- The text that is sent of a message, without the line feed behind it. -/
def Message.line (lengthScale : Json) (created : Int) (message : Message ResultData) : Option Bytes :=
  (message.json lengthScale created).map Json.dump

end EdgeFlow.Node
