import EdgeFlow.Gateway.Cleanup
import EdgeFlow.Node.Base64
import EdgeFlow.Node.Sessions
import EdgeFlow.Node.TtsEngine
import EdgeFlow.System.Audio
import EdgeFlow.System.Replies
import EdgeFlow.System.Transcription

/-! A speech from the gateway's request to the audio that the gateway returns. -/

set_option autoImplicit false

namespace EdgeFlow.System
open Library Library.Byte Manager Node Gateway

/-! ## The request -/

/-- A speech request of the gateway that is JSON, with the ids that are made for it. -/
structure SpeechRequest where
  requestId : RequestId
  session : Int
  text : Json.Text
  speakerId : Value
  speaker : Int
  isSpeaker : intOf speakerId = some speaker
  lower : -2 ^ 31 ≤ speaker
  upper : speaker < 2 ^ 31
  lengthScale : Json.Number

namespace SpeechRequest
variable (request : SpeechRequest)

def workId : Bytes := sampleGetWorkId request.session (ascii "tts")

def message : Value :=
  speechMessage request.requestId.bytes request.workId request.text.bytes request.speakerId request.lengthScale.lexeme

def members : List (Json.Text × Json) :=
  speechMembers request.text (idJson request.speaker request.speakerId) request.lengthScale

/-- As a call of `inference_once`. -/
def once : OnceRequest where
  requestId := request.requestId.bytes
  workId := request.workId
  objectName := "tts.input"
  data := speechData request.text.bytes request.speakerId request.lengthScale.lexeme
  members := request.members
  idsClear := ⟨request.requestId.not_namesData, workId_not_namesData _ _⟩
  verbatim := by decide +kernel
  named := by decide +kernel
  spelled := dumps_speechData request.text request.isSpeaker request.lengthScale

/-- No brace is in the text. -/
def Braceless (text : Bytes) : Prop := ∀ b ∈ text, b ≠ openBrace ∧ b ≠ closeBrace

instance (text : Bytes) : Decidable (Braceless text) := inferInstanceAs (Decidable (∀ b ∈ text, _))

theorem braceless_number (n : Json.Number) : Braceless n.lexeme := by
  intro b member
  have isNumber := n.chars b member
  constructor <;> rintro rfl <;> cases isNumber

theorem braceless_idJson (n : Int) (speakerId : Value) : Braceless (idJson n speakerId).dumps := by
  cases speakerId with
  | bool b =>
    rw [idJson]
    cases b <;> decide +kernel
  | none | int | float | str | list | dict => exact braceless_number _

theorem Braceless.append {first second : Bytes} (front : Braceless first) (back : Braceless second) :
    Braceless (first ++ second) := List.forall_mem_append.mpr ⟨front, back⟩

/-- The members behind the text. -/
def laterMembers : List (Json.Text × Json) := request.members.tail

theorem braceless_laterMembers : Braceless (quote :: Json.dumpsMoreMembers request.laterMembers) := by
  have speakerKey : Braceless (quote :: (Json.separator ++ (Json.dumpsString (.ofAscii "speaker_id") ++
      [colon, space]))) := by
    decide +kernel
  have scaleKey : Braceless (Json.separator ++ (Json.dumpsString (.ofAscii "length_scale") ++ [colon, space])) := by
    decide +kernel
  have last : Braceless (Json.dumpsMoreMembers [(.ofAscii "format", .string (.ofAscii "wav")),
      (.ofAscii "play", .bool false)]) := by
    decide +kernel
  have all := speakerKey.append ((braceless_idJson request.speaker request.speakerId).append
    (scaleKey.append ((braceless_number request.lengthScale).append last)))
  have cut : quote :: Json.dumpsMoreMembers request.laterMembers =
      (quote :: (Json.separator ++ (Json.dumpsString (.ofAscii "speaker_id") ++ [colon, space]))) ++
        ((idJson request.speaker request.speakerId).dumps ++
          ((Json.separator ++ (Json.dumpsString (.ofAscii "length_scale") ++ [colon, space])) ++
            (request.lengthScale.lexeme ++ Json.dumpsMoreMembers [(.ofAscii "format", .string (.ofAscii "wav")),
              (.ofAscii "play", .bool false)]))) := by
    simp [laterMembers, members, speechMembers, Json.dumpsMoreMembers, Json.dumpsMember, Json.dumps]
  exact cut ▸ all

/-- The braces that count are those of the text. -/
theorem matched_inner_iff : Matched request.once.inner ↔ Matched request.text.bytes := by
  have front : ∀ b ∈ quoted (ascii "text") ++ [colon, space, quote], b ≠ openBrace ∧ b ≠ closeBrace := by
    decide +kernel
  have cut : request.once.inner = (quoted (ascii "text") ++ [colon, space, quote]) ++
      (Json.escape request.text.bytes ++ quote :: Json.dumpsMoreMembers request.laterMembers) := by
    have key : Json.dumpsString (.ofAscii "text") = quoted (ascii "text") := by decide +kernel
    have first : request.once.inner =
        Json.dumpsMember (.ofAscii "text", .string request.text) ++ Json.dumpsMoreMembers request.laterMembers := rfl
    rw [first, Json.dumpsMember, Json.dumps, key]
    simp [Json.dumpsString, quoted]
  rw [cut, matched_between_iff front request.braceless_laterMembers, matched_escape_iff]

/-- The numbers of the request are in range. -/
theorem ranged_members {F : Type} {nlohmann : Nlohmann F} {inRange : Json.Number → Bool}
    (reads : ReadsJson nlohmann inRange) (scale : inRange request.lengthScale = true) :
    ranged inRange (.object request.members) = true := by
  have speaker : ranged inRange (idJson request.speaker request.speakerId) = true := by
    cases request.speakerId with
    | bool b => rfl
    | none | int | float | str | list | dict => exact (reads.int _ request.lower request.upper).1
  simp [members, speechMembers, ranged, rangedMembers, speaker, scale]

section
variable {F : Type} {nlohmann : Nlohmann F} {inRange : Json.Number → Bool} (reads : ReadsJson nlohmann inRange)
include reads

/-- What the node is meant to do. -/
def params (nlohmann : Nlohmann F) : Params F :=
  ⟨request.text.bytes, ascii "wav", request.speaker, nlohmann.float request.lengthScale, false⟩

theorem resolve_delivered (scale : inRange request.lengthScale = true) {data : Bytes}
    (delivered : Delivered request.message data) (matched : Matched request.text.bytes) :
    resolve nlohmann data = request.params nlohmann := by
  have parsed := (request.once.parse_delivered_iff delivered).mpr ⟨rfl, request.matched_inner_iff.mpr matched⟩
  exact resolve_speechMembers (reads.int _ request.lower request.upper).2 request.isSpeaker
    (reads.reads _ _ parsed (request.ranged_members reads scale))

/-- A speech request that unit-manager publishes is read by the node as it was meant exactly when the braces in its
text match; otherwise the node plays a text on its own loudspeaker. -/
theorem resolve_delivered_iff (scale : inRange request.lengthScale = true) {data : Bytes}
    (delivered : Delivered request.message data) :
    (resolve nlohmann data = request.params nlohmann ↔ Matched request.text.bytes) ∧
      (¬ Matched request.text.bytes → (resolve nlohmann data).play = true) := by
  have plays : ¬ Matched request.text.bytes → (resolve nlohmann data).play = true := by
    intro unmatched
    unfold resolve
    split
    · rfl
    · next others parsed =>
      have object := (request.once.parse_delivered_iff delivered).mp (reads.only _ _ parsed)
      exact absurd (request.matched_inner_iff.mp object.2) unmatched
    · rfl
  refine ⟨⟨fun read => ?_, request.resolve_delivered reads scale delivered⟩, plays⟩
  by_contra unmatched
  have played := plays unmatched
  rw [read] at played
  cases played

end

theorem sends {takes : Bool} (isOpen : takes = true) : JsonLineClient.Sends takes request.message := by
  subst isOpen
  have validWork : Utf8.Valid request.workId := sampleGetWorkId_valid request.session .tts
  exact UnitManagerClient.sends_inferenceOnceMessage ⟨_, request.requestId.valid⟩ ⟨_, validWork⟩ (by decide +kernel)
    request.once.spelled

end SpeechRequest

/-! ## The reply -/

/-- The message that a statement of the worker sends. -/
def messageOfStatement (requestId workId : Bytes) : Statement → Option (Message ResultData)
  | .send object data errorMsg => some ⟨requestId, workId, object, data, errorMsg⟩
  | .setRequestId | .infer => none

/-- What is sent behind an inference of the speech node. -/
def ttsMessages (requestId workId : Bytes) (outcome : Except Bytes TaskResult) : List (Message ResultData) :=
  (Kind.tts.afterInfer false ⟨[], outcome⟩).filterMap (messageOfStatement requestId workId)

theorem inferenceOnce_result {python : Python} {takes closes : Bool} {message : Value}
    (sends : JsonLineClient.Sends takes message) {client : JsonLineClient} {line : Bytes} {lines : List Bytes}
    (waiting : client.lines = line :: lines) (expectedObject actionName : String) : ∃ after,
      (UnitManagerClient.inferenceOnce python takes closes message expectedObject actionName client).2 =
        (JsonLineClient.decode python line >>= UnitManagerClient.responseData python expectedObject actionName).map
          (·, after) := by
  have spec := JsonLineClient.receive_eq python closes client
  rw [waiting] at spec
  obtain ⟨after, received, -⟩ := spec
  refine ⟨after, ?_⟩
  rcases JsonLineClient.send_cases takes message with ⟨-, sent⟩ | ⟨fails, -⟩
  · simp only [UnitManagerClient.inferenceOnce, sent, received]
    cases JsonLineClient.decode python line with
    | error exc => rfl
    | ok response => simp only [Except.map, bind, Except.bind]
  · exact absurd sends fails

/-- The base 64 of a file is not empty. -/
theorem base64Encode_ne_nil {bytes : Bytes} (nonempty : bytes ≠ []) : base64Encode bytes ≠ [] := by
  intro empty
  have decoded := decode_base64Encode bytes
  rw [empty] at decoded
  cases decoded
  exact nonempty rfl

theorem writeWav_ne_nil (pcm : List Int16) : writeWav pcm ≠ [] := by
  simp [writeWav, foldl_appendU16Le, appendU32Le]

section
variable {F : Type} {nlohmann : Nlohmann F} {caller : Caller} {number : Json.Number → Value}
  {inRange readable : Json.Number → Bool} (reads : ReadsJson nlohmann inRange)
  (loads : LoadsJson caller.python number readable)
  (decodes : ∀ text bytes, Base64.decode text = some bytes → caller.b64decode text = .ok bytes)
include reads loads decodes

/-- What a connection with the reply to a speech waiting on it makes of the speech. -/
theorem ttsAudio_delivered (request : SpeechRequest) (scale : inRange request.lengthScale = true)
    (matched : Matched request.text.bytes) {data : Bytes} (delivered : Delivered request.message data)
    (engine : TtsEngine F) {requestId workId : Bytes} {message : Message ResultData}
    (sent : message ∈ ttsMessages requestId workId (ttsInference nlohmann engine data).1) {created : Int}
    {lengthScale : Json} (stamped : Stamped readable created lengthScale message.data) {line : Bytes}
    (written : message.line lengthScale created = some line) (takes : caller.peer.takes 1 = true)
    (named : (caller.requestId "tts_speech" 1).bytes = request.requestId.bytes) {client : JsonLineClient}
    {lines : List Bytes} (waiting : client.lines = line :: lines) :
    match engine.synthesizeToPcm request.text.bytes request.speaker (nlohmann.float request.lengthScale) with
    | .ok pcm =>
      caller.ttsAudio request.workId request.text.bytes request.speakerId request.lengthScale.lexeme client =
          .ok (writeWav pcm) ∧
        (36 + 2 * pcm.length < 2 ^ 32 → Decodes (writeWav pcm) (pcm.map Int16.toInt))
    | .error error => ∀ code text, Reports error code text →
      caller.ttsAudio request.workId request.text.bytes request.speakerId request.lengthScale.lexeme client =
        .error (raised "tts_speech" code text) := by
  have asked := request.resolve_delivered reads scale delivered matched
  have isRequest : speechMessage (caller.requestId "tts_speech" 1).bytes request.workId request.text.bytes
      request.speakerId request.lengthScale.lexeme = request.message := by
    rw [named]
    rfl
  obtain ⟨after, result⟩ := @inferenceOnce_result caller.python _ caller.peer.closes _ (request.sends takes) _ _ _
    waiting "tts.audio" "tts_speech"
  have inferred : (ttsInference nlohmann engine data).1 =
      (engine.synthesizeToPcm request.text.bytes request.speaker (nlohmann.float request.lengthScale)).map fun pcm =>
        .tts request.text.bytes (Int32.ofNat pcm.length).toInt request.speaker
          (some (base64Encode (writeWav pcm))) := by
    rw [ttsInference, asked, TtsEngine.perform, if_pos ⟨rfl, rfl⟩]
    simp only [TtsEngine.synthesize, SpeechRequest.params]
    cases engine.synthesizeToPcm request.text.bytes request.speaker (nlohmann.float request.lengthScale) <;> rfl
  rw [inferred] at sent
  cases made : engine.synthesizeToPcm request.text.bytes request.speaker (nlohmann.float request.lengthScale) with
  | error error =>
    rw [made] at sent
    obtain rfl := List.mem_singleton.mp sent
    intro code text reports
    rw [inferenceData_failure loads stamped written reports] at result
    simp only [Caller.ttsAudio, isRequest, result, Except.map, bind, Except.bind]
  | ok pcm =>
    rw [made] at sent
    obtain rfl := List.mem_singleton.mp sent
    have isObject : Kind.tts.resultObject (.tts request.text.bytes (Int32.ofNat pcm.length).toInt request.speaker
        (some (base64Encode (writeWav pcm)))) = ascii "tts.audio" := rfl
    rw [inferenceData_success loads stamped written rfl isObject] at result
    obtain ⟨first, rest, spelled⟩ := List.exists_cons_of_ne_nil (base64Encode_ne_nil (writeWav_ne_nil pcm))
    have audio : ∀ lengthScale, (dataValue lengthScale (.result (.tts request.text.bytes (Int32.ofNat pcm.length).toInt
        request.speaker (some (base64Encode (writeWav pcm)))))).get "audio_base64" .none =
          .ok (.str (first :: rest)) := by
      intro lengthScale
      rw [← spelled]
      rfl
    have decoded := decodes _ _ (decode_base64Encode (writeWav pcm))
    rw [spelled] at decoded
    refine ⟨?_, fun fits => ?_⟩
    · simp only [Caller.ttsAudio, isRequest, result, Except.map, bind, Except.bind, audio, decoded, Except.mapError]
    · rw [writeWav_eq fits]
      have whole := @decodes_pcm16 (pcm.map Int16.toBitVec) (by rwa [List.length_map])
      rwa [List.map_map] at whole

/-- A speech whose text has its braces in pairs comes back as the file of the samples that the engine makes of the
text, the speaker and the length scale of the request, and the samples are in the file as they were made; where the
engine fails, its error is raised. What comes of the session is what comes of the call, whatever its cleanup does. -/
theorem speech_audio (request : SpeechRequest) (scale : inRange request.lengthScale = true)
    (matched : Matched request.text.bytes) {data : Bytes} (delivered : Delivered request.message data)
    (engine : TtsEngine F) {requestId workId : Bytes} {message : Message ResultData}
    (sent : message ∈ ttsMessages requestId workId (ttsInference nlohmann engine data).1) {created : Int}
    {lengthScale : Json} (stamped : Stamped readable created lengthScale message.data) {line : Bytes}
    (written : message.line lengthScale created = some line) (takes : caller.peer.takes 1 = true)
    (named : (caller.requestId "tts_speech" 1).bytes = request.requestId.bytes) {client : JsonLineClient}
    {lines : List Bytes} (waiting : client.lines = line :: lines) :
    match engine.synthesizeToPcm request.text.bytes request.speaker (nlohmann.float request.lengthScale) with
    | .ok pcm =>
      caller.ttsAudio request.workId request.text.bytes request.speakerId request.lengthScale.lexeme client =
          .ok (writeWav pcm) ∧
        (caller.session (caller.requestId "tts_setup" 0).bytes "tts" = .ok (request.workId, client) →
          (caller.runTtsSpeech request.text.bytes request.speakerId request.lengthScale.lexeme).result =
            .ok (writeWav pcm)) ∧
        (36 + 2 * pcm.length < 2 ^ 32 → Decodes (writeWav pcm) (pcm.map Int16.toInt))
    | .error error => ∀ code text, Reports error code text →
      caller.ttsAudio request.workId request.text.bytes request.speakerId request.lengthScale.lexeme client =
          .error (raised "tts_speech" code text) ∧
        (caller.session (caller.requestId "tts_setup" 0).bytes "tts" = .ok (request.workId, client) →
          (caller.runTtsSpeech request.text.bytes request.speakerId request.lengthScale.lexeme).result =
            .error (.exc (raised "tts_speech" code text))) := by
  have audio := ttsAudio_delivered reads loads decodes request scale matched delivered engine sent stamped written takes
    named waiting
  cases made : engine.synthesizeToPcm request.text.bytes request.speaker (nlohmann.float request.lengthScale) with
  | error error =>
    rw [made] at audio
    intro code text reports
    refine ⟨audio code text reports, fun setUp => ?_⟩
    rw [caller.runTtsSpeech_result setUp, audio code text reports]
    rfl
  | ok pcm =>
    rw [made] at audio
    refine ⟨audio.1, fun setUp => ?_, audio.2⟩
    rw [caller.runTtsSpeech_result setUp, audio.1]
    rfl

end

/-! ## A short speech -/

def reciting : UnitData :=
  ⟨0, ascii "tts.0", ascii "ipc:///tmp/llm/5010.sock.tts.output_url",
    ascii "ipc:///tmp/llm/5011.sock.tts.inference_url"⟩

def Bus.reciting : Bus :=
  { Bus.unattended with
    registry :=
      ⟨1, 5010, [true, true], fun key => if key = ascii "tts.0" then some (.unit System.reciting) else none⟩ }

/-- A request to say a set. -/
def setRequest : SpeechRequest where
  requestId := { someRequestId with namePrefix := "tts_speech", isAscii := by decide +kernel }
  session := 0
  text := .ofAscii "{a, b}"
  speakerId := .int 0
  speaker := 0
  isSpeaker := rfl
  lower := by decide
  upper := by decide
  lengthScale := ⟨ascii "1.0", by decide +kernel⟩

def setData : Bytes := (someChannel.subscriberEventCall (inferenceRawData zmqCFormat 8000 setRequest.message.dumps)).1.2

theorem delivered_set : Delivered setRequest.message setData := by
  refine ⟨Bus.reciting, 8000, [.published reciting (inferenceRawData zmqCFormat 8000 setRequest.message.dumps)],
    reciting, _, someChannel, zmqCFormat_addressable, ?_, List.mem_singleton_self _, rfl⟩
  decide +kernel

theorem resolve_delivered_set : resolve jsonNlohmann setData = setRequest.params jsonNlohmann :=
  (setRequest.resolve_delivered_iff jsonNlohmann_reads rfl delivered_set).1.mpr (by decide +kernel)

def setReply : Message ResultData :=
  ⟨ascii "1", ascii "tts.0", ascii "tts.audio",
    .result (.tts (ascii "{a, b}") 1 0 (some (base64Encode (writeWav [0])))), noError⟩

def setLine : Bytes := (setReply.line (.number setRequest.lengthScale) 7).getD []

/-- The reply to the setup of the first session. -/
def setupLine : Bytes :=
  ascii "\x7b\"work_id\":\"tts.0\",\"object\":\"None\",\"data\":\"None\"," ++
    ascii "\"error\":\x7b\"code\":0,\"message\":\"\"\x7d\x7d"

/-- A gateway that reads any JSON, with the two replies of a session on its way. -/
def reciter : Caller where
  python := jsonPython
  b64decode text := (Base64.decode text).elim (.error []) .ok
  requestId _ _ := ⟨setRequest.requestId.bytes, setRequest.requestId.valid⟩
  chat := ⟨[], [], fun _ => 0, [], []⟩
  peer := ⟨true, fun _ => true, [setupLine ++ [newline], setLine ++ [newline]], true⟩
  creates := some (ascii "tts.0")
  cleanupPeer := ⟨true, fun _ => true, [], true⟩

theorem reciter_session :
    reciter.session (reciter.requestId "tts_setup" 0).bytes "tts" =
      .ok (ascii "tts.0", ⟨[], [setLine ++ [newline]]⟩) := by
  decide +kernel

theorem speech_audio_set : (reciter.runTtsSpeech (ascii "{a, b}") (.int 0) (ascii "1.0")).result =
    .ok (writeWav [0]) := by
  have decodes : ∀ text bytes, Base64.decode text = some bytes → reciter.b64decode text = .ok bytes := by
    intro text bytes decoded
    simp only [reciter, decoded]
    rfl
  have sent : setReply ∈ ttsMessages (ascii "1") (ascii "tts.0") (ttsInference jsonNlohmann oneSample setData).1 := by
    rw [ttsInference, setRequest.resolve_delivered jsonNlohmann_reads rfl delivered_set (by decide +kernel)]
    exact List.mem_singleton_self _
  have stamped : Stamped (fun _ => true) 7 (.number setRequest.lengthScale) setReply.data :=
    ⟨by decide, rfl, by decide, by decide⟩
  exact (speech_audio jsonNlohmann_reads jsonPython_loads decodes setRequest rfl (by decide +kernel) delivered_set
    oneSample sent stamped (by decide +kernel : setReply.line (.number setRequest.lengthScale) 7 = some setLine) rfl rfl
    (by decide +kernel : JsonLineClient.lines ⟨[], [setLine ++ [newline]]⟩ = [setLine])).2.1 reciter_session

end EdgeFlow.System
