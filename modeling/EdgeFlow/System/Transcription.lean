import EdgeFlow.Gateway.AudioUtils
import EdgeFlow.Gateway.Transcription
import EdgeFlow.Node.AsrTask
import EdgeFlow.System.Inference
import Mathlib.Data.List.Infix

/-! An upload on its way through the gateway and unit-manager to the recognizer. -/

set_option autoImplicit false

namespace EdgeFlow.System
open Library Library.Byte Library.Wave Manager Node Gateway

/-! ## Requests -/

/-- The data of a chunk. -/
def chunkMembers (samples : List Int) : List (Json.Text × Json) :=
  [(.ofAscii "samples", .array (samples.map fun n => .number (.ofInt n))), (.ofAscii "finish", .bool false)]

def finishMembers : List (Json.Text × Json) := [(.ofAscii "finish", .bool true)]

theorem dumps_chunk (samples : List Int) :
    (dict [("samples", .list (samples.map .int)), ("finish", .bool false)]).dumps =
      Json.dumps (.object (chunkMembers samples)) := by
  simp [chunkMembers, dict, Value.dumps, Value.dumpsMembers, Value.dumpsMoreMembers, Value.dumpsMember, Json.dumps,
    Json.dumpsMembers, Json.dumpsMoreMembers, Json.dumpsMember, Json.dumpsString, Json.Text.ofAscii, dumpsItems_int]

theorem dumps_asrFinish : (dict [("finish", .bool true)]).dumps = Json.dumps (.object finishMembers) := by
  decide +kernel

/-- A sample is written without braces. -/
theorem ofInt_braceless (n : Int) : ∀ b ∈ Decimal.ofInt n, b ≠ openBrace ∧ b ≠ closeBrace := by
  intro b member
  rcases Decimal.mem_ofInt member with digit | rfl
  · constructor <;> rintro rfl <;> cases digit
  · decide

theorem dumpsItems_braceless (samples : List Int) :
    ∀ b ∈ Json.dumpsItems (samples.map fun n => .number (.ofInt n)), b ≠ openBrace ∧ b ≠ closeBrace := by
  have more : ∀ samples : List Int, ∀ b ∈ Json.dumpsMoreItems (samples.map fun n => .number (.ofInt n)),
      b ≠ openBrace ∧ b ≠ closeBrace := by
    intro samples
    induction samples with
    | nil => exact nofun
    | cons n samples ih =>
      rw [List.map_cons, Json.dumpsMoreItems]
      exact List.forall_mem_append.mpr ⟨by decide +kernel, List.forall_mem_append.mpr ⟨ofInt_braceless n, ih⟩⟩
  cases samples with
  | nil => exact nofun
  | cons n samples =>
    rw [List.map_cons, Json.dumpsItems]
    exact List.forall_mem_append.mpr ⟨ofInt_braceless n, more samples⟩

theorem matched_chunkMembers (samples : List Int) : Matched (Json.dumpsMembers (chunkMembers samples)) := by
  have front : ∀ b ∈ quoted (ascii "samples") ++ [colon, space, openBracket], b ≠ openBrace ∧ b ≠ closeBrace := by
    decide +kernel
  have back : ∀ b ∈ closeBracket :: Json.dumpsMoreMembers [(.ofAscii "finish", .bool false)],
      b ≠ openBrace ∧ b ≠ closeBrace := by
    decide +kernel
  have cut : Json.dumpsMembers (chunkMembers samples) = (quoted (ascii "samples") ++ [colon, space, openBracket]) ++
      (Json.dumpsItems (samples.map fun n => .number (.ofInt n)) ++
        closeBracket :: Json.dumpsMoreMembers [(.ofAscii "finish", .bool false)]) := by
    have key : Json.dumpsString (.ofAscii "samples") = quoted (ascii "samples") := by decide +kernel
    simp [chunkMembers, Json.dumpsMembers, Json.dumpsMember, Json.dumps, key]
  rw [cut, matched_between_iff front back]
  exact follow_braceStep_other (dumpsItems_braceless samples) 0

theorem matched_finishMembers : Matched (Json.dumpsMembers finishMembers) := by decide +kernel

/-- The ids of a transcription, as the gateway and unit-manager make them. -/
structure Identified (transcriber : Transcriber) : Prop where
  requests : ∀ name index, ∃ id : RequestId, (transcriber.requestId name index).bytes = id.bytes
  session : ∃ number, transcriber.workId = sampleGetWorkId number (ascii "asr")

section
variable {transcriber : Transcriber} (identified : Identified transcriber)
include identified

theorem Identified.clear (name : String) (index : Nat) :
    ¬ NamesData (transcriber.requestId name index).bytes ∧ ¬ NamesData transcriber.workId := by
  obtain ⟨id, same⟩ := identified.requests name index
  obtain ⟨number, isWorkId⟩ := identified.session
  rw [same, isWorkId]
  exact ⟨id.not_namesData, workId_not_namesData number _⟩

/-- A request of `asr_transcribe`. -/
def Identified.request (index : Nat) (name : String) {data : Value} {members : List (Json.Text × Json)}
    (spelled : data.dumps = Json.dumps (.object members)) : OnceRequest where
  requestId := (transcriber.requestId name (index + 1)).bytes
  workId := transcriber.workId
  objectName := "asr.audio"
  data
  members
  idsClear := identified.clear name (index + 1)
  verbatim := by decide +kernel
  named := by decide +kernel
  spelled

end

/-! ## On the way -/

/-- What the callback of a node gets of a message that unit-manager publishes. -/
def Delivered (message : Value) (data : Bytes) : Prop :=
  ∃ bus comId sent unit raw, ∃ channel : Channel, Addressable bus.zmqCFormat ∧
    unitActionMatch bus comId message.dumps = .ok sent ∧ .published unit raw ∈ sent ∧
      data = (channel.subscriberEventCall raw).1.2

theorem OnceRequest.parse_delivered_iff (request : OnceRequest) {data : Bytes}
    (delivered : Delivered request.message data) {others : List (Json.Text × Json)} :
    Json.parse data = some (.object others) ↔ others = request.members ∧ Matched request.inner := by
  obtain ⟨bus, comId, sent, unit, raw, channel, addressable, returned, published, rfl⟩ := delivered
  obtain ⟨header, -, -, -, rfl⟩ := unitActionMatch_published returned published
  exact request.parse_received_iff addressable comId channel

/-! ## What the task understands -/

/-- A sample of 16 bits. -/
def IsSample (n : Int) : Prop := -2 ^ 15 ≤ n ∧ n < 2 ^ 15

theorem IsSample.toInt_ofInt {n : Int} (isSample : IsSample n) : (Int16.ofInt n).toInt = n :=
  Int16.toInt_ofInt_of_le isSample.1 isSample.2

theorem samples_isSample (bytes : Bytes) : ∀ n ∈ samples bytes, IsSample n := by
  induction bytes using samples.induct with
  | case1 low high bytes ih =>
    exact List.forall_mem_cons.mpr ⟨⟨BitVec.le_toInt _, BitVec.toInt_lt⟩, ih⟩
  | case2 | case3 => exact nofun

section
variable {F : Type} {nlohmann : Nlohmann F} {inRange : Json.Number → Bool} (reads : ReadsJson nlohmann inRange)
include reads

theorem ranged_samples {samples : List Int} (areSamples : ∀ n ∈ samples, IsSample n) :
    rangedItems inRange (samples.map fun n => .number (.ofInt n)) = true := by
  induction samples with
  | nil => rfl
  | cons n samples ih =>
    obtain ⟨isSample, areSamples⟩ := List.forall_mem_cons.mp areSamples
    have inside : inRange (Json.Number.ofInt n) = true := by
      refine (reads.int n ?_ ?_).1
      · exact Int.le_trans (by decide) isSample.1
      · exact Int.lt_trans isSample.2 (by decide)
    simp [rangedItems, ranged, inside, ih areSamples]

theorem getSamples_samples {samples : List Int} (areSamples : ∀ n ∈ samples, IsSample n) :
    getSamples nlohmann (.array (samples.map fun n => .number (.ofInt n))) = some (samples.map Int16.ofInt) := by
  induction samples with
  | nil => rfl
  | cons n samples ih =>
    obtain ⟨isSample, areSamples⟩ := List.forall_mem_cons.mp areSamples
    have read : nlohmann.int (Json.Number.ofInt n) = n := by
      refine (reads.int n ?_ ?_).2
      · exact Int.le_trans (by decide) isSample.1
      · exact Int.lt_trans isSample.2 (by decide)
    have first : (getInt nlohmann (.number (.ofInt n))).map Int16.ofInt = some (Int16.ofInt n) :=
      congrArg (fun m => some (Int16.ofInt m)) read
    have later := ih areSamples
    simp only [getSamples, List.map_cons, List.mapM_cons] at later ⊢
    rw [first, later]
    rfl

theorem asrRequest_chunk {samples : List Int} (areSamples : ∀ n ∈ samples, IsSample n) {data : Bytes}
    (parsed : Json.parse data = some (.object (chunkMembers samples))) :
    asrRequest nlohmann data = some (.samples (samples.map Int16.ofInt)) := by
  have inside : ranged inRange (.object (chunkMembers samples)) = true := by
    simp [chunkMembers, ranged, rangedMembers, ranged_samples reads areSamples]
  have finish : valueOr getBool "finish" false (chunkMembers samples) = some false := rfl
  have found : field "samples" (chunkMembers samples) = some (.array (samples.map fun n => .number (.ofInt n))) := rfl
  simp [asrRequest, reads.reads data _ parsed inside, finish, found, getSamples_samples reads areSamples]

theorem asrRequest_finish {data : Bytes} (parsed : Json.parse data = some (.object finishMembers)) :
    asrRequest nlohmann data = some .finish := by
  have finish : valueOr getBool "finish" false finishMembers = some true := rfl
  simp [asrRequest, reads.reads data _ parsed rfl, finish]

/-- The requests for a file. -/
def fileRequests (chunks : List (List Int)) : List (Option AsrRequest) :=
  chunks.map (fun samples => some (.samples (samples.map Int16.ofInt))) ++ [some .finish]

/-- The requests that get to the node are understood as what they were made of. -/
theorem asrRequest_delivered {transcriber : Transcriber} (identified : Identified transcriber)
    {chunks : List (List Int)} (areSamples : ∀ samples ∈ chunks, ∀ n ∈ samples, IsSample n) {index : Nat}
    {sent : List Value} (isPrefix : sent <+: transcriber.requests index chunks) {inputs : List Bytes}
    (delivered : List.Forall₂ Delivered sent inputs) :
    inputs.map (asrRequest nlohmann) <+: fileRequests chunks := by
  induction chunks generalizing index sent inputs with
  | nil =>
    cases delivered with
    | nil => exact List.nil_prefix
    | cons first later =>
      rw [Transcriber.requests, List.cons_prefix_cons, List.prefix_nil] at isPrefix
      obtain ⟨rfl, rfl⟩ := isPrefix
      cases later
      have parsed := ((identified.request index "asr_finish" dumps_asrFinish).parse_delivered_iff first).mpr
        ⟨rfl, matched_finishMembers⟩
      exact List.cons_prefix_cons.mpr ⟨asrRequest_finish reads parsed, List.nil_prefix⟩
  | cons samples chunks ih =>
    obtain ⟨here, areSamples⟩ := List.forall_mem_cons.mp areSamples
    cases delivered with
    | nil => exact List.nil_prefix
    | cons first later =>
      rw [Transcriber.requests, List.cons_prefix_cons] at isPrefix
      obtain ⟨rfl, isPrefix⟩ := isPrefix
      have parsed := ((identified.request index (chunkName index) (dumps_chunk samples)).parse_delivered_iff first).mpr
        ⟨rfl, matched_chunkMembers samples⟩
      exact List.cons_prefix_cons.mpr ⟨asrRequest_chunk reads here parsed, ih areSamples isPrefix later⟩

end

/-! ## What goes out -/

section
variable {python : Python} {transcriber : Transcriber}

theorem inferenceOnce_sent {takes closes : Bool} {message : Value} {expectedObject actionName : String}
    {client : JsonLineClient} {sent : List Value} {outcome : Except Exc (Value × JsonLineClient)}
    (called : UnitManagerClient.inferenceOnce python takes closes message expectedObject actionName client =
      (sent, outcome)) : sent = [message] ∨ sent = [] ∧ ∃ exc, outcome = .error exc := by
  unfold UnitManagerClient.inferenceOnce at called
  split at called
  · cases called
    exact .inr ⟨rfl, _, rfl⟩
  · cases called
    exact .inl rfl

theorem inferenceOnce_first {takes closes : Bool} {message : Value} {expectedObject actionName : String}
    {client : JsonLineClient} {sent : List Value} {outcome : Except Exc (Value × JsonLineClient)}
    (called : UnitManagerClient.inferenceOnce python takes closes message expectedObject actionName client =
      (sent, outcome)) (later : List Value) : sent <+: message :: later := by
  rcases inferenceOnce_sent called with rfl | ⟨rfl, -⟩
  · exact List.cons_prefix_cons.mpr ⟨rfl, List.nil_prefix⟩
  · exact List.nil_prefix

/-- However it ends, the requests have gone out in order. -/
theorem asrTranscribe_sent (index : Nat) (finalText : Bytes) (chunks : List (List Int)) (client : JsonLineClient) :
    (transcriber.asrTranscribe python index finalText chunks client).1 <+: transcriber.requests index chunks := by
  induction chunks generalizing index finalText client with
  | nil =>
    unfold Transcriber.asrTranscribe
    split <;> exact inferenceOnce_first ‹_› []
  | cons samples chunks ih =>
    unfold Transcriber.asrTranscribe
    split
    · exact inferenceOnce_first ‹_› _
    · next sent data client called =>
      split
      · exact inferenceOnce_first called _
      · split
        · exact inferenceOnce_first called _
        · rcases inferenceOnce_sent called with rfl | ⟨-, _, failed⟩
          · exact List.cons_prefix_cons.mpr ⟨rfl, ih _ _ _⟩
          · cases failed

end

/-! ## An upload -/

theorem asrChunks_ok {wav : Bytes} {chunks : List (List Int)} (cut : asrChunks wav = .ok chunks) :
    ∃ payload, PcmFile wav payload ∧ chunks.flatten = samples payload := by
  cases opened : initfp wav with
  | error fault => cases cut.symm.trans (asrChunks_refused (wavPcm16Chunks_fault opened 100))
  | ok wave =>
    by_cases isMono : wave.fmt = mono16
    · obtain ⟨fmt, data⟩ := wave
      dsimp only at isMono
      subst isMono
      rcases Nat.mod_two_eq_zero_or_one (Reader.rest data).length with even | odd
      · obtain ⟨made, read, flat, -, -⟩ := readBlocks_even (by decide : 0 < 1600) even
        have isMade : chunks = made := by
          rw [asrChunks, wavPcm16Chunks_eq opened, read] at cut
          simp only [bind, Except.bind] at cut
          split at cut
          · cases cut
          · exact (Except.ok.inj cut).symm
        exact ⟨_, (pcmFile_iff opened).mpr rfl, isMade ▸ flat⟩
      · have refused := readBlocks_odd (by decide : 0 < 1600) odd
        cases cut.symm.trans (asrChunks_refused ((wavPcm16Chunks_eq opened).trans refused))
    · obtain ⟨message, refused⟩ := wavPcm16Chunks_other opened isMono 100
      cases cut.symm.trans (asrChunks_refused refused)

theorem fedChunks_fileRequests (chunks : List (List Int)) :
    fedChunks (fileRequests chunks) = chunks.map (List.map Int16.ofInt) := by
  simp [fedChunks, fileRequests, List.filterMap_append, List.filterMap_map]

theorem fedSamples_mono {requests more : List (Option AsrRequest)} (isPrefix : requests <+: more) :
    (fedChunks requests).flatten.map Int16.toInt <+: (fedChunks more).flatten.map Int16.toInt :=
  (isPrefix.filterMap _).flatten.map _

theorem toInt_chunks {chunks : List (List Int)} (areSamples : ∀ samples ∈ chunks, ∀ n ∈ samples, IsSample n) :
    (chunks.map (List.map Int16.ofInt)).flatten.map Int16.toInt = chunks.flatten := by
  rw [← List.map_flatten, List.map_map]
  refine (List.map_congr_left fun n member => ?_).trans (List.map_id _)
  obtain ⟨samples, inChunks, inSamples⟩ := List.mem_flatten.mp member
  exact (areSamples samples inChunks n inSamples).toInt_ofInt

/-- Once they are understood, requests are answered. -/
theorem takeAll_ok {S : Type} {recognizer : Recognizer S} {fresh : S} (dictation : Dictation)
    {requests : List (Option AsrRequest)} (understood : none ∉ requests) :
    ∀ outcome ∈ (dictation.takeAll recognizer fresh requests).1, ∃ result, outcome = .ok result := by
  induction requests generalizing dictation with
  | nil => exact nofun
  | cons request requests ih =>
    obtain ⟨here, later⟩ := List.ne_and_not_mem_of_not_mem_cons understood
    cases request with
    | none => exact absurd rfl here
    | some request => exact List.forall_mem_cons.mpr ⟨⟨_, rfl⟩, ih _ later⟩

section
variable {F S : Type} {nlohmann : Nlohmann F} {inRange : Json.Number → Bool} (reads : ReadsJson nlohmann inRange)
  {transcriber : Transcriber} (identified : Identified transcriber)
include reads identified

/-- However the responses come out, the task hears the samples of the upload from the first one on, in order, and
answers all it gets; once it has had as many requests as there are chunks, it has heard the whole file. `CreateStream`
of the recognizer is taken to succeed. -/
theorem upload_heard {wav : Bytes} {chunks : List (List Int)} (cut : asrChunks wav = .ok chunks) (python : Python)
    (client : JsonLineClient) {inputs : List Bytes}
    (delivered : List.Forall₂ Delivered (transcriber.asrTranscribe python 0 [] chunks client).1 inputs)
    (recognizer : Recognizer S) (fresh : S) :
    ∃ payload outcomes dictation, PcmFile wav payload ∧
      Dictation.dictate recognizer fresh (inputs.map (asrRequest nlohmann)) = (outcomes, dictation) ∧
      asrSession nlohmann recognizer (some fresh) (some fresh) inputs =
        (outcomes, some (Dictation.heard recognizer fresh dictation.current)) ∧
      (∀ outcome ∈ outcomes, ∃ result, outcome = .ok result) ∧
      dictation.chunks.flatten.map Int16.toInt <+: samples payload ∧
      (chunks.length ≤ inputs.length → dictation.chunks.flatten.map Int16.toInt = samples payload) := by
  obtain ⟨payload, isFile, flat⟩ := asrChunks_ok cut
  have areSamples : ∀ samples ∈ chunks, ∀ n ∈ samples, IsSample n := by
    intro chunk member n inChunk
    exact samples_isSample payload n (flat ▸ List.mem_flatten_of_mem member inChunk)
  have sent := @asrTranscribe_sent python transcriber 0 [] chunks client
  have understood := asrRequest_delivered reads identified areSamples sent delivered
  have all : (fedChunks (fileRequests chunks)).flatten.map Int16.toInt = samples payload := by
    rw [fedChunks_fileRequests, toInt_chunks areSamples, flat]
  refine ⟨payload, _, _, isFile, rfl, asrSession_takeAll ⟨[], []⟩ inputs, takeAll_ok ⟨[], []⟩ ?_, ?_⟩
  · intro refused
    simpa [fileRequests] using understood.subset refused
  · rw [Dictation.chunks_takeAll, Dictation.chunks, List.flatten_nil, List.nil_append, List.nil_append, ← all]
    refine ⟨fedSamples_mono understood, fun whole => (fedSamples_mono understood).eq_of_length_le ?_⟩
    -- every chunk has its request among these
    have front : chunks.map (fun samples => some (AsrRequest.samples (samples.map Int16.ofInt))) <+:
        inputs.map (asrRequest nlohmann) :=
      List.prefix_of_prefix_length_le (List.prefix_append _ _) understood (by simpa using whole)
    have same : fedChunks (fileRequests chunks) =
        fedChunks (chunks.map fun samples => some (AsrRequest.samples (samples.map Int16.ofInt))) := by
      simp [fedChunks, fileRequests]
    rw [same]
    exact (fedSamples_mono front).length_le

end

def listening : UnitData :=
  ⟨0, ascii "asr.0", ascii "ipc:///tmp/llm/5010.sock.asr.output_url",
    ascii "ipc:///tmp/llm/5011.sock.asr.inference_url"⟩

def Bus.listening : Bus :=
  { Bus.unattended with
    registry :=
      ⟨1, 5010, [true, true], fun key => if key = ascii "asr.0" then some (.unit System.listening) else none⟩ }

def someRequestId : RequestId :=
  ⟨"asr_chunk_000000", by decide +kernel, 1700000000, ascii "0f3a9c1e", by decide +kernel, by decide +kernel⟩

/-- A connection that takes everything. -/
def dictating : Transcriber where
  peer := ⟨true, fun _ => true, [], true⟩
  workId := ascii "asr.0"
  requestId _ _ := ⟨someRequestId.bytes, by decide +kernel⟩

theorem dictating_identified : Identified dictating where
  requests _ _ := ⟨someRequestId, rfl⟩
  session := ⟨0, by decide +kernel⟩

/-- What the callback of the session gets of a message. -/
def received (message : Value) : Bytes :=
  (someChannel.subscriberEventCall (inferenceRawData zmqCFormat 8000 message.dumps)).1.2

/-- What unit-manager reads of a message to the session. -/
theorem readHeader_dictating (index : Nat) (name : String) {data : Value} {json : Json}
    (spelled : data.dumps = json.dumps) :
    ∃ header, readHeader Simdjson.firstMember (dictating.message index name data).dumps = some header ∧
      header.routedId = ascii "asr.0" ∧ header.action.value = ascii "inference" := by
  let beforeWorkId := [openBrace] ++ quoted (ascii "request_id") ++ ([colon, space] ++ quoted someRequestId.bytes) ++
    Json.separator
  let beforeAction := beforeWorkId ++ quoted (ascii "work_id") ++ ([colon, space] ++ quoted (ascii "asr.0")) ++
    Json.separator
  let rest := Value.dumpsMoreMembers [(ascii "object", .str (ascii "asr.audio")), (ascii "data", data)] ++ [closeBrace]
  have atAction : (dictating.message index name data).dumps = beforeAction ++ quoted (ascii "action") ++
      ([colon, space] ++ quoted (ascii "inference") ++ rest) := by
    have verbatim : ∀ word ∈ [ascii "request_id", someRequestId.bytes, ascii "work_id", ascii "asr.0", ascii "action",
        ascii "inference"], Json.escape word = word := by
      decide +kernel
    simp only [List.forall_mem_cons] at verbatim
    obtain ⟨requestKey, requestId, workKey, workId, actionKey, action, -⟩ := verbatim
    have ids : (dictating.requestId name (index + 1)).bytes = someRequestId.bytes := rfl
    have work : dictating.workId = ascii "asr.0" := rfl
    rw [Transcriber.message, UnitManagerClient.inferenceOnceMessage, ids, work]
    simp only [dict, List.map_cons, List.map_nil, Value.dumps, Value.dumpsMembers, Value.dumpsMoreMembers,
      Value.dumpsMember, requestKey, requestId, workKey, workId, actionKey, action]
    simp [beforeAction, beforeWorkId, rest, Value.dumpsMoreMembers, Value.dumpsMember, Value.dumps]
  have atWorkId : (dictating.message index name data).dumps = beforeWorkId ++ quoted (ascii "work_id") ++
      ([colon, space] ++ quoted (ascii "asr.0") ++ (Json.separator ++ quoted (ascii "action") ++
        ([colon, space] ++ quoted (ascii "inference") ++ rest))) := by
    rw [atAction]
    simp [beforeAction]
  have atRequestId : (dictating.message index name data).dumps = [openBrace] ++ quoted (ascii "request_id") ++
      ([colon, space] ++ quoted someRequestId.bytes ++ (Json.separator ++ quoted (ascii "work_id") ++
        ([colon, space] ++ quoted (ascii "asr.0") ++ (Json.separator ++ quoted (ascii "action") ++
          ([colon, space] ++ quoted (ascii "inference") ++ rest))))) := by
    rw [atWorkId]
    simp [beforeWorkId]
  have same : ∀ value ∈ [someRequestId.bytes, ascii "asr.0", ascii "inference"],
      Json.unescape value = some value ∧ Utf8.Valid value := by
    decide +kernel
  simp only [List.forall_mem_cons] at same
  obtain ⟨⟨spelledId, validId⟩, ⟨spelledWorkId, validWorkId⟩, ⟨spelledAction, validAction⟩, -⟩ := same
  obtain ⟨requestId, readRequestId, -⟩ := Simdjson.firstMember_field atRequestId (by decide +kernel) (by decide)
    spelledId validId []
  obtain ⟨workId, readWorkId, isWorkId⟩ := Simdjson.firstMember_field atWorkId (by decide +kernel) (by decide +kernel)
    spelledWorkId validWorkId [ascii "request_id"]
  obtain ⟨action, readAction, isAction⟩ := Simdjson.firstMember_field atAction (by decide +kernel) (by decide +kernel)
    spelledAction validAction [ascii "request_id", ascii "work_id"]
  have accepts : Simdjson.firstMember.accepts (dictating.message index name data).dumps = true := by
    obtain ⟨members, whole⟩ := UnitManagerClient.dumps_inferenceOnceMessage (dictating.requestId name (index + 1))
      ⟨dictating.workId, by decide +kernel⟩ (by decide +kernel : ∀ b ∈ ascii "asr.audio", Utf8.IsAscii b) spelled
    refine decide_eq_true ⟨whole ▸ Json.dumps_valid _, ?_⟩
    rw [atRequestId]
    rfl
  refine ⟨⟨requestId, workId, action⟩, ?_, ?_, isAction⟩
  · rw [readHeader, if_pos accepts, readRequestId, readWorkId, readAction]
    rfl
  · rw [Header.routedId, isWorkId]
    rfl

theorem delivered_dictating (index : Nat) (name : String) {data : Value} {json : Json}
    (spelled : data.dumps = json.dumps) :
    Delivered (dictating.message index name data) (received (dictating.message index name data)) := by
  obtain ⟨header, read, routed, action⟩ := readHeader_dictating index name spelled
  have isRead : readHeader Bus.listening.simdjson (dictating.message index name data).dumps = some header := read
  have unit : Bus.listening.registry.readUnit (ascii "asr.0") = some listening := rfl
  refine ⟨Bus.listening, 8000, [.published listening (inferenceRawData zmqCFormat 8000 _)], listening, _, someChannel,
    zmqCFormat_addressable, ?_, List.mem_singleton_self _, rfl⟩
  rw [unitActionMatch, isRead]
  simp only [action, if_true, routed, zmqBusPublisherPush, unit]
  rfl

theorem asrChunks_two {first second : Bytes} (whole : first.length = 3200) (short : second.length = 2) :
    asrChunks (pcm16 16000 (first ++ second)) = .ok [samples first, samples second] := by
  obtain ⟨part, opened, isData⟩ := @initfp_pcm16 16000 (first ++ second) (by decide)
    (by rw [List.length_append, whole, short]; decide)
  have more : first ++ second ≠ [] := by
    intro none
    have size := congrArg List.length none
    rw [List.length_append, whole, List.length_nil] at size
    omega
  have behind : Reader.rest (Reader.read 3200 part).2 = second := by rw [Reader.behind, isData, List.drop_left' whole]
  have ended : Reader.rest (Reader.read 3200 (Reader.read 3200 part).2).2 = [] := by
    rw [Reader.behind, behind, List.drop_eq_nil_of_le (by rw [short]; decide)]
  have last : readBlocks 3200 (Reader.read 3200 part).2 = .ok [samples second] := by
    rw [readBlocks_step (by decide) (by rw [behind]; rintro rfl; cases short), readBlocks_nil ended, behind,
      List.take_of_length_le (by rw [short]; decide), unpack_even (by rw [short])]
    rfl
  have all : readBlocks 3200 part = .ok [samples first, samples second] := by
    rw [readBlocks_step (by decide) (by rwa [isData]), isData, List.take_left' whole, unpack_even (by rw [whole]), last]
    rfl
  rw [asrChunks, wavPcm16Chunks_eq opened, show readBlocks (1600 * 2) part = _ from all]
  rfl

/-- A recognizer that writes down how many chunks it was given. -/
def tally : Recognizer Nat where
  acceptWaveform _ count := count + 1
  decode count := count
  inputFinished count := count
  text count := Decimal.ofNat count
  isEndpoint _ := false

/-- What the node has to say to two chunks and the finish request. -/
def tallied : JsonLineClient := waitingFor [⟨[], false⟩, ⟨ascii "1", false⟩, ⟨ascii "2", true⟩]

theorem sent_two (first second : List Int) : (dictating.asrTranscribe plainPython 0 [] [first, second] tallied).1 =
    dictating.requests 0 [first, second] := by
  have answered : Answered plainPython tallied [first, second] [⟨[], false⟩, ⟨ascii "1", false⟩] ⟨ascii "2", true⟩ := by
    refine ⟨rfl, [asrLine ⟨[], false⟩, asrLine ⟨ascii "1", false⟩], asrLine ⟨ascii "2", true⟩, [], ?_, ?_, ?_⟩
    · decide +kernel
    · exact .cons (by decide +kernel) (.cons (by decide +kernel) .nil)
    · decide +kernel
  rw [asrTranscribe_open (by decide +kernel) (fun _ => rfl) (by decide) 0 [] answered]

theorem delivered_two (first second : List Int) :
    List.Forall₂ Delivered (dictating.asrTranscribe plainPython 0 [] [first, second] tallied).1
      ((dictating.requests 0 [first, second]).map received) := by
  rw [sent_two]
  exact .cons (delivered_dictating 0 (chunkName 0) (dumps_chunk first))
    (.cons (delivered_dictating 1 (chunkName 1) (dumps_chunk second))
      (.cons (delivered_dictating 2 "asr_finish" dumps_asrFinish) .nil))

/-- A file with a chunk of silence and a sample more. -/
def silentFile : Bytes := pcm16 16000 (List.replicate 3200 0 ++ [1, 0])

theorem upload_heard_two : ∃ payload outcomes dictation, PcmFile silentFile payload ∧
    Dictation.dictate tally 0 (((dictating.requests 0 [samples (List.replicate 3200 0), samples [1, 0]]).map
      received).map (asrRequest jsonNlohmann)) = (outcomes, dictation) ∧
    dictation.chunks.flatten.map Int16.toInt = samples payload := by
  have cut : asrChunks silentFile = .ok [samples (List.replicate 3200 0), samples [1, 0]] :=
    asrChunks_two List.length_replicate rfl
  obtain ⟨payload, outcomes, dictation, isFile, dictated, -, -, -, whole⟩ :=
    upload_heard jsonNlohmann_reads dictating_identified cut plainPython tallied (delivered_two _ _) tally 0
  exact ⟨payload, outcomes, dictation, isFile, dictated, whole (Nat.le_succ 2)⟩

end EdgeFlow.System
