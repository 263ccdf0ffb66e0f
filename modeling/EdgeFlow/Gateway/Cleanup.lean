import EdgeFlow.Gateway.AudioUtils
import EdgeFlow.Gateway.Chat
import EdgeFlow.Gateway.Speech
import EdgeFlow.Gateway.Transcription

/-! The calls of the gateway that set up a session of a node, and whether the session is asked to exit behind them.

A node creates a session for the setup request, if the request gets to it; the gateway
knows of the session from the reply only.
-/

set_option autoImplicit false

namespace EdgeFlow.Gateway
open Library Library.Byte

/-- What a call may raise. -/
inductive Raised where
  | exc (exc : Exc)
  | chunks (fault : ChunkFault)
  deriving DecidableEq

/-- What a call has from outside the program text, its two connections among it. -/
structure Caller where
  python : Python
  /-- `b64decode`: the bytes, or the text of what it raises -/
  b64decode : Bytes → Except Bytes Bytes
  /-- `_request_id` of a prefix, at each request of a connection -/
  requestId : (namePrefix : String) → Nat → Json.Text
  chat : Chat
  peer : Peer
  /-- the session that the node makes of a setup request that gets to it -/
  creates : Option Bytes
  cleanupPeer : Peer

/-- The value of a call, and the requests that got out on the connection of its cleanup. -/
structure Finished (A : Type) where
  result : A
  exits : List Value

namespace Caller
variable (caller : Caller)

def exitId (unitName : String) : Bytes := (caller.requestId (unitName ++ "_exit") 0).bytes

def exitMessage (unitName : String) (workId : Bytes) : Value :=
  UnitManagerClient.exitMessage (caller.exitId unitName) workId unitName

/-- `cleanup_work_id`: the requests that got out, and what is raised. -/
def cleanupWorkId (workId : Option Bytes) (unitName : String) : List Value × Except Exc Unit :=
  match workId with
  | none | some [] => ([], .ok ())
  | some workId =>
    let (sent, outcome) : List Value × Except Exc Unit :=
      match connect caller.cleanupPeer with
      | .error exc => ([], .error exc)
      | .ok client =>
        UnitManagerClient.exit caller.python caller.cleanupPeer (caller.exitId unitName) workId unitName client
    -- `except Exception`
    (sent, outcome.tryCatch fun _ => .ok ())

/-- A `finally` with the cleanup: what it raises takes the place of what leaves the block. -/
def finish {A : Type} (raise : Exc → A → A) (unitName : String) (block : Option Bytes × A) : Finished A :=
  let (sent, outcome) := caller.cleanupWorkId block.1 unitName
  match outcome with
  | .ok () => ⟨block.2, sent⟩
  | .error exc => ⟨raise exc block.2, sent⟩

/-! ## The three calls -/

/-- The connection and the setup on it. -/
def session (setupId : Bytes) (unitName : String) : Except Exc (Bytes × JsonLineClient) :=
  connect caller.peer >>= UnitManagerClient.setup caller.python caller.peer setupId unitName

/-- The speech of a session. -/
def ttsAudio (workId text : Bytes) (speakerId : Value) (lengthScale : Bytes) (client : JsonLineClient) :
    Except Exc Bytes := do
  let message := speechMessage (caller.requestId "tts_speech" 1).bytes workId text speakerId lengthScale
  let (data, _) ← (UnitManagerClient.inferenceOnce caller.python (caller.peer.takes 1) caller.peer.closes
    message "tts.audio"
    "tts_speech" client).2
  match ← data.get "audio_base64" .none with
  | .str (first :: rest) =>
    (caller.b64decode (first :: rest)).mapError fun exc =>
      .unitManagerError (ascii "tts returned invalid base64 audio: " ++ exc) (-1)
  | _ => .error (.unitManagerError (ascii "tts response did not include audio_base64") (-1))

/-- The `try` block of `run_tts_speech`: `work_id`, and what leaves the block. -/
def ttsBlock (text : Bytes) (speakerId : Value) (lengthScale : Bytes) : Option Bytes × Except Raised Bytes :=
  match caller.session (caller.requestId "tts_setup" 0).bytes "tts" with
  | .error exc => (none, .error (.exc exc))
  | .ok (workId, client) => (some workId, (caller.ttsAudio workId text speakerId lengthScale client).mapError .exc)

def runTtsSpeech (text : Bytes) (speakerId : Value) (lengthScale : Bytes) : Finished (Except Raised Bytes) :=
  caller.finish (fun exc _ => .error (.exc exc)) "tts" (caller.ttsBlock text speakerId lengthScale)

/-- The `try` block of `run_asr_transcription` -/
def asrBlock (wavBytes : Bytes) : Option Bytes × Except Raised Bytes :=
  match asrChunks wavBytes with
  | .error fault => (none, .error (.chunks fault))
  | .ok chunks =>
    match caller.session (caller.requestId "asr_setup" 0).bytes "asr" with
    | .error exc => (none, .error (.exc exc))
    | .ok (workId, client) =>
      let transcriber : Transcriber := ⟨caller.peer, workId, caller.requestId⟩
      (some workId, (transcriber.asrTranscribe caller.python 0 [] chunks client).2.mapError .exc)

def runAsrTranscription (wavBytes : Bytes) : Finished (Except Raised Bytes) :=
  caller.finish (fun exc _ => .error (.exc exc)) "asr" (caller.asrBlock wavBytes)

/-- What a consumer gets of a generator that it leaves at one of its yields. -/
def abandon (abandonedAt : Option Nat) (stream : List Value × Option Exc) : List Value × Option Exc :=
  match abandonedAt with
  | some index => if index < stream.1.length then (stream.1.take (index + 1), none) else stream
  | none => stream

/-- The `try` block of `run_rkllm_stream` -/
def rkllmBlock (prompt : Bytes) (abandonedAt : Option Nat) : Option Bytes × (List Value × Option Exc) :=
  match caller.session caller.chat.setupId "rkllm" with
  | .error exc => (none, [], some exc)
  | .ok (workId, client) =>
    (some workId, abandon abandonedAt (rkllmStream caller.python caller.chat caller.peer workId prompt client))

def runRkllmStream (prompt : Bytes) (abandonedAt : Option Nat) : Finished (List Value × Option Exc) :=
  caller.finish (fun exc stream => (stream.1, some exc)) "rkllm" (caller.rkllmBlock prompt abandonedAt)

/-- The cleanup goes no further: what a consumer gets to the end is the stream. -/
theorem runRkllmStream_result (prompt : Bytes) :
    (caller.rkllmBlock prompt none).2 = Gateway.runRkllmStream caller.python caller.chat caller.peer prompt := by
  unfold rkllmBlock Gateway.runRkllmStream session
  split
  · simp only [*]
  · simp only [*]
    rfl

end Caller

/-! ## The sessions of a call -/

/-- A call with its arguments; a consumer may leave the stream at one of its yields. -/
inductive GatewayCall where
  | ttsSpeech (text : Bytes) (speakerId : Value) (lengthScale : Bytes)
  | asrTranscription (wavBytes : Bytes)
  | rkllmStream (prompt : Bytes) (abandonedAt : Option Nat)

def GatewayCall.unitName : GatewayCall → String
  | .ttsSpeech .. => "tts"
  | .asrTranscription .. => "asr"
  | .rkllmStream .. => "rkllm"

/-- The call gets to its connection. -/
def GatewayCall.Connects : GatewayCall → Prop
  | .ttsSpeech .. | .rkllmStream .. => True
  | .asrTranscription wavBytes => ∃ chunks, asrChunks wavBytes = .ok chunks

namespace Caller
variable (caller : Caller)

def setupId : GatewayCall → Bytes
  | .ttsSpeech .. => (caller.requestId "tts_setup" 0).bytes
  | .asrTranscription .. => (caller.requestId "asr_setup" 0).bytes
  | .rkllmStream .. => caller.chat.setupId

/-- `work_id` behind the `try` block -/
def workId : GatewayCall → Option Bytes
  | .ttsSpeech text speakerId lengthScale => (caller.ttsBlock text speakerId lengthScale).1
  | .asrTranscription wavBytes => (caller.asrBlock wavBytes).1
  | .rkllmStream prompt abandonedAt => (caller.rkllmBlock prompt abandonedAt).1

/-- The exit requests of a call; what it sends on its own connection is the setup and inference requests. -/
def exits : GatewayCall → List Value
  | .ttsSpeech text speakerId lengthScale => (caller.runTtsSpeech text speakerId lengthScale).exits
  | .asrTranscription wavBytes => (caller.runAsrTranscription wavBytes).exits
  | .rkllmStream prompt abandonedAt => (caller.runRkllmStream prompt abandonedAt).exits

/-- What comes of the call is what comes of its `try` block. -/
def KeepsResult : GatewayCall → Prop
  | .ttsSpeech text speakerId lengthScale =>
    (caller.runTtsSpeech text speakerId lengthScale).result = (caller.ttsBlock text speakerId lengthScale).2
  | .asrTranscription wavBytes => (caller.runAsrTranscription wavBytes).result = (caller.asrBlock wavBytes).2
  | .rkllmStream prompt abandonedAt =>
    (caller.runRkllmStream prompt abandonedAt).result = (caller.rkllmBlock prompt abandonedAt).2

/-- The setup request gets to the node. -/
def SetsUp (call : GatewayCall) : Prop :=
  call.Connects ∧ caller.peer.accepts = true ∧
    JsonLineClient.Sends (caller.peer.takes 0) (UnitManagerClient.setupMessage (caller.setupId call) call.unitName)

/-- The node makes a session for the call. -/
def Creates (call : GatewayCall) (workId : Bytes) : Prop := caller.SetsUp call ∧ caller.creates = some workId

/-- The gateway gets a successful reply to the setup, with the work id of the session. -/
def Told (call : GatewayCall) (workId : Bytes) : Prop :=
  ∃ line ∈ caller.peer.lines.head?, UnitManagerClient.setupResult caller.python call.unitName line = .ok workId

/-- The cleanup gets a connection, and the exit request gets out on it. -/
def CleanupSends (call : GatewayCall) (workId : Bytes) : Prop :=
  caller.cleanupPeer.accepts = true ∧
    JsonLineClient.Sends (caller.cleanupPeer.takes 0) (caller.exitMessage call.unitName workId)

/-- Every session of the call is asked to exit, once, and the result is that of the inference. -/
def LeaksNothing (call : GatewayCall) : Prop :=
  (∀ workId, caller.Creates call workId → caller.exits call = [caller.exitMessage call.unitName workId]) ∧
    caller.KeepsResult call

/-! ### The cleanup -/

/-- Whatever becomes of the cleanup, nothing is raised. -/
theorem cleanupWorkId_ok (workId : Option Bytes) (unitName : String) :
    (caller.cleanupWorkId workId unitName).2 = .ok () := by
  unfold cleanupWorkId
  split
  · rfl
  · rfl
  · dsimp only
    generalize (match connect caller.cleanupPeer with
      | .error exc => (([], .error exc) : List Value × Except Exc Unit)
      | .ok client =>
          UnitManagerClient.exit caller.python caller.cleanupPeer (caller.exitId unitName) _ unitName client) = sent
    obtain ⟨sent, outcome⟩ := sent
    cases outcome <;> rfl

/-- One request gets out, or none. -/
theorem cleanupWorkId_sent {workId : Bytes} (named : workId ≠ []) (unitName : String) :
    let sends := caller.cleanupPeer.accepts = true ∧
      JsonLineClient.Sends (caller.cleanupPeer.takes 0) (caller.exitMessage unitName workId)
    (sends ∧ (caller.cleanupWorkId (some workId) unitName).1 = [caller.exitMessage unitName workId]) ∨
      (¬ sends ∧ (caller.cleanupWorkId (some workId) unitName).1 = []) := by
  intro sends
  cases workId with
  | nil => exact absurd rfl named
  | cons first rest =>
    unfold cleanupWorkId
    by_cases accepts : caller.cleanupPeer.accepts = true
    · have connected : connect caller.cleanupPeer = .ok ⟨[], caller.cleanupPeer.chunks⟩ := if_pos accepts
      rcases JsonLineClient.send_cases (caller.cleanupPeer.takes 0) (caller.exitMessage unitName (first :: rest)) with
        ⟨isSent, sent⟩ | ⟨unsent, error, failed⟩
      · exact .inl ⟨⟨accepts, isSent⟩,
          by simp only [connected, UnitManagerClient.exit, exitMessage] at sent ⊢; rw [sent]⟩
      · exact .inr ⟨fun both => unsent both.2, by
          simp only [connected, UnitManagerClient.exit, exitMessage] at failed ⊢; rw [failed]⟩
    · have refused : connect caller.cleanupPeer = .error (.builtin .osError) := if_neg accepts
      exact .inr ⟨fun both => accepts both.1, by simp only [refused]⟩

theorem finish_eq {A : Type} (raise : Exc → A → A) (unitName : String) (block : Option Bytes × A) :
    caller.finish raise unitName block = ⟨block.2, (caller.cleanupWorkId block.1 unitName).1⟩ := by
  simp only [finish, caller.cleanupWorkId_ok]

theorem exits_eq (call : GatewayCall) : caller.exits call =
    (caller.cleanupWorkId (caller.workId call) call.unitName).1 := by
  cases call <;> simp only [exits, runTtsSpeech, runAsrTranscription, runRkllmStream, finish_eq] <;> rfl

theorem keepsResult (call : GatewayCall) : caller.KeepsResult call := by
  cases call <;> simp only [KeepsResult, runTtsSpeech, runAsrTranscription, runRkllmStream, finish_eq]

/-- Behind its setup a speech is what its session makes of it. -/
theorem runTtsSpeech_result {text : Bytes} {speakerId : Value} {lengthScale workId : Bytes} {client : JsonLineClient}
    (setUp : caller.session (caller.requestId "tts_setup" 0).bytes "tts" = .ok (workId, client)) :
    (caller.runTtsSpeech text speakerId lengthScale).result =
      (caller.ttsAudio workId text speakerId lengthScale client).mapError .exc := by
  have kept := caller.keepsResult (.ttsSpeech text speakerId lengthScale)
  rw [KeepsResult, ttsBlock, setUp] at kept
  exact kept

/-! ### The setup -/

theorem workIdOf_ne_nil {unitName : String} {response : Value} {workId : Bytes}
    (found : UnitManagerClient.workIdOf unitName response = .ok workId) : workId ≠ [] := by
  obtain ⟨name, -, named⟩ := ok_of_bind found
  split at named
  · cases named
    exact List.cons_ne_nil _ _
  · cases named

theorem setupResult_ne_nil {unitName : String} {line workId : Bytes}
    (found : UnitManagerClient.setupResult caller.python unitName line = .ok workId) : workId ≠ [] := by
  obtain ⟨response, -, checked⟩ := ok_of_bind found
  obtain ⟨_, -, read⟩ := ok_of_bind checked
  exact workIdOf_ne_nil read

/-- The work id of a session is that in the first line. -/
theorem session_ok_iff (setupId : Bytes) (unitName : String) (workId : Bytes) :
    (∃ client, caller.session setupId unitName = .ok (workId, client)) ↔
      (caller.peer.accepts = true ∧
          JsonLineClient.Sends (caller.peer.takes 0) (UnitManagerClient.setupMessage setupId unitName)) ∧
        ∃ line ∈ caller.peer.lines.head?, UnitManagerClient.setupResult caller.python unitName line = .ok workId := by
  unfold session
  rcases connect_setup_cases caller.python caller.peer setupId unitName with ⟨unsent, error, failed⟩ | ⟨sent, spec⟩
  · refine iff_of_false ?_ fun both => unsent both.1
    rintro ⟨client, found⟩
    rw [failed] at found
    cases found
  · rw [and_iff_right sent]
    cases found : caller.peer.lines with
    | nil =>
      rw [found] at spec
      simp [spec]
    | cons line lines =>
      rw [found] at spec
      cases reply : UnitManagerClient.setupResult caller.python unitName line with
      | error exc =>
        simp only [reply] at spec
        simp [spec, reply]
      | ok other =>
        simp only [reply] at spec
        obtain ⟨client, set, -, -⟩ := spec
        simp [set, reply]

/-- A call knows the session that it was told of. -/
theorem workId_eq_some_iff (call : GatewayCall) (workId : Bytes) :
    caller.workId call = some workId ↔ caller.SetsUp call ∧ caller.Told call workId := by
  have known : caller.workId call = some workId ↔
      call.Connects ∧ ∃ client, caller.session (caller.setupId call) call.unitName = .ok (workId, client) := by
    cases call with
    | ttsSpeech text speakerId lengthScale =>
      simp only [Caller.workId, ttsBlock, GatewayCall.Connects, true_and, setupId, GatewayCall.unitName]
      cases caller.session (caller.requestId "tts_setup" 0).bytes "tts" with
      | error exc => simp
      | ok made => simp [Prod.ext_iff]
    | asrTranscription wavBytes =>
      simp only [Caller.workId, asrBlock, GatewayCall.Connects, setupId, GatewayCall.unitName]
      cases asrChunks wavBytes with
      | error fault => simp
      | ok chunks =>
        cases caller.session (caller.requestId "asr_setup" 0).bytes "asr" with
        | error exc => simp
        | ok made => simp [Prod.ext_iff]
    | rkllmStream prompt abandonedAt =>
      simp only [Caller.workId, rkllmBlock, GatewayCall.Connects, true_and, setupId, GatewayCall.unitName]
      cases caller.session caller.chat.setupId "rkllm" with
      | error exc => simp
      | ok made => simp [Prod.ext_iff]
  rw [known, session_ok_iff, SetsUp, Told, and_assoc, and_assoc, and_assoc]

/-- No call sends more than one exit request, which is for the session that it knows. -/
theorem exits_cases (call : GatewayCall) : caller.exits call = [] ∨
    ∃ workId, caller.workId call = some workId ∧ caller.exits call = [caller.exitMessage call.unitName workId] := by
  rw [exits_eq]
  cases known : caller.workId call with
  | none => exact .inl rfl
  | some workId =>
    obtain ⟨line, -, read⟩ := ((caller.workId_eq_some_iff call workId).mp known).2
    rcases caller.cleanupWorkId_sent (caller.setupResult_ne_nil read) call.unitName with ⟨-, sent⟩ | ⟨-, unsent⟩
    · exact .inr ⟨workId, rfl, sent⟩
    · exact .inl unsent

theorem exits_of_told {call : GatewayCall} (setsUp : caller.SetsUp call) {workId : Bytes}
    (told : caller.Told call workId) :
    caller.exits call = [caller.exitMessage call.unitName workId] ↔ caller.CleanupSends call workId := by
  have known := (caller.workId_eq_some_iff call workId).mpr ⟨setsUp, told⟩
  obtain ⟨line, -, read⟩ := told
  rw [exits_eq, known]
  rcases caller.cleanupWorkId_sent (caller.setupResult_ne_nil read) call.unitName with ⟨sends, sent⟩ | ⟨fails, unsent⟩
  · exact iff_of_true sent sends
  · exact iff_of_false (by rw [unsent]; exact (List.cons_ne_nil _ _).symm) fails

/-- The result of a call is that of the inference, and a call sends one exit request at most. A session that the
call was told of is asked to exit exactly when the cleanup gets its request out. -/
theorem asksToExit_iff (call : GatewayCall) : caller.KeepsResult call ∧
    (caller.exits call = [] ∨
      ∃ workId, caller.Told call workId ∧ caller.exits call = [caller.exitMessage call.unitName workId]) ∧
    ∀ workId, caller.Creates call workId → caller.Told call workId →
      (caller.exits call = [caller.exitMessage call.unitName workId] ↔ caller.CleanupSends call workId) := by
  refine ⟨caller.keepsResult call, ?_, fun workId creates told => caller.exits_of_told creates.1 told⟩
  rcases caller.exits_cases call with noExits | ⟨workId, known, sent⟩
  · exact .inl noExits
  · exact .inr ⟨workId, ((caller.workId_eq_some_iff call workId).mp known).2, sent⟩

end Caller

/-! ## Three speeches -/

/-- The reply of the node to the setup of a speech. -/
def setupReply : Bytes :=
  ascii "\x7b\"work_id\":\"tts.1001\",\"object\":\"None\",\"data\":\"None\",\"error\":\x7b\"code\":0,\"message\":\"\"\x7d\x7d" ++
    [newline]

/-- A gateway that gets some chunks in its call, and a connection for its cleanup or none. -/
def speaker (chunks : List Bytes) (cleans : Bool) : Caller where
  python := plainPython
  b64decode _ := .ok []
  requestId _ _ := .ofAscii "tts_1"
  chat := ⟨[], [], fun _ => 0, [], []⟩
  peer := ⟨true, fun _ => true, chunks, true⟩
  creates := some (ascii "tts.1001")
  cleanupPeer := ⟨cleans, fun _ => true, [], true⟩

def hiSpeech : GatewayCall := .ttsSpeech (ascii "hi") (.int 0) (ascii "1.0")

theorem creates_hiSpeech (chunks : List Bytes) (cleans : Bool) :
    (speaker chunks cleans).Creates hiSpeech (ascii "tts.1001") :=
  have isText : Utf8.Valid
      ((UnitManagerClient.setupMessage (Json.Text.ofAscii "tts_1").bytes "tts").dumps ++ [newline]) := by decide +kernel
  ⟨⟨trivial, rfl, isText, rfl⟩, rfl⟩

theorem told_hiSpeech (cleans : Bool) : (speaker [setupReply] cleans).Told hiSpeech (ascii "tts.1001") := by
  cases cleans <;> exact ⟨setupReply.dropLast, by decide +kernel, by decide +kernel⟩

theorem asksToExit_hi : ∃ workId, (speaker [setupReply] true).Creates hiSpeech workId ∧
    (speaker [setupReply] true).exits hiSpeech = [(speaker [setupReply] true).exitMessage "tts" workId] :=
  ⟨ascii "tts.1001", creates_hiSpeech _ _,
    ((Caller.asksToExit_iff (speaker [setupReply] true) hiSpeech).2.2 _ (creates_hiSpeech _ _) (told_hiSpeech true)).mpr
      ⟨rfl, by decide +kernel, rfl⟩⟩

/-- The session of a speech is left behind when there is no connection for the cleanup, and when the reply to the setup
does not come. -/
theorem leaks_hi : ¬ (speaker [setupReply] false).LeaksNothing hiSpeech ∧
    ¬ (speaker [] true).LeaksNothing hiSpeech := by
  constructor
  · intro leaksNothing
    have asked := leaksNothing.1 _ (creates_hiSpeech _ _)
    have cleans := ((speaker [setupReply] false).exits_of_told (creates_hiSpeech _ _).1 (told_hiSpeech false)).mp asked
    exact Bool.noConfusion cleans.1
  · intro leaksNothing
    have asked := leaksNothing.1 _ (creates_hiSpeech _ _)
    rcases (speaker [] true).exits_cases hiSpeech with noExits | ⟨workId, known, -⟩
    · rw [noExits] at asked
      cases asked
    · obtain ⟨line, first, -⟩ := (((speaker [] true).workId_eq_some_iff hiSpeech workId).mp known).2
      cases first

end EdgeFlow.Gateway
