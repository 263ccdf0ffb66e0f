import EdgeFlow.Manager.Rpc
import Mathlib.Logic.Basic

/-! What the session that sent a request is told about its dispatch: an inference
request at every log level, an RPC in every state of the unit it addresses.
-/

set_option autoImplicit false

namespace EdgeFlow.Manager
open Library Library.Printf Comm

/-- `SAMPLE_LOG_LEVEL_E` -/
inductive SampleLogLevel where
  | min
  | emergency
  | alert
  | critical
  | error
  | warn
  | notice
  | info
  | debug
  | max
  deriving DecidableEq, Repr

def SampleLogLevel.value : SampleLogLevel → Int
  | .min => -1
  | .emergency => 0
  | .alert => 1
  | .critical => 2
  | .error => 3
  | .warn => 4
  | .notice => 5
  | .info => 6
  | .debug => 7
  | .max => 8

/-- The test inside `ALOGW`. -/
def SampleLogLevel.Warns (logLevel : SampleLogLevel) : Prop := SampleLogLevel.warn.value ≤ logLevel.value

instance (logLevel : SampleLogLevel) : Decidable logLevel.Warns := inferInstanceAs (Decidable (_ ≤ _))

/-! ## Inference -/

def zmqBusPublisherPushAt (logLevel : SampleLogLevel) (registry : Registry) (workId jsonStr : Bytes) :
    Int × List Sent :=
  if workId = [] then (-1, [])
  else
    -- `if (unit_p) unit_p->send_msg(json_str);` ends before the macro
    let sent :=
      match registry.readUnit workId with
      | some unit => [.published unit jsonStr]
      | none => []
    -- `if (log_level >= SAMPLE_LOG_WARN) printf(..); else { .. return -1; }`
    if logLevel.Warns then (0, sent) else (-1, sent)

/-- The inference branch of `unit_action_match`. -/
def inferenceBranch (logLevel : SampleLogLevel) (bus : Bus) (comId : Int) (jsonStr : Bytes)
    (header : Header jsonStr) : Except Thrown (List Sent) :=
  let (ret, sent) := zmqBusPublisherPushAt logLevel bus.registry header.routedId
    (inferenceRawData bus.zmqCFormat comId jsonStr)
  if ret ≠ 0 then
    (usrPrintError header.requestId.value header.routedId pushFalse comId).map (sent ++ ·)
  else .ok sent

/-- No other branch looks at the level. -/
def unitActionMatchAt (logLevel : SampleLogLevel) (bus : Bus) (comId : Int) (jsonStr : Bytes) :
    Except Thrown (List Sent) :=
  match readHeader bus.simdjson jsonStr with
  | none => unitActionMatch bus comId jsonStr
  | some header =>
    if header.action.value = ascii "inference" then inferenceBranch logLevel bus comId jsonStr header
    else unitActionMatch bus comId jsonStr

theorem zmqBusPublisherPushAt_info : zmqBusPublisherPushAt .info = zmqBusPublisherPush := by
  funext registry workId jsonStr
  have warns : SampleLogLevel.info.Warns := by decide
  simp only [zmqBusPublisherPushAt, zmqBusPublisherPush, if_pos warns]
  cases registry.readUnit workId <;> rfl

/-- At the level the program is built with, this is `unit_action_match`. -/
theorem unitActionMatchAt_info : unitActionMatchAt .info = unitActionMatch := by
  funext bus comId jsonStr
  unfold unitActionMatchAt
  cases read : readHeader bus.simdjson jsonStr with
  | none => rfl
  | some header =>
    by_cases inference : header.action.value = ascii "inference"
    · simp only [if_pos inference, inferenceBranch, zmqBusPublisherPushAt_info, unitActionMatch, read]
    · simp only [if_neg inference]

section
variable (bus : Bus) (comId : Int) {jsonStr : Bytes} (header : Header jsonStr) (sent : List Sent)

/-- The envelope goes out once, to the unit the work id names, and nothing else is sent. -/
def Published : Prop :=
  ∃ unit, bus.registry.readUnit header.routedId = some unit ∧
    sent = [.published unit (inferenceRawData bus.zmqCFormat comId jsonStr)]

/-- One error line goes to the session, and nothing else is sent. -/
def PushReported : Prop := ∃ reply, sent = [.error comId reply] ∧ reply.error.code = -4

end

section
variable {bus : Bus} {jsonStr : Bytes} {header : Header jsonStr}

/-- What an inference request makes unit-manager send, by log level and registry. -/
theorem inferenceBranch_eq (logLevel : SampleLogLevel) (comId : Int) :
    inferenceBranch logLevel bus comId jsonStr header =
      .ok ((bus.registry.readUnit header.routedId).toList.map
          (Sent.published · (inferenceRawData bus.zmqCFormat comId jsonStr)) ++
        if logLevel.Warns then [] else [.error comId ⟨header.requestId.value, header.routedId, pushFalse⟩]) := by
  have reported := usrPrintError_isOk pushFalse comId header.requestId.valid header.routedId_valid
  have shape : (match bus.registry.readUnit header.routedId with
      | some unit => [Sent.published unit (inferenceRawData bus.zmqCFormat comId jsonStr)]
      | none => []) = (bus.registry.readUnit header.routedId).toList.map
        (Sent.published · (inferenceRawData bus.zmqCFormat comId jsonStr)) := by
    cases bus.registry.readUnit header.routedId <;> rfl
  simp only [inferenceBranch, zmqBusPublisherPushAt, if_neg header.routedId_ne_nil, shape, reported]
  by_cases warns : logLevel.Warns
  · simp [warns]
  · simp [warns, Except.map]

/-- An inference request has one of its two outcomes exactly when the unit is there at a level that
warns, or missing at one that does not. -/
theorem inference_truthful_iff (logLevel : SampleLogLevel) (comId : Int)
    (read : readHeader bus.simdjson jsonStr = some header)
    (inference : header.action.value = ascii "inference") :
    (∃ sent, unitActionMatchAt logLevel bus comId jsonStr = .ok sent ∧
        Xor (Published bus comId header sent) (PushReported comId sent)) ↔
      (logLevel.Warns ↔ ∃ unit, bus.registry.readUnit header.routedId = some unit) := by
  have branch : unitActionMatchAt logLevel bus comId jsonStr =
      inferenceBranch logLevel bus comId jsonStr header := by
    simp only [unitActionMatchAt, read, if_pos inference]
  rw [branch, inferenceBranch_eq]
  simp only [Except.ok.injEq, exists_eq_left']
  cases registered : bus.registry.readUnit header.routedId with
  | none =>
    by_cases warns : logLevel.Warns
    · -- neither published nor reported
      simp [warns, Xor, Published, PushReported, registered]
    · have code : pushFalse.code = -4 := rfl
      simp [warns, Xor, Published, PushReported, registered, code]
  | some unit =>
    by_cases warns : logLevel.Warns
    · simp [warns, Xor, Published, PushReported, registered]
    · -- both published and reported
      simp [warns, Xor, Published, PushReported, registered]

end

/-- Names a unit that has never been registered. -/
def unregisteredInference : Bytes :=
  ascii "\x7b\"request_id\":\"1\",\"work_id\":\"rkllm.0\",\"action\":\"inference\"\x7d"

theorem unregistered_inference_silent : ∃ header : Header unregisteredInference,
    readHeader Bus.unattended.simdjson unregisteredInference = some header ∧
      header.action.value = ascii "inference" ∧
      unitActionMatch .unattended 8000 unregisteredInference = .ok [] ∧
      ¬ Xor (Published .unattended 8000 header []) (PushReported 8000 []) := by
  have shape : (readHeader Simdjson.firstMember unregisteredInference).map (fun header => header.action.value) =
      some (ascii "inference") := by
    decide +kernel
  obtain ⟨header, read, inference⟩ := Option.map_eq_some_iff.mp shape
  refine ⟨header, read, inference, by decide +kernel, ?_⟩
  simp [Xor, Published, PushReported]

theorem inference_truthful_quiet : ∃ header : Header unregisteredInference, ∃ sent,
    unitActionMatchAt .error .unattended 8000 unregisteredInference = .ok sent ∧
      Xor (Published .unattended 8000 header sent) (PushReported 8000 sent) := by
  have shape : (readHeader Simdjson.firstMember unregisteredInference).map (fun header => header.action.value) =
      some (ascii "inference") := by
    decide +kernel
  obtain ⟨header, read, inference⟩ := Option.map_eq_some_iff.mp shape
  refine ⟨header, (inference_truthful_iff .error 8000 read inference).mpr ?_⟩
  have quiet : ¬ SampleLogLevel.error.Warns := by decide
  have missing : Bus.unattended.registry.readUnit header.routedId = none := rfl
  simp [quiet, missing]

/-! ## RPCs -/

/-- `zmq_fun_`: what each registered action returns for its frame, if it does not throw. -/
abbrev ZmqFun := (action : Bytes) → Option ((data : Bytes) → Option Bytes)

/-- A callback of `zmq_fun_` run by the server at a URL. -/
structure Invoked where
  url : Bytes
  action : Bytes
  data : Bytes
  deriving DecidableEq

/-- What a request meets that has been sent to a socket. -/
inductive Peer where
  /-- the socket file is left, but nobody listens on it -/
  | gone
  /-- no reply within `timeout_`; the request is taken up afterwards or not at all -/
  | late (takenUp : Bool) (zmqFun : ZmqFun)
  | serving (zmqFun : ZmqFun)

/-- What the sockets of the units are like. -/
structure Units where
  /-- `access(path, F_OK) == 0` -/
  access : (path : Bytes) → Bool
  zmqConnect : (url : Bytes) → Int
  peer : (url : Bytes) → Peer

/-- One turn of `zmq_event_loop` in `ZMQ_RPC_FUN` mode: the reply and the callback that has run. -/
def zmqEventLoop (zmqFun : ZmqFun) (url action data : Bytes) : Bytes × List Invoked :=
  match zmqFun action with
  | some callback => ((callback data).getD (ascii "NotAction"), [⟨url, action, data⟩])
  | none => (ascii "NotAction", [])

/-- What `zmq_msg_recv` gets, if anything comes within `timeout_`, and the callback that has run. -/
def Peer.exchange (url action data : Bytes) : Peer → Option Bytes × List Invoked
  | .gone => (none, [])
  | .late takenUp zmqFun => (none, if takenUp then (zmqEventLoop zmqFun url action data).2 else [])
  | .serving zmqFun =>
    let (reply, invoked) := zmqEventLoop zmqFun url action data
    (some reply, invoked)

/-- The constructor of `pzmq` clears the prefix for a name that is a URL. -/
def rpcUrlHead (server : Bytes) : Bytes :=
  if (Search.find (ascii "://") server).isSome then [] else ascii "ipc:///tmp/rpc."

def rpcUrl (server : Bytes) : Bytes := rpcUrlHead server ++ server

def rpcUrlHeadLength : Nat := 6

def creatReq (units : Units) (server : Bytes) : Int :=
  if rpcUrlHead server ≠ [] ∧ units.access ((rpcUrl server).drop rpcUrlHeadLength) = false then -1
  else units.zmqConnect (rpcUrl server)

def callRpcAction (units : Units) (server action data : Bytes) : Int × List Invoked :=
  if server = [] then (-1, [])
  else
    let ret := creatReq units server
    if ret ≠ 0 then (ret, [])
    else
      -- what `zmq_send` and `zmq_msg_recv` return is not looked at, nor is the reply
      let (_, invoked) := (units.peer (rpcUrl server)).exchange (rpcUrl server) action data
      (ret, invoked)

/-- unit-manager among these units. -/
def Bus.among (bus : Bus) (units : Units) : Bus :=
  { bus with callRpcAction := fun unit action payload => (Manager.callRpcAction units unit action payload).1 }

/-- The callbacks that what is sent makes the units run. -/
def invoked (units : Units) (sent : List Sent) : List Invoked :=
  sent.flatMap fun
    | .called unit action payload => (callRpcAction units unit action payload).2
    | _ => []

/-- The error lines among what is sent. -/
def errorLines (sent : List Sent) : List (Int × ErrorReply) :=
  sent.filterMap fun
    | .error zmqOut reply => some (zmqOut, reply)
    | _ => none

section
variable (bus : Bus) (units : Units) (comId : Int) {jsonStr : Bytes} (header : Header jsonStr) (sent : List Sent)

/-- The addressed unit runs what it has registered for the action, once, on the packed request. -/
def Handled : Prop :=
  invoked units sent = [⟨rpcUrl (beforeDot header.workId.value), header.action.value,
    setParam ((zmqPushUrl bus.zmqCFormat comId).take 254) jsonStr⟩] ∧ errorLines sent = []

/-- No unit runs anything, and one error line goes to the session. -/
def CallReported : Prop := invoked units sent = [] ∧ ∃ reply, errorLines sent = [(comId, reply)]

end

/-- What `remote_call` finds when it reads the request again. -/
def Bus.rereadWorkId (bus : Bus) (jsonStr : Bytes) : Bytes := bus.simdjson.getString jsonStr [] (ascii "work_id")

def Bus.rereadAction (bus : Bus) (jsonStr : Bytes) : Bytes :=
  bus.simdjson.getString jsonStr [ascii "work_id"] (ascii "action")

/-! What a request comes to depends on the peer alone. -/

/-- The request gets to a callback that is registered for its action. -/
def Peer.takesUp (action : Bytes) : Peer → Bool
  | .gone => false
  | .late takenUp zmqFun => takenUp && (zmqFun action).isSome
  | .serving zmqFun => (zmqFun action).isSome

theorem zmqEventLoop_invoked (zmqFun : ZmqFun) (url action data : Bytes) :
    (zmqEventLoop zmqFun url action data).2 = if (zmqFun action).isSome then [⟨url, action, data⟩] else [] := by
  unfold zmqEventLoop
  cases zmqFun action <;> rfl

theorem exchange_invoked (peer : Peer) (url action data : Bytes) :
    (peer.exchange url action data).2 = if peer.takesUp action then [⟨url, action, data⟩] else [] := by
  cases peer with
  | gone => rfl
  | late takenUp zmqFun =>
    cases takenUp with
    | true => simpa [Peer.exchange, Peer.takesUp] using zmqEventLoop_invoked zmqFun url action data
    | false => rfl
  | serving zmqFun => exact zmqEventLoop_invoked zmqFun url action data

/-- There is no socket to send to. -/
def Unreachable (units : Units) (server : Bytes) : Prop := server = [] ∨ creatReq units server ≠ 0

theorem callRpcAction_unreachable {units : Units} {server : Bytes} (unreachable : Unreachable units server)
    (action data : Bytes) :
    (callRpcAction units server action data).1 ≠ 0 ∧ (callRpcAction units server action data).2 = [] := by
  unfold callRpcAction
  by_cases unnamed : server = []
  · rw [if_pos unnamed]
    exact ⟨by decide, rfl⟩
  · have failed : creatReq units server ≠ 0 := unreachable.resolve_left unnamed
    simp only [if_neg unnamed, if_pos failed]
    exact ⟨failed, trivial⟩

/-- Once there is a socket the call succeeds, whatever becomes of the request. -/
theorem callRpcAction_reachable {units : Units} {server : Bytes} (reachable : ¬ Unreachable units server)
    (action data : Bytes) :
    callRpcAction units server action data = (0, if (units.peer (rpcUrl server)).takesUp action then
      [⟨rpcUrl server, action, data⟩] else []) := by
  obtain ⟨named, connected⟩ := not_or.mp reachable
  have ret : creatReq units server = 0 := not_not.mp connected
  simp only [callRpcAction, if_neg named, ret, ne_eq, not_true_eq_false, if_false, exchange_invoked]

section
variable {bus : Bus} {units : Units} {comId : Int} {jsonStr : Bytes} {header : Header jsonStr}

/-- The request is settled one way or the other. -/
def Settled (bus : Bus) (units : Units) (header : Header jsonStr) : Prop :=
  beforeDot header.workId.value ≠ [] ∧ bus.rereadWorkId jsonStr ≠ [] ∧ bus.rereadAction jsonStr ≠ [] ∧
    (Unreachable units (beforeDot (bus.rereadWorkId jsonStr)) ∨
      (units.peer (rpcUrl (beforeDot (bus.rereadWorkId jsonStr)))).takesUp (bus.rereadAction jsonStr) = true ∧
        rpcUrl (beforeDot (bus.rereadWorkId jsonStr)) = rpcUrl (beforeDot header.workId.value) ∧
        bus.rereadAction jsonStr = header.action.value)

variable (read : readHeader bus.simdjson jsonStr = some header)
  (notInference : header.action.value ≠ ascii "inference") (nonempty : header.workId.value ≠ [])

include read notInference nonempty

/-- A work id that begins with a dot is dropped. -/
theorem unitActionMatch_unnamed (unnamed : beforeDot header.workId.value = []) :
    unitActionMatch (bus.among units) comId jsonStr = .ok [] := by
  have routed : header.routedId = header.workId.value := if_neg nonempty
  have noFragment : ¬ (fragments [] header.workId.value).headD [] ≠ [] := by
    rw [fragments_head, not_not]
    exact unnamed
  have read : readHeader (bus.among units).simdjson jsonStr = some header := read
  simp only [unitActionMatch, read, if_neg notInference, routed, if_neg noFragment]

/-- The RPC branch: an error line follows when `remote_call` does not return zero. -/
theorem unitActionMatch_named (named : beforeDot header.workId.value ≠ []) :
    unitActionMatch (bus.among units) comId jsonStr =
      (remoteCall (bus.among units) comId jsonStr).map fun result =>
        result.2 ++ if result.1 ≠ 0 then [.error comId ⟨header.requestId.value, header.workId.value, callFalse⟩]
          else [] := by
  have routed : header.routedId = header.workId.value := if_neg nonempty
  have fragment : (fragments [] header.workId.value).headD [] ≠ [] := by
    rw [fragments_head]
    exact named
  have reported := usrPrintError_isOk callFalse comId header.requestId.valid (routed ▸ header.routedId_valid)
  have read : readHeader (bus.among units).simdjson jsonStr = some header := read
  simp only [unitActionMatch, read, if_neg notInference, routed, if_pos fragment, reported]
  cases remoteCall (bus.among units) comId jsonStr with
  | error thrown => rfl
  | ok result =>
    simp only [bind, Except.bind, Except.map]
    split <;> simp

omit read notInference nonempty in
theorem remoteCall_eq : remoteCall (bus.among units) comId jsonStr =
    if bus.rereadWorkId jsonStr = [] ∨ bus.rereadAction jsonStr = [] then .error .runtimeError
    else if beforeDot (bus.rereadWorkId jsonStr) = [] then .ok (-1, [])
    else .ok ((callRpcAction units (beforeDot (bus.rereadWorkId jsonStr)) (bus.rereadAction jsonStr)
      (setParam ((zmqPushUrl bus.zmqCFormat comId).take 254) jsonStr)).1,
      [.called (beforeDot (bus.rereadWorkId jsonStr)) (bus.rereadAction jsonStr)
        (setParam ((zmqPushUrl bus.zmqCFormat comId).take 254) jsonStr)]) := rfl

omit read notInference nonempty in
theorem remoteCall_among (units : Units) (comId : Int)
    (found : bus.rereadWorkId jsonStr ≠ [] ∧ bus.rereadAction jsonStr ≠ []) :
    ∃ ret sent, remoteCall (bus.among units) comId jsonStr = .ok (ret, sent) ∧ errorLines sent = [] ∧
      (Unreachable units (beforeDot (bus.rereadWorkId jsonStr)) → ret ≠ 0 ∧ invoked units sent = []) ∧
      (¬ Unreachable units (beforeDot (bus.rereadWorkId jsonStr)) → ret = 0 ∧ invoked units sent =
        if (units.peer (rpcUrl (beforeDot (bus.rereadWorkId jsonStr)))).takesUp (bus.rereadAction jsonStr) then
          [⟨rpcUrl (beforeDot (bus.rereadWorkId jsonStr)), bus.rereadAction jsonStr,
            setParam ((zmqPushUrl bus.zmqCFormat comId).take 254) jsonStr⟩]
        else []) := by
  have present : ¬ (bus.rereadWorkId jsonStr = [] ∨ bus.rereadAction jsonStr = []) := not_or.mpr found
  rw [remoteCall_eq, if_neg present]
  by_cases unnamed : beforeDot (bus.rereadWorkId jsonStr) = []
  · rw [if_pos unnamed]
    exact ⟨-1, [], rfl, rfl, fun _ => ⟨by decide, rfl⟩, fun reachable => absurd (.inl unnamed) reachable⟩
  · rw [if_neg unnamed]
    refine ⟨_, _, rfl, rfl, fun unreachable => ?_, fun reachable => ?_⟩
    · have failed := callRpcAction_unreachable unreachable (bus.rereadAction jsonStr)
        (setParam ((zmqPushUrl bus.zmqCFormat comId).take 254) jsonStr)
      refine ⟨failed.1, ?_⟩
      simpa [invoked] using failed.2
    · have called := callRpcAction_reachable reachable (bus.rereadAction jsonStr)
        (setParam ((zmqPushUrl bus.zmqCFormat comId).take 254) jsonStr)
      refine ⟨congrArg Prod.fst called, ?_⟩
      simpa [invoked] using congrArg Prod.snd called

/-- An RPC request has one of its two outcomes exactly when it is settled. -/
theorem rpc_answered_iff :
    (∃ sent, unitActionMatch (bus.among units) comId jsonStr = .ok sent ∧
        Xor (Handled bus units comId header sent) (CallReported units comId sent)) ↔
      Settled bus units header := by
  by_cases unnamed : beforeDot header.workId.value = []
  · rw [unitActionMatch_unnamed read notInference nonempty unnamed]
    -- without the name of a unit the match throws before any call
    refine iff_of_false ?_ fun settled => settled.1 unnamed
    rintro ⟨_, returned, outcome⟩
    cases returned
    rcases outcome with ⟨handled, -⟩ | ⟨reported, -⟩
    · cases handled.1
    · obtain ⟨_, _, line⟩ := reported
      cases line
  · rw [unitActionMatch_named read notInference nonempty unnamed]
    by_cases found : bus.rereadWorkId jsonStr ≠ [] ∧ bus.rereadAction jsonStr ≠ []
    · obtain ⟨ret, sent, called, noLine, unreached, reached⟩ :=
        remoteCall_among units comId found
      have lines (more : List Sent) : errorLines (sent ++ more) = errorLines more := by
        simp [errorLines, List.filterMap_append, show List.filterMap _ sent = [] from noLine]
      have noCall (more : List Sent) (quiet : invoked units more = []) :
          invoked units (sent ++ more) = invoked units sent := by
        simp [invoked, List.flatMap_append, show List.flatMap _ more = [] from quiet]
      rw [called]
      simp only [Except.map, Except.ok.injEq, exists_eq_left']
      -- where no unit is there the call fails and is reported; else what the unit ran decides
      by_cases unreachable : Unreachable units (beforeDot (bus.rereadWorkId jsonStr))
      · obtain ⟨failed, nothing⟩ := unreached unreachable
        refine iff_of_true ?_ ⟨unnamed, found.1, found.2, .inl unreachable⟩
        rw [if_pos failed]
        refine .inr ⟨⟨(noCall _ rfl).trans nothing, _, (lines _).trans rfl⟩, fun handled => ?_⟩
        rw [Handled, lines] at handled
        cases handled.2
      · obtain ⟨rfl, ran⟩ := reached unreachable
        have quiet : ¬ CallReported units comId sent := by
          rintro ⟨-, reply, line⟩
          rw [noLine] at line
          cases line
        simp only [ne_eq, not_true_eq_false, if_false, List.append_nil]
        have outcome : Xor (Handled bus units comId header sent) (CallReported units comId sent) ↔
            Handled bus units comId header sent := by
          simp [Xor, quiet]
        rw [outcome, Handled, ran]
        constructor
        · rintro ⟨handled, -⟩
          split at handled
          · next taken =>
            simp only [List.cons.injEq, Invoked.mk.injEq, and_true] at handled
            exact ⟨unnamed, found.1, found.2, .inr ⟨taken, handled⟩⟩
          · cases handled
        · rintro ⟨-, -, -, settled⟩
          obtain ⟨taken, sameUrl, sameAction⟩ := settled.resolve_left unreachable
          rw [if_pos taken, sameUrl, sameAction]
          exact ⟨rfl, noLine⟩
    -- the second reading finds no work id or no action
    · have thrown : remoteCall (bus.among units) comId jsonStr = .error .runtimeError := by
        rw [remoteCall_eq, if_pos]
        rcases not_and_or.mp found with noWorkId | noAction
        · exact .inl (not_not.mp noWorkId)
        · exact .inr (not_not.mp noAction)
      rw [thrown]
      refine iff_of_false ?_ fun settled => found ⟨settled.2.1, settled.2.2.1⟩
      rintro ⟨_, returned, -⟩
      cases returned

end

def resetAsr : Bytes := ascii "\x7b\"request_id\":\"1\",\"work_id\":\"asr.0\",\"action\":\"reset\"\x7d"

/-- Units that are all there and have registered nothing, and units that are not there. -/
def Units.idle : Units := ⟨fun _ => true, fun _ => 0, fun _ => .serving fun _ => none⟩

def Units.missing : Units := ⟨fun _ => false, fun _ => 0, fun _ => .gone⟩

/-- The server replies `NotAction`, and nobody reads it. -/
theorem unregistered_action_silent : ∃ header : Header resetAsr,
    readHeader Bus.unattended.simdjson resetAsr = some header ∧ header.action.value ≠ ascii "inference" ∧
      header.workId.value ≠ [] ∧ header.action.value ≠ [] ∧
      ¬ ∃ sent, unitActionMatch (Bus.unattended.among .idle) 8000 resetAsr = .ok sent ∧
        Xor (Handled .unattended .idle 8000 header sent) (CallReported .idle 8000 sent) := by
  have shape : (readHeader Simdjson.firstMember resetAsr).map (fun header =>
      (header.workId.value, header.action.value)) = some (ascii "asr.0", ascii "reset") := by
    decide +kernel
  obtain ⟨header, read, values⟩ := Option.map_eq_some_iff.mp shape
  obtain ⟨workId, action⟩ := Prod.mk.inj values
  refine ⟨header, read, by rw [action]; decide, by rw [workId]; decide, by rw [action]; decide, ?_⟩
  have sent : unitActionMatch (Bus.unattended.among .idle) 8000 resetAsr =
      .ok [.called (ascii "asr") (ascii "reset") (setParam (ascii "ipc:///tmp/llm/8000.sock") resetAsr)] := by
    decide +kernel
  rw [sent]
  rintro ⟨_, returned, outcome⟩
  cases returned
  rcases outcome with ⟨handled, -⟩ | ⟨⟨-, reply, line⟩, -⟩
  · cases handled.1
  · cases line

theorem rpc_answered_missing : ∃ header : Header resetAsr, ∃ sent,
    unitActionMatch (Bus.unattended.among .missing) 8000 resetAsr = .ok sent ∧
      Xor (Handled .unattended .missing 8000 header sent) (CallReported .missing 8000 sent) := by
  have shape : (readHeader Simdjson.firstMember resetAsr).map (fun header =>
      (header.workId.value, header.action.value)) = some (ascii "asr.0", ascii "reset") := by
    decide +kernel
  have again : Bus.unattended.rereadWorkId resetAsr = ascii "asr.0" ∧
      Bus.unattended.rereadAction resetAsr = ascii "reset" := by
    decide +kernel
  obtain ⟨header, read, values⟩ := Option.map_eq_some_iff.mp shape
  obtain ⟨workId, action⟩ := Prod.mk.inj values
  have notInference : header.action.value ≠ ascii "inference" := by rw [action]; decide
  have nonempty : header.workId.value ≠ [] := by rw [workId]; decide
  refine ⟨header, (rpc_answered_iff read notInference nonempty).mpr ⟨?_, ?_, ?_, .inl (.inr ?_)⟩⟩
  · rw [workId]; decide
  · rw [again.1]; decide
  · rw [again.2]; decide
  · rw [again.1]; decide

end EdgeFlow.Manager
