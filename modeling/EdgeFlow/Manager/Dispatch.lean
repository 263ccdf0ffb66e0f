import EdgeFlow.Comm.Frames
import EdgeFlow.Manager.Registry
import EdgeFlow.Manager.Simdjson

/-! `unit_action_match`: what one request of a TCP session makes unit-manager send,
and the exceptions that leave it.

`log_level` is never changed from `SAMPLE_LOG_INFO`, so the tests inside the
log macros hold.
-/

set_option autoImplicit false

namespace EdgeFlow.Manager
open Library Library.Printf Comm

/-- The exceptions no handler between `unit_action_match` and the IO loop catches. -/
inductive Thrown where
  /-- `std::runtime_error` of `remote_call` -/
  | runtimeError
  /-- `nlohmann::json::type_error`: `dump` of text that is not UTF-8 -/
  | typeError
  deriving DecidableEq, Repr

structure UnitError where
  code : Int
  message : Bytes
  deriving DecidableEq

/-- The fields `usr_print_error` fills; `object` and `data` are both `None`. -/
structure ErrorReply where
  requestId : Bytes
  workId : Bytes
  error : UnitError
  deriving DecidableEq

inductive Sent where
  /-- `zmq_com_send` of an error -/
  | error (zmqOut : Int) (reply : ErrorReply)
  /-- `unit_data::send_msg` -/
  | published (unit : UnitData) (raw : Bytes)
  /-- `call_rpc_action` -/
  | called (unit action payload : Bytes)
  deriving DecidableEq

/-- What `unit_action_match` works with: the parser, the registry, `zmq_c_format`,
and the result of each RPC. -/
structure Bus where
  simdjson : Simdjson
  registry : Registry
  zmqCFormat : IntFormat
  callRpcAction : (unit action payload : Bytes) → Int

def jsonFormatError : UnitError := ⟨-2, ascii "json format error"⟩
def pushFalse : UnitError := ⟨-4, ascii "inference data push false"⟩
def callFalse : UnitError := ⟨-9, ascii "unit call false"⟩

def usrPrintError (requestId workId : Bytes) (error : UnitError) (zmqOut : Int) :
    Except Thrown (List Sent) :=
  if Utf8.Valid requestId ∧ Utf8.Valid workId then .ok [.error zmqOut ⟨requestId, workId, error⟩]
  else .error .typeError

/-- The URL a session's replies are pushed to. -/
def zmqPushUrl (format : IntFormat) (comId : Int) : Bytes := (sprintf format.text [comId]).getD []

/-- The `else` after the second `ALOGW` belongs to the test inside the macro, so a
missing unit is not reported. -/
def zmqBusPublisherPush (registry : Registry) (workId jsonStr : Bytes) : Int × List Sent :=
  if workId = [] then (-1, [])
  else
    match registry.readUnit workId with
    | some unit => (0, [.published unit jsonStr])
    | none => (0, [])

/-- What comes before the first dot. -/
def beforeDot (workId : Bytes) : Bytes := workId.takeWhile (· ≠ Byte.dot)

/-- `remote_call` reads the text again with a parser of its own. -/
def remoteCall (bus : Bus) (comId : Int) (jsonStr : Bytes) : Except Thrown (Int × List Sent) :=
  let workId := bus.simdjson.getString jsonStr [] (ascii "work_id")
  let workUnit := beforeDot workId
  let action := bus.simdjson.getString jsonStr [ascii "work_id"] (ascii "action")
  if workId = [] ∨ action = [] then .error .runtimeError
  else
    -- `snprintf` is given room for 254 characters
    let comUrl := (zmqPushUrl bus.zmqCFormat comId).take 254
    if workUnit = [] then .ok (-1, [])
    else
      let payload := setParam comUrl jsonStr
      .ok (bus.callRpcAction workUnit action payload, [.called workUnit action payload])

/-- The members `unit_action_match` looks up, each from where the last lookup ended. -/
structure Header (text : Bytes) where
  requestId : Member text (ascii "request_id")
  workId : Member text (ascii "work_id")
  action : Member text (ascii "action")

def readHeader (simdjson : Simdjson) (text : Bytes) : Option (Header text) :=
  if simdjson.accepts text = true then do
    let requestId ← simdjson.field text [] (ascii "request_id")
    let workId ← simdjson.field text [ascii "request_id"] (ascii "work_id")
    let action ← simdjson.field text [ascii "request_id", ascii "work_id"] (ascii "action")
    some ⟨requestId, workId, action⟩
  else none

/-- `if (work_id.empty()) work_id = "sys"` -/
def Header.routedId {text : Bytes} (header : Header text) : Bytes :=
  if header.workId.value = [] then ascii "sys" else header.workId.value

/-- `work_id_fragment`: the parts between the dots, without an empty last one. -/
def fragments : (fragment : Bytes) → Bytes → List Bytes
  | fragment, [] => if fragment = [] then [] else [fragment]
  | fragment, c :: rest =>
    if c ≠ Byte.dot then fragments (fragment ++ [c]) rest else fragment :: fragments [] rest

/-- The request with the session's URL in front: its opening brace is overwritten. -/
def inferenceRawData (format : IntFormat) (comId : Int) (jsonStr : Bytes) : Bytes :=
  ascii "\x7b\"zmq_com\":\"" ++ zmqPushUrl format comId ++ ascii "\"," ++ jsonStr.drop 1

def unitActionMatch (bus : Bus) (comId : Int) (jsonStr : Bytes) : Except Thrown (List Sent) :=
  match readHeader bus.simdjson jsonStr with
  | none => usrPrintError (ascii "0") (ascii "sys") jsonFormatError comId
  | some header =>
    let workId := header.routedId
    if header.action.value = ascii "inference" then
      let (ret, sent) := zmqBusPublisherPush bus.registry workId (inferenceRawData bus.zmqCFormat comId jsonStr)
      if ret ≠ 0 then
        (usrPrintError header.requestId.value workId pushFalse comId).map (sent ++ ·)
      else .ok sent
    else if (fragments [] workId).headD [] ≠ [] then do
      let (ret, sent) ← remoteCall bus comId jsonStr
      if ret ≠ 0 then
        (usrPrintError header.requestId.value workId callFalse comId).map (sent ++ ·)
      else .ok sent
    else .ok []

/-! ## What the parts do -/

theorem fragments_head (fragment workId : Bytes) :
    (fragments fragment workId).headD [] = fragment ++ beforeDot workId := by
  induction workId generalizing fragment with
  | nil =>
    simp only [fragments, beforeDot]
    split
    · next none => simp [none]
    · simp
  | cons c rest ih =>
    simp only [fragments, beforeDot, ne_eq, ite_not]
    split
    · next isDot => simp [isDot]
    · next notDot => rw [ih]; simp [beforeDot, notDot]

theorem Header.routedId_ne_nil {text : Bytes} (header : Header text) : header.routedId ≠ [] := by
  unfold routedId
  split
  · decide
  · assumption

theorem Header.routedId_valid {text : Bytes} (header : Header text) : Utf8.Valid header.routedId := by
  unfold routedId
  split
  · decide
  · exact header.workId.valid

theorem usrPrintError_isOk {requestId workId : Bytes} (error : UnitError) (zmqOut : Int)
    (requestValid : Utf8.Valid requestId) (workValid : Utf8.Valid workId) :
    usrPrintError requestId workId error zmqOut = .ok [.error zmqOut ⟨requestId, workId, error⟩] :=
  if_pos ⟨requestValid, workValid⟩

theorem remoteCall_isOk_iff (bus : Bus) (comId : Int) (jsonStr : Bytes) :
    (∃ result, remoteCall bus comId jsonStr = .ok result) ↔
      bus.simdjson.getString jsonStr [] (ascii "work_id") ≠ [] ∧
        bus.simdjson.getString jsonStr [ascii "work_id"] (ascii "action") ≠ [] := by
  unfold remoteCall
  by_cases missing : bus.simdjson.getString jsonStr [] (ascii "work_id") = [] ∨
      bus.simdjson.getString jsonStr [ascii "work_id"] (ascii "action") = []
  · simp only [if_pos missing, reduceCtorEq, exists_false, false_iff]
    tauto
  · simp only [if_neg missing]
    split <;> simp only [Except.ok.injEq, exists_eq', true_iff] <;> tauto

/-! ## Exceptions -/

/-- The request goes to `remote_call`, which finds no work id or no action of its own. -/
def LostOnReread (simdjson : Simdjson) (jsonStr : Bytes) : Prop :=
  ∃ header, readHeader simdjson jsonStr = some header ∧ header.action.value ≠ ascii "inference" ∧
    beforeDot header.routedId ≠ [] ∧
    (simdjson.getString jsonStr [] (ascii "work_id") = [] ∨
      simdjson.getString jsonStr [ascii "work_id"] (ascii "action") = [])

/-- What the RPC branch does once `remote_call` has returned. -/
theorem unitActionMatch_call {bus : Bus} {comId : Int} {jsonStr : Bytes} {header : Header jsonStr}
    (read : readHeader bus.simdjson jsonStr = some header)
    (notInference : header.action.value ≠ ascii "inference") (named : beforeDot header.routedId ≠ []) :
    (∃ sent, unitActionMatch bus comId jsonStr = .ok sent) ↔
      ∃ result, remoteCall bus comId jsonStr = .ok result := by
  have nonempty : (fragments [] header.routedId).headD [] ≠ [] := by
    rw [fragments_head]; exact named
  simp only [unitActionMatch, read, if_neg notInference, if_pos nonempty]
  cases remoteCall bus comId jsonStr with
  | error thrown => simp [bind, Except.bind]
  | ok result =>
    simp only [bind, Except.bind, usrPrintError_isOk _ _ header.requestId.valid header.routedId_valid]
    split <;> simp [Except.map]

theorem unitActionMatch_returns_iff (bus : Bus) (comId : Int) (jsonStr : Bytes) :
    (∃ sent, unitActionMatch bus comId jsonStr = .ok sent) ↔ ¬ LostOnReread bus.simdjson jsonStr := by
  cases read : readHeader bus.simdjson jsonStr with
  | none =>
    have formatError : Utf8.Valid (ascii "0") ∧ Utf8.Valid (ascii "sys") := by decide
    have returned : ∃ sent, unitActionMatch bus comId jsonStr = .ok sent := by
      simp only [unitActionMatch, read]
      exact ⟨_, usrPrintError_isOk _ _ formatError.1 formatError.2⟩
    have notLost : ¬ LostOnReread bus.simdjson jsonStr := by
      rintro ⟨header, found, -⟩
      rw [read] at found
      cases found
    exact iff_of_true returned notLost
  | some header =>
    by_cases inference : header.action.value = ascii "inference"
    · have returned : ∃ sent, unitActionMatch bus comId jsonStr = .ok sent := by
        simp only [unitActionMatch, read, if_pos inference,
          usrPrintError_isOk _ _ header.requestId.valid header.routedId_valid]
        split <;> simp [Except.map]
      have notLost : ¬ LostOnReread bus.simdjson jsonStr := by
        rintro ⟨other, found, notInference, -⟩
        rw [read] at found
        cases found
        exact notInference inference
      exact iff_of_true returned notLost
    · by_cases named : beforeDot header.routedId = []
      · have returned : ∃ sent, unitActionMatch bus comId jsonStr = .ok sent := by
          have unnamed : ¬ (fragments [] header.routedId).headD [] ≠ [] := by
            rw [fragments_head, not_not]; exact named
          simp only [unitActionMatch, read, if_neg inference, if_neg unnamed, Except.ok.injEq, exists_eq']
        have notLost : ¬ LostOnReread bus.simdjson jsonStr := by
          rintro ⟨other, found, -, otherNamed, -⟩
          rw [read] at found
          cases found
          exact otherNamed named
        exact iff_of_true returned notLost
      · -- only here is the text read a second time
        rw [unitActionMatch_call read inference named, remoteCall_isOk_iff]
        constructor
        · rintro ⟨workId, action⟩ ⟨_, _, _, _, lost⟩
          exact lost.elim workId action
        · intro kept
          constructor <;> intro empty <;> exact kept ⟨header, read, inference, named, by simp [empty]⟩

/-- A registry with no unit in it, and an RPC side that answers every call. -/
def Bus.unattended : Bus where
  simdjson := .firstMember
  registry := ⟨0, 5010, [], fun _ => none⟩
  zmqCFormat := Manager.zmqCFormat
  callRpcAction _ _ _ := 0

theorem empty_work_id_thrown :
    unitActionMatch .unattended 8000 (ascii "\x7b\"request_id\":\"1\",\"work_id\":\"\",\"action\":\"setup\"\x7d") =
      .error .runtimeError := by decide

end EdgeFlow.Manager
