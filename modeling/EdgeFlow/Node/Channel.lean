import EdgeFlow.Comm.Frames
import EdgeFlow.Library.Printf
import EdgeFlow.Library.Utf8
import Mathlib.Logic.Function.Basic

/-! `llm_channel_obj`: the sockets of one session and what is sent through them. -/

set_option autoImplicit false

namespace EdgeFlow.Node
open Library Library.Printf Library.Byte

/-- What leaves an event listener, or ends the process inside one. -/
inductive Fault where
  | stoi (error : StoiError)
  /-- `std::out_of_range` of `unordered_map::at` -/
  | outOfRange
  /-- `nlohmann::json::type_error`: of `dump`, or of a conversion to `std::string` -/
  | typeError
  | frame (fault : Comm.Fault)
  /-- `send_data` through an empty `std::shared_ptr<pzmq>` -/
  | nullSocket
  deriving DecidableEq, Repr

inductive Mode where
  | pub
  | push
  | sub
  deriving DecidableEq, Repr

/-- A `pzmq` object that is not an RPC. -/
structure Socket where
  mode : Mode
  url : Bytes
  deriving DecidableEq

/-- The fields of a message to a client; `created` is left out. -/
structure Message (Data : Type) where
  requestId : Bytes
  workId : Bytes
  object : Bytes
  data : Data
  error : Bytes
  deriving DecidableEq

/-- `zmq` is `zmq_`, with an entry that is empty taken for one that is not there. -/
structure Channel where
  publisherUrl : Bytes
  inferenceUrl : Bytes
  unitName : Bytes
  outputUrl : Bytes
  requestId : Bytes
  workId : Bytes
  enoutput : Bool
  enstream : Bool
  zmq : Int → Option Socket
  zmqUrlMap : Bytes → Option Int

namespace Channel

/-- The constructor; the two flags start out as they happen to be. -/
def create (flags : Bool × Bool) (publisherUrl inferenceUrl unitName : Bytes) : Channel where
  publisherUrl
  inferenceUrl
  unitName
  outputUrl := []
  requestId := []
  workId := []
  enoutput := flags.1
  enstream := flags.2
  zmq := Function.update (fun _ => none) (-1) (some ⟨.pub, publisherUrl⟩)
  zmqUrlMap _ := none

def setPushUrl (url : Bytes) (channel : Channel) : Channel :=
  if channel.outputUrl ≠ url then
    { channel with
      outputUrl := url
      zmq := Function.update channel.zmq (-2) (some ⟨.push, url⟩) }
  else channel

def isWord (b : Byte) : Bool := isDigit b || (65 ≤ b && b ≤ 90) || (97 ≤ b && b ≤ 122) || b == 95

/-- The second group of `(\w+)\.(\d+)` when the whole id matches. -/
def matchNumber (workId : Bytes) : Option Bytes :=
  let name := workId.takeWhile isWord
  match workId.drop name.length with
  | c :: digits =>
    if c = dot ∧ name ≠ [] ∧ digits ≠ [] ∧ digits.all isDigit then some digits else none
  | [] => none

/-- `subscriber_work_id`; `sqlSelect` is the answer of `unit-manager` for a key. -/
def subscriberWorkId (sqlSelect : Bytes → Bytes) (workId : Bytes) (channel : Channel) :
    Except Fault (Int × Channel) :=
  match matchNumber workId with
  | some digits =>
    match stoi digits with
    | .error error => .error (.stoi error)
    | .ok idNum =>
      let inputUrl := sqlSelect (workId ++ ascii ".out_port")
      if inputUrl = [] then .ok (-1, channel)
      else .ok (0, { channel with zmq := Function.update channel.zmq idNum (some ⟨.sub, inputUrl⟩) })
  | none =>
    .ok (0, { channel with zmq := Function.update channel.zmq 0 (some ⟨.sub, channel.inferenceUrl⟩) })

/-- `stop_subscriber`: without a URL every socket goes, the publisher with them. -/
def stopSubscriber (zmqUrl : Bytes) (channel : Channel) : Channel :=
  if zmqUrl = [] then { channel with zmq := fun _ => none, zmqUrlMap := fun _ => none }
  else
    match channel.zmqUrlMap zmqUrl with
    | some idNum =>
      { channel with
        zmq := Function.update channel.zmq idNum none
        zmqUrlMap := Function.update channel.zmqUrlMap zmqUrl none }
    | none => channel

/-- `send`: the result goes to the publisher, and to the client when output is on and there is
a socket to push through. -/
def send {Data : Type} (object : Bytes) (data : Data) (errorMsg workId : Bytes) (channel : Channel) :
    Except Fault (List (Socket × Message Data)) :=
  let out : Message Data :=
    ⟨channel.requestId, if workId = [] then channel.workId else workId, object, data, errorMsg⟩
  if Utf8.Valid out.requestId ∧ Utf8.Valid out.workId ∧ Utf8.Valid out.error then
    match channel.zmq (-1) with
    | none => .error .nullSocket
    | some pub =>
      match if channel.enoutput then channel.zmq (-2) else none with
      | some push => .ok [(pub, out), (push, out)]
      | none => .ok [(pub, out)]
  else .error .typeError

/-- The entries a channel starts with leave the publisher alone. -/
theorem setPushUrl_publisher (url : Bytes) (channel : Channel) :
    (channel.setPushUrl url).zmq (-1) = channel.zmq (-1) := by
  unfold setPushUrl
  split <;> simp

/-- One message leaves through the publisher, and through the push socket where output is on. -/
theorem send_ok {Data : Type} {object errorMsg workId : Bytes} {data : Data} {channel : Channel}
    {parts : List (Socket × Message Data)} (done : channel.send object data errorMsg workId = .ok parts) :
    ∃ pub out, channel.zmq (-1) = some pub ∧ out.requestId = channel.requestId ∧
      parts = (pub, out) :: (if channel.enoutput then channel.zmq (-2) else none).toList.map fun push =>
        (push, out) := by
  unfold send at done
  extract_lets out at done
  split at done
  · cases published : channel.zmq (-1) with
    | none => simp [published] at done
    | some pub =>
      refine ⟨pub, out, rfl, rfl, ?_⟩
      cases pushed : (if channel.enoutput then channel.zmq (-2) else none) with
      | none => simpa [published, pushed] using done.symm
      | some push => simpa [published, pushed] using done.symm
  · cases done

/-- A subscription to the session's own input always succeeds. -/
theorem subscriberWorkId_own (sqlSelect : Bytes → Bytes) (channel : Channel) :
    channel.subscriberWorkId sqlSelect [] =
      .ok (0, { channel with zmq := Function.update channel.zmq 0 (some ⟨.sub, channel.inferenceUrl⟩) }) := rfl

end Channel

end EdgeFlow.Node
