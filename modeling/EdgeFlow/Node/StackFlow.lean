import EdgeFlow.Node.Channel
import EdgeFlow.Node.Scanner
import EdgeFlow.Node.WorkId
import Mathlib.Data.Finset.Sort

/-! The event loop of a node: `StackFlow` and what the asr, tts and rkllm nodes
override in it.

The tasks hold engine state only, so `tasks_` is its set of keys. The unit-manager
on the other side of the `sys` RPCs is a parameter with a state of its own.
-/

set_option autoImplicit false

namespace EdgeFlow.Node
open Library Library.Printf Comm

inductive Kind where
  | asr
  | tts
  | rkllm
  deriving DecidableEq, Repr

def Kind.unitName : Kind → Bytes
  | .asr => ascii "asr"
  | .tts => ascii "tts"
  | .rkllm => ascii "rkllm"

/-- What the caller of `call_rpc_action` gets to see. -/
inductive Outcome where
  | answered (reply : Bytes)
  /-- there is no socket file: the callback is not called -/
  | missingSocket
  /-- no reply in time: the callback is given an empty message -/
  | timedOut
  deriving DecidableEq

/-- The RPCs of `sys` a node calls. -/
structure Sys (World : Type) where
  registerUnit : Bytes → World → Outcome × World
  releaseUnit : Bytes → World → Outcome × World

/-- The data of a reply: `None`, or what `taskinfo` lists. -/
inductive ReplyData where
  | none
  | tasklist (tasks : List Bytes)
  | taskinfo (tasks : List Bytes) (sampleRate speakerCount : Int)
  deriving DecidableEq

/-- An error as a `nlohmann::json` object. -/
structure ErrorBody where
  code : Int
  message : Bytes
  deriving DecidableEq

/-- What is passed for a `const std::string &` error. -/
inductive ErrorArg where
  | text (msg : Bytes)
  | json (body : ErrorBody)
  deriving DecidableEq

/-- A `json` that is not a string does not convert. -/
def ErrorArg.toString : ErrorArg → Except Fault Bytes
  | .text msg => .ok msg
  | .json _ => .error .typeError

/-- `StackFlow` with the members of the class derived from it. -/
structure StackFlow where
  kind : Kind
  status : Int
  requestId : Bytes
  outZmqUrl : Bytes
  llmTaskChannel : Int → Option Channel
  tasks : Finset Int
  maxSessions : Nat
  speakerCount : Int
  /-- what was pushed to clients, oldest first -/
  replies : List (Bytes × Message ReplyData)

def noError : Bytes := []
def notHaveUnitAction : ErrorBody := ⟨-18, ascii "not have unit action!"⟩
def sessionFull : Bytes := ascii "\x7b\"code\":-21,\"message\":\"session full\"\x7d"
def createStreamFailed : Bytes := ascii "\x7b\"code\":-11,\"message\":\"create ASR stream failed\"\x7d"
def subscribeFailed : Bytes := ascii "\x7b\"code\":-11,\"message\":\"subscribe failed\"\x7d"

/-- The same error, as each node passes it. -/
def unitDoesNotExist : Kind → ErrorArg
  | .asr | .tts => .text (ascii "\x7b\"code\":-6,\"message\":\"Unit Does Not Exist\"\x7d")
  | .rkllm => .json ⟨-6, ascii "Unit Does Not Exist"⟩

/-- A started node. -/
def StackFlow.started (kind : Kind) (maxSessions : Nat) (speakerCount : Int) : StackFlow :=
  ⟨kind, 1, [], [], fun _ => none, ∅, maxSessions, speakerCount, []⟩

def StackFlow.putChannel (number : Int) (channel : Channel) (node : StackFlow) : StackFlow :=
  { node with llmTaskChannel := Function.update node.llmTaskChannel number (some channel) }

def StackFlow.dropChannel (number : Int) (node : StackFlow) : StackFlow :=
  { node with llmTaskChannel := Function.update node.llmTaskChannel number none }

/-- `get_channel` of a number -/
def StackFlow.getChannel (number : Int) (node : StackFlow) : Except Fault Channel :=
  match node.llmTaskChannel number with
  | some channel => .ok channel
  | none => .error .outOfRange

def workIdNum (workId : Bytes) : Except Fault Int := (sampleGetWorkIdNum workId).mapError .stoi

/-- `StackFlow::send` -/
def StackFlow.send (object : Bytes) (data : ReplyData) (error : ErrorArg) (workId : Bytes) (node : StackFlow) :
    Except Fault StackFlow := do
  let errorMsg ← error.toString
  if Utf8.Valid node.requestId ∧ Utf8.Valid workId ∧ Utf8.Valid errorMsg then
    .ok { node with
      replies := node.replies ++ [(node.outZmqUrl, ⟨node.requestId, workId, object, data, errorMsg⟩)] }
  else .error .typeError

/-! ## The overrides of the three nodes -/

/-- `setup`; `ready` is whether the engine has a stream for the task, which only asr asks. -/
def StackFlow.setupTask (ready : Bool) (workId : Bytes) (node : StackFlow) : Except Fault (Int × StackFlow) := do
  if node.maxSessions ≤ node.tasks.card then
    let node ← node.send (ascii "None") .none (.text sessionFull) workId
    .ok (-1, node)
  else
    let number ← workIdNum workId
    let channel ← node.getChannel number
    if node.kind = Kind.asr ∧ ready = false then
      let node ← node.send (ascii "None") .none (.text createStreamFailed) workId
      .ok (-1, node)
    else
      let channel := { channel with enoutput := true, enstream := node.kind != Kind.tts }
      let (ret, channel) ← channel.subscriberWorkId (fun _ => []) []
      let node := node.putChannel number channel
      if ret ≠ 0 then
        let node ← node.send (ascii "None") .none (.text subscribeFailed) workId
        .ok (-1, node)
      else if node.maxSessions ≤ node.tasks.card then
        let node := node.putChannel number (channel.stopSubscriber [])
        let node ← node.send (ascii "None") .none (.text sessionFull) workId
        .ok (-1, node)
      else
        let node := { node with tasks := insert number node.tasks }
        let node ← node.send (ascii "None") .none (.text noError) workId
        .ok (0, node)

/-- `exit` -/
def StackFlow.exitTask (workId : Bytes) (node : StackFlow) : Except Fault (Int × StackFlow) := do
  let number ← workIdNum workId
  if number ∉ node.tasks then
    let node ← node.send (ascii "None") .none (unitDoesNotExist node.kind) workId
    .ok (-1, node)
  else
    let node := { node with tasks := node.tasks.erase number }
    let channel ← node.getChannel number
    let node := node.putChannel number (channel.stopSubscriber [])
    let node ← node.send (ascii "None") .none (.text noError) workId
    .ok (0, node)

/-- The work ids of the tasks; the order of an `unordered_map` is not fixed. -/
def StackFlow.taskIds (node : StackFlow) : List Bytes :=
  (node.tasks.sort (· ≤ ·)).map fun number => sampleGetWorkId number node.kind.unitName

/-- `taskinfo` -/
def StackFlow.taskinfoTask (workId : Bytes) (node : StackFlow) : Except Fault StackFlow :=
  match node.kind with
  | .asr => node.send (ascii "asr.tasklist") (.tasklist node.taskIds) (.text noError) workId
  | .tts => node.send (ascii "tts.taskinfo") (.taskinfo node.taskIds 16000 node.speakerCount) (.text noError) workId
  | .rkllm => node.send (ascii "rkllm.tasklist") (.tasklist node.taskIds) (.text noError) workId

/-! ## `StackFlow` -/

section
variable {World : Type} (sys : Sys World)

/-- The callback of `sys_register_unit`: the number in the work id as text, and the two URLs. -/
def readUnit (msg : Bytes) : Except Comm.Fault (Bytes × Bytes × Bytes) := do
  let strPort ← getParam msg 1 []
  let outPort ← getParam msg 0 strPort
  let inferencePort ← getParam msg 1 strPort
  let strPort ← getParam msg 0 []
  .ok (strPort, outPort, inferencePort)

/-- What the callback has left in the locals when the call is over. -/
def Outcome.unit (outcome : Outcome) : Except Comm.Fault (Bytes × Bytes × Bytes) :=
  match outcome with
  | .answered reply => readUnit reply
  | .missingSocket => .ok ([], [], [])
  | .timedOut => readUnit []

def sysRegisterUnit (flags : Bool × Bool) (outcome : Outcome) (node : StackFlow) : Except Fault (Int × StackFlow) := do
  let (strPort, outPort, inferencePort) ← outcome.unit.mapError .frame
  let number ← (stoi strPort).mapError .stoi
  .ok (number, node.putChannel number (.create flags outPort inferencePort node.kind.unitName))

/-- `sys_release_unit`; whatever comes of the RPC, the channel goes. -/
def sysReleaseUnit (number : Int) (workId : Bytes) (node : StackFlow) (world : World) :
    Except Fault (StackFlow × World) := do
  let (released, releasedNumber) ←
    if workId = [] then .ok (sampleGetWorkId number node.kind.unitName, number)
    else (workIdNum workId).map fun number => (workId, number)
  let (_, world) := sys.releaseUnit released world
  .ok (node.dropChannel releasedNumber, world)

/-- What a listener is called with from outside the program text: the engine's answer, and
what an uninitialised flag holds. -/
structure Chance where
  ready : Bool
  flags : Bool × Bool
  deriving DecidableEq

/-- `setup(zmq_url, raw)` -/
def StackFlow.setup (chance : Chance) (zmqUrl raw : Bytes) (node : StackFlow) (world : World) :
    Except Fault (StackFlow × World) := do
  let (outcome, world) := sys.registerUnit node.kind.unitName world
  let (number, node) ← sysRegisterUnit chance.flags outcome node
  let workId := sampleGetWorkId number node.kind.unitName
  let channel ← node.getChannel number
  let channel :=
    { channel.setPushUrl zmqUrl with requestId := sampleJsonStrGet raw (ascii "request_id"), workId }
  let (ret, node) ← (node.putChannel number channel).setupTask chance.ready workId
  if ret ≠ 0 then sysReleaseUnit sys number workId node world
  else .ok (node, world)

/-- The `try` block that three of the four begin with: whatever is thrown in it is dropped. -/
def StackFlow.redirect (zmqUrl workId : Bytes) (node : StackFlow) : StackFlow :=
  match (do let number ← workIdNum workId; let channel ← node.getChannel number; .ok (number, channel)) with
  | .ok (number, channel) => node.putChannel number (channel.setPushUrl zmqUrl)
  | .error (_ : Fault) => node

/-- `exit(zmq_url, raw)` -/
def StackFlow.exit (zmqUrl raw : Bytes) (node : StackFlow) (world : World) : Except Fault (StackFlow × World) := do
  let workId := sampleJsonStrGet raw (ascii "work_id")
  let (ret, node) ← (node.redirect zmqUrl workId).exitTask workId
  if ret = 0 then sysReleaseUnit sys (-1) workId node world
  else .ok (node, world)

/-- `pause(zmq_url, raw)`; no node overrides the second `pause`. -/
def StackFlow.pause (zmqUrl raw : Bytes) (node : StackFlow) : Except Fault StackFlow := do
  let workId := sampleJsonStrGet raw (ascii "work_id")
  (node.redirect zmqUrl workId).send (ascii "None") .none (.json notHaveUnitAction) workId

/-- `taskinfo(zmq_url, raw)` -/
def StackFlow.taskinfo (zmqUrl raw : Bytes) (node : StackFlow) : Except Fault StackFlow :=
  let workId := sampleJsonStrGet raw (ascii "work_id")
  (node.redirect zmqUrl workId).taskinfoTask workId

inductive LocalEvent where
  | setup
  | exit
  | pause
  | taskinfo
  deriving DecidableEq, Repr

/-- The RPC that enqueues the event. -/
def LocalEvent.action : LocalEvent → Bytes
  | .setup => ascii "setup"
  | .exit => ascii "exit"
  | .pause => ascii "pause"
  | .taskinfo => ascii "taskinfo"

/-- `_setup`, `_exit`, `_pause` and `_taskinfo` unpack their message alike, but for the index
that `_pause` reads the request from. -/
def LocalEvent.rawIndex : LocalEvent → Nat
  | .setup | .exit | .taskinfo => 1
  | .pause => 0

/-- The two parameters a listener takes out of its message. -/
def LocalEvent.unpack (event : LocalEvent) (msg : Bytes) : Except Comm.Fault (Bytes × Bytes) := do
  let zmqUrl ← getParam msg 0 []
  let data ← getParam msg event.rawIndex []
  .ok (zmqUrl, data)

/-- The fields a listener sets before anything else. -/
def StackFlow.receive (zmqUrl data : Bytes) (node : StackFlow) : StackFlow :=
  { node with requestId := sampleJsonStrGet data (ascii "request_id"), outZmqUrl := zmqUrl }

/-- The virtual function a listener goes on to. -/
def StackFlow.handle (event : LocalEvent) (zmqUrl data : Bytes) (chance : Chance) (node : StackFlow)
    (world : World) : Except Fault (StackFlow × World) :=
  match event with
  | .setup => node.setup sys chance zmqUrl data world
  | .exit => node.exit sys zmqUrl data world
  | .pause => (node.pause zmqUrl data).map fun node => (node, world)
  | .taskinfo => (node.taskinfo zmqUrl data).map fun node => (node, world)

/-- One listener of the event loop, run on the message its RPC was called with. -/
def StackFlow.listen (event : LocalEvent) (msg : Bytes) (chance : Chance) (node : StackFlow) (world : World) :
    Except Fault (StackFlow × World) := do
  let (zmqUrl, data) ← (event.unpack msg).mapError .frame
  let node := node.receive zmqUrl data
  if node.status = 0 then .ok (node, world)
  else node.handle sys event zmqUrl data chance world

end

end EdgeFlow.Node
