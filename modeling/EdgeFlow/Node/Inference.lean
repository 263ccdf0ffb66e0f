import EdgeFlow.Node.StackFlow

/-! Inference on a node: what `subscriber_event_call` takes from a message, the job
that is made of it, and the statements the worker thread runs for a job.

The engines are outside the model: a `TaskRun` is what a call of `inference` or
`inference_stream` happens to do. Each function here is one statement of its thread,
for the modules that interleave them.
-/

set_option autoImplicit false

namespace EdgeFlow.Node
open Library Library.Byte

/-! ## The subscriber thread -/

def actionFlag : Bytes := ascii "\"action\""

/-- The search loop of `subscriber_event_call`, from a position on. -/
def findsAction : Nat → Bytes → Nat → Bool
  | 0, _, _ => false
  | turns + 1, raw, start =>
    match Search.find actionFlag (raw.drop start) with
    | none => false
    | some offset =>
      let pos := start + offset
      if 0 < pos ∧ raw[pos - 1]? ≠ some backslash then true
      -- `sizeof` of the pointer, which is the length of the text as well
      else findsAction turns raw (pos + 8)

def hasAction (raw : Bytes) : Bool := findsAction raw.length raw 0

namespace Channel

def adoptPushUrl (raw : Bytes) (channel : Channel) : Channel :=
  let zmqCom := sampleJsonStrGet raw (ascii "zmq_com")
  if zmqCom ≠ [] then channel.setPushUrl zmqCom else channel

def adoptRequestId (raw : Bytes) (channel : Channel) : Channel :=
  { channel with requestId := sampleJsonStrGet raw (ascii "request_id") }

def adoptWorkId (raw : Bytes) (channel : Channel) : Channel :=
  { channel with workId := sampleJsonStrGet raw (ascii "work_id") }

/-- `subscriber_event_call`: the two arguments of the callback, and the channel it finds. -/
def subscriberEventCall (raw : Bytes) (channel : Channel) : (Bytes × Bytes) × Channel :=
  ((sampleJsonStrGet raw (ascii "object"), sampleJsonStrGet raw (ascii "data")),
    if hasAction raw then ((channel.adoptPushUrl raw).adoptRequestId raw).adoptWorkId raw else channel)

end Channel

/-- An inference message as sessions submit them, with an action and a reply address. -/
structure Envelope where
  raw : Bytes
  action : hasAction raw = true
  addressed : sampleJsonStrGet raw (ascii "zmq_com") ≠ []

def Envelope.zmqCom (envelope : Envelope) : Bytes := sampleJsonStrGet envelope.raw (ascii "zmq_com")
def Envelope.requestId (envelope : Envelope) : Bytes := sampleJsonStrGet envelope.raw (ascii "request_id")
def Envelope.data (envelope : Envelope) : Bytes := sampleJsonStrGet envelope.raw (ascii "data")

/-- `task` and `channel` are weak pointers to what one `setup` made. -/
structure Job (Session : Type) where
  session : Session
  workId : Bytes
  requestId : Bytes
  input : Bytes
  stream : Bool
  deriving DecidableEq

/-- The job `on_inference` makes, which for rkllm is `on_inference_stream`. -/
def Kind.onInference {Session : Type} (kind : Kind) (session : Session) (workId data : Bytes)
    (channel : Channel) : Job Session :=
  ⟨session, workId, channel.requestId, data, kind == .rkllm⟩

/-! ## `NodeJobQueue` -/

structure NodeJobQueue (J : Type) where
  maxSize : Nat
  jobs : List J
  running : Bool

namespace NodeJobQueue
variable {J : Type}

def push (job : J) (queue : NodeJobQueue J) : Bool × NodeJobQueue J :=
  if queue.running = false ∨ queue.maxSize ≤ queue.jobs.length then (false, queue)
  else (true, { queue with jobs := queue.jobs ++ [job] })

/-- `wait_pop`, once it is not waiting: `none` is its `false`. -/
def waitPop (queue : NodeJobQueue J) : Option (Option J × NodeJobQueue J) :=
  match queue.jobs with
  | job :: jobs => some (some job, { queue with jobs })
  | [] => if queue.running then none else some (none, queue)

end NodeJobQueue

/-! ## The worker thread -/

/-- The `result` of a task; the numbers of tts that are not integers are left out. -/
inductive TaskResult where
  | asr (text : Bytes) (endpoint final : Bool)
  | tts (text : Bytes) (samples speakerId : Int) (audio : Option Bytes)
  | rkllm (text : Bytes)
  deriving DecidableEq

/-- `result.value("played", true)` -/
def TaskResult.played : TaskResult → Bool
  | .tts _ _ _ audio => audio.isNone
  | _ => true

inductive ResultData where
  | none
  | result (result : TaskResult)
  | chunk (index : Nat) (delta : Bytes) (finish : Bool)
  deriving DecidableEq

/-- The callbacks of a streamed run in their order, and what the call leaves behind. -/
structure TaskRun where
  chunks : List (Bytes × Bool)
  outcome : Except Bytes TaskResult

inductive Statement where
  /-- `channel->request_id_ = job.request_id` -/
  | setRequestId
  /-- the call of `inference` or `inference_stream` -/
  | infer
  | send (object : Bytes) (data : ResultData) (errorMsg : Bytes)
  deriving DecidableEq

def queueFull : Bytes := ascii "\x7b\"code\":-22,\"message\":\"queue full\"\x7d"

/-- What `enqueue_job` sends for a job the queue did not take. -/
def queueFullStatement : Statement := .send (ascii "None") .none queueFull

/-- What the worker loop does with a job whose task and channel it has locked. -/
def loopBody : List Statement := [.setRequestId, .infer]

/-- The callbacks of `inference_stream`. -/
def chunkStatements : Nat → List (Bytes × Bool) → List Statement
  | _, [] => []
  | index, (text, finish) :: chunks =>
    .setRequestId ::
      .send (ascii "rkllm.result.stream") (.chunk index (if finish then [] else text) finish) noError ::
      chunkStatements (index + 1) chunks

def Kind.resultObject : Kind → TaskResult → Bytes
  | .asr, _ => ascii "asr.result.stream"
  | .tts, result => if result.played then ascii "tts.play.done" else ascii "tts.audio"
  | .rkllm, _ => ascii "rkllm.result"

/-- What is left to do after the call. -/
def Kind.afterInfer (kind : Kind) (stream : Bool) (run : TaskRun) : List Statement :=
  if kind = .rkllm ∧ stream then
    chunkStatements 0 run.chunks ++
      match run.outcome with
      | .ok _ => []
      | .error error => [.send (ascii "None") .none error]
  else
    match run.outcome with
    | .ok result => [.send (kind.resultObject result) (.result result) noError]
    | .error error => [.send (ascii "None") .none error]

end EdgeFlow.Node
