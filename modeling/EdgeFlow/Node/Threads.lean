import EdgeFlow.Library.Run
import EdgeFlow.Node.Inference

/-! The threads of a node: the event thread with its set ups and exits, the subscriber
threads of the channels, and the worker.

`llm_task_channel_`, `tasks_` and the jobs all point at what a set up made: a pointer
is a position in the list of everything that was set up, and a weak pointer locks as
long as someone still holds it. An exit is cut where another thread can see it half
done. An inference message is one step, although its callback keeps the task and the
channel in pointers of its own until it returns: `zmq_.clear()` waits for the subscriber
thread, so a callback is over before the sockets go, and an exit that takes the task off
`tasks_` meanwhile does what one does that takes it off when the callback returns, as
nobody reads `tasks_` in between.
-/

set_option autoImplicit false

namespace EdgeFlow.Node
open Library

/-- A task and its channel. -/
structure Session where
  number : Int
  workId : Bytes
  channel : Channel

inductive Worker where
  | waiting
  | popped (job : Job Nat)
  /-- the task and the channel of the job are locked -/
  | running (job : Job Nat) (todo : List Statement)

/-- How far an exit has come. -/
inductive Exiting where
  | no
  /-- the task is off `tasks_` -/
  | erased (number : Int) (task : Nat)
  /-- the sockets of the channel are cleared -/
  | stopped (number : Int) (task channel : Nat)
  /-- the override has returned; `sys_release_unit` is still to come -/
  | returned (number : Int)

structure Threads where
  kind : Kind
  maxSessions : Nat
  sessions : List Session
  llmTaskChannel : Int → Option Nat
  tasks : List (Int × Nat)
  queue : NodeJobQueue (Job Nat)
  exiting : Exiting
  worker : Worker

def Worker.holds : Worker → Nat → Bool
  | .running job _, session => job.session == session
  | _, _ => false

/-- The locals of `rkllm_node::exit` own the task and then the channel; the other two
keep neither. -/
def Exiting.holdsTask (kind : Kind) : Exiting → Nat → Bool
  | .erased _ task, session | .stopped _ task _, session => kind == .rkllm && task == session
  | _, _ => false

def Exiting.holdsChannel (kind : Kind) : Exiting → Nat → Bool
  | .stopped _ _ channel, session => kind == .rkllm && channel == session
  | _, _ => false

namespace Threads

def started (kind : Kind) (maxSessions maxQueueSize : Nat) : Threads where
  kind
  maxSessions
  sessions := []
  llmTaskChannel _ := none
  tasks := []
  queue := ⟨maxQueueSize, [], true⟩
  exiting := .no
  worker := .waiting

/-- `job.task.lock()` gives a task. -/
def locksTask (threads : Threads) (session : Nat) : Bool :=
  threads.tasks.any (·.2 == session) || threads.exiting.holdsTask threads.kind session ||
    threads.worker.holds session

/-- `job.channel.lock()` gives a channel. -/
def locksChannel (threads : Threads) (session : Nat) : Bool :=
  (threads.sessions[session]?.any fun made => threads.llmTaskChannel made.number == some session) ||
    threads.exiting.holdsChannel threads.kind session || threads.worker.holds session

def modifyChannel (session : Nat) (change : Channel → Channel) (threads : Threads) : Threads :=
  { threads with
    sessions := threads.sessions.modify session fun made => { made with channel := change made.channel } }

/-- What a `setup` is called with, and what its calls bring back. -/
structure Setup where
  number : Int
  publisherUrl : Bytes
  inferenceUrl : Bytes
  flags : Bool × Bool
  zmqUrl : Bytes
  requestId : Bytes
  ready : Bool

/-- The session that is left when a set up has succeeded. -/
def Setup.session (setup : Setup) (kind : Kind) : Session :=
  let workId := sampleGetWorkId setup.number kind.unitName
  let created := Channel.create setup.flags setup.publisherUrl setup.inferenceUrl kind.unitName
  let pushing := created.setPushUrl setup.zmqUrl
  ⟨setup.number, workId,
    { pushing with
      requestId := setup.requestId
      workId
      enoutput := true
      enstream := kind != .tts
      zmq := Function.update pushing.zmq 0 (some ⟨.sub, pushing.inferenceUrl⟩) }⟩

def setup (setup : Setup) (threads : Threads) : Threads :=
  if threads.maxSessions ≤ threads.tasks.length ∨ threads.kind = .asr ∧ setup.ready = false then
    -- the channel that `sys_register_unit` made is dropped by `sys_release_unit`
    { threads with llmTaskChannel := Function.update threads.llmTaskChannel setup.number none }
  else
    let made := threads.sessions.length
    { threads with
      sessions := threads.sessions ++ [setup.session threads.kind]
      llmTaskChannel := Function.update threads.llmTaskChannel setup.number (some made)
      tasks := (setup.number, made) :: threads.tasks.filter (·.1 ≠ setup.number) }

/-- What an exit, a pause and a taskinfo begin with. -/
def redirect (number : Int) (zmqUrl : Bytes) (threads : Threads) : Threads :=
  match threads.llmTaskChannel number with
  | some channel => threads.modifyChannel channel (Channel.setPushUrl zmqUrl)
  | none => threads

/-- `exit` as far as the erased task. Without a task it replies, which `rkllm_node` does not survive. -/
def exit (number : Int) (threads : Threads) : Option Threads :=
  match threads.tasks.lookup number with
  | some task =>
    some { threads with
      tasks := threads.tasks.filter (·.1 ≠ number)
      exiting := .erased number task }
  | none => if threads.kind = .rkllm then none else some threads

/-- `get_channel(work_id_num)->stop_subscriber("")`, or the exception of `get_channel` -/
def stop (number : Int) (task : Nat) (threads : Threads) : Option Threads :=
  (threads.llmTaskChannel number).map fun channel =>
    { threads.modifyChannel channel (Channel.stopSubscriber []) with exiting := .stopped number task channel }

def release (number : Int) (threads : Threads) : Threads :=
  { threads with llmTaskChannel := Function.update threads.llmTaskChannel number none, exiting := .no }

/-- `send` through the channel of a session; an exception ends the process. -/
def send (session : Nat) (workId object : Bytes) (data : ResultData) (errorMsg : Bytes)
    (threads : Threads) : Option Threads :=
  match threads.sessions[session]? with
  | some made =>
    match made.channel.send object data errorMsg workId with
    | .ok _ => some threads
    | .error _ => none
  | none => none

/-- A message for a channel whose subscription is there: `subscriber_event_call` and the
callback it was bound to. -/
def inference (session : Nat) (raw : Bytes) (threads : Threads) : Option Threads :=
  match threads.sessions[session]? with
  | some made =>
    if threads.locksChannel session ∧ (made.channel.zmq 0).isSome then
      let (arguments, channel) := made.channel.subscriberEventCall raw
      let threads := threads.modifyChannel session fun _ => channel
      if threads.locksTask session then
        match threads.queue.push (threads.kind.onInference session made.workId arguments.2 channel) with
        | (true, queue) => some { threads with queue }
        | (false, _) => threads.send session made.workId (ascii "None") .none queueFull
      else some threads
    else none
  | none => none

/-- `wait_pop` -/
def pop (threads : Threads) : Option Threads :=
  match threads.queue.waitPop with
  | some (some job, queue) => some { threads with queue, worker := .popped job }
  | _ => none

def lock (job : Job Nat) (threads : Threads) : Threads :=
  if threads.locksTask job.session ∧ threads.locksChannel job.session then
    { threads with worker := .running job loopBody }
  else { threads with worker := .waiting }

/-- The next statement of the loop body, or the way back to `wait_pop`. -/
def work (job : Job Nat) (todo : List Statement) (run : TaskRun) (threads : Threads) : Option Threads :=
  match todo with
  | [] => some { threads with worker := .waiting }
  | .setRequestId :: todo =>
    some { threads.modifyChannel job.session fun channel => { channel with requestId := job.requestId } with
      worker := .running job todo }
  | .infer :: todo => some { threads with worker := .running job (threads.kind.afterInfer job.stream run ++ todo) }
  | .send object data errorMsg :: todo =>
    (threads.send job.session job.workId object data errorMsg).map fun threads =>
      { threads with worker := .running job todo }

inductive Event where
  | setup (setup : Setup)
  | redirect (number : Int) (zmqUrl : Bytes)
  | exit (number : Int)
  | stop
  | leave
  | release
  | inference (session : Nat) (raw : Bytes)
  | pop
  | lock
  | work (run : TaskRun)

def step (threads : Threads) : Event → Option Threads
  | .setup made => match threads.exiting with
    | .no => some (threads.setup made)
    | _ => none
  | .redirect number zmqUrl => match threads.exiting with
    | .no => some (threads.redirect number zmqUrl)
    | _ => none
  | .exit number => match threads.exiting with
    | .no => threads.exit number
    | _ => none
  | .stop => match threads.exiting with
    | .erased number task => threads.stop number task
    | _ => none
  | .leave => match threads.exiting with
    | .stopped number _ _ => some { threads with exiting := .returned number }
    | _ => none
  | .release => match threads.exiting with
    | .returned number => some (threads.release number)
    | _ => none
  | .inference session raw => threads.inference session raw
  | .pop => match threads.worker with
    | .waiting => threads.pop
    | _ => none
  | .lock => match threads.worker with
    | .popped job => some (threads.lock job)
    | _ => none
  | .work run => match threads.worker with
    | .running job todo => threads.work job todo run
    | _ => none

/-- A session of com id 8000 under number 0. -/
def firstSetup : Setup where
  number := 0
  publisherUrl := ascii "ipc:///tmp/llm/5010.sock.asr.output_url"
  inferenceUrl := ascii "ipc:///tmp/llm/5011.sock"
  flags := (false, false)
  zmqUrl := ascii "ipc:///tmp/llm/8000.sock"
  requestId := ascii "1"
  ready := true

/-- A final result without text. -/
def emptyRun : TaskRun := ⟨[], .ok (.asr [] true true)⟩

end Threads

end EdgeFlow.Node
