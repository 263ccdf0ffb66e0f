import EdgeFlow.Node.Survival

/-! A node under construction: the constructor of `StackFlow` and of a class derived from it, the RPC server that the
first has started, and the event loop.

The constructor goes on step by step while requests come in and the loop takes their
events off the queue. A listener looks at `status_` and then makes a virtual call, and
which function that is depends on how far the constructor has come.
-/

set_option autoImplicit false

namespace EdgeFlow.Node
open Library Comm

/-! ## The constructor -/

/-- The members of the derived classes. -/
inductive Member where
  | engine
  | tasks
  | maxSessions
  | maxQueueSize
  | tasksMutex
  | jobs
  | worker
  deriving DecidableEq, Repr

/-- In the order they are declared. -/
def Kind.members : Kind → List Member
  | .asr | .tts => [.engine, .tasks, .maxSessions, .maxQueueSize, .tasksMutex, .jobs, .worker]
  | .rkllm => [.tasks, .engine, .maxSessions, .maxQueueSize, .tasksMutex, .jobs, .worker]

/-- The members that an override uses; no node overrides `pause`. -/
def Kind.used : Kind → LocalEvent → List Member
  | _, .setup => [.tasksMutex, .tasks, .maxSessions, .engine]
  | _, .exit => [.tasksMutex, .tasks]
  | _, .pause => []
  | .tts, .taskinfo => [.tasksMutex, .tasks, .engine]
  | _, .taskinfo => [.tasksMutex, .tasks]

/-- What the two constructors do, as far as the other threads see it. -/
inductive ConstructorStep where
  | registerRpcAction (event : LocalEvent)
  | storeStatus (value : Int)
  | startEvenLoop
  /-- the constructor of `StackFlow` is over: a virtual call is one of the derived class from here on -/
  | derive
  | member (which : Member)
  /-- the body of the derived constructor -/
  | startWorker
  deriving DecidableEq, Repr

def Kind.constructor (kind : Kind) : List ConstructorStep :=
  [.registerRpcAction .setup, .registerRpcAction .pause, .registerRpcAction .exit, .registerRpcAction .taskinfo,
    .storeStatus 0, .startEvenLoop, .storeStatus 1, .derive] ++ kind.members.map .member ++ [.startWorker]

/-! ## The base class -/

section
variable {World : Type} (sys : Sys World)

/-- What `setup`, `exit`, `pause` and `taskinfo` of three parameters do in `StackFlow`. -/
def StackFlow.notHaveUnitAction (workId : Bytes) (node : StackFlow) : Except Fault StackFlow :=
  node.send (ascii "None") .none (.json Node.notHaveUnitAction) workId

/-- A listener's virtual function that ends in the base class. -/
def StackFlow.placeholder (event : LocalEvent) (zmqUrl data : Bytes) (chance : Chance) (node : StackFlow)
    (world : World) : Except Fault (StackFlow × World) :=
  match event with
  | .setup => do
    let (outcome, world) := sys.registerUnit node.kind.unitName world
    let (number, node) ← sysRegisterUnit chance.flags outcome node
    let workId := sampleGetWorkId number node.kind.unitName
    let channel ← node.getChannel number
    let channel :=
      { channel.setPushUrl zmqUrl with requestId := sampleJsonStrGet data (ascii "request_id"), workId }
    let node ← (node.putChannel number channel).notHaveUnitAction workId
    -- it returns -1
    sysReleaseUnit sys number workId node world
  | .exit => do
    let workId := sampleJsonStrGet data (ascii "work_id")
    let node ← (node.redirect zmqUrl workId).notHaveUnitAction workId
    -- it returns 0
    sysReleaseUnit sys (-1) workId node world
  | .pause | .taskinfo => do
    let workId := sampleJsonStrGet data (ascii "work_id")
    let node ← (node.redirect zmqUrl workId).notHaveUnitAction workId
    .ok (node, world)

/-- The error is an object where a text is expected, so it is not sent, and what is thrown instead ends the node. -/
theorem notHaveUnitAction_throws (workId : Bytes) (node : StackFlow) :
    node.notHaveUnitAction workId = .error .typeError := rfl

theorem placeholder_throws (event : LocalEvent) (zmqUrl data : Bytes) (chance : Chance) (node : StackFlow)
    (world : World) : ∃ fault, node.placeholder sys event zmqUrl data chance world = .error fault := by
  cases event with
  | setup =>
    simp only [StackFlow.placeholder, bind, Except.bind, notHaveUnitAction_throws]
    split
    · exact ⟨_, rfl⟩
    · split <;> exact ⟨_, rfl⟩
  | exit | pause | taskinfo => exact ⟨.typeError, rfl⟩

end

/-! ## The threads -/

/-- How the process comes to its end. -/
inductive Ending where
  | thrown (fault : Fault)
  /-- a member is used before it is constructed -/
  | undefined
  deriving DecidableEq

/-- Where the loop is in a listener. -/
inductive Listener where
  | waiting
  /-- the fields are set, `status_` is looked at next -/
  | unpacked (call : Call)
  /-- the virtual call is next -/
  | admitted (call : Call)

def Listener.call : Listener → List Call
  | .waiting => []
  | .unpacked call | .admitted call => [call]

/-- What became of an event. -/
inductive Treatment where
  /-- `status_` was 0 -/
  | dropped
  /-- the function of the base class -/
  | placeholder
  /-- the override, in a node whose constructor is not over -/
  | halfBuilt
  /-- the override, in a node that is built -/
  | handled
  deriving DecidableEq, Repr

structure StartUp (World : Type) where
  todo : List ConstructorStep
  /-- the keys of `zmq_fun_` that are events -/
  actions : List LocalEvent
  looping : Bool
  /-- a virtual call is one of the derived class -/
  derived : Bool
  members : List Member
  running : Except Ending (StackFlow × World)
  queue : List Call
  listening : Listener
  /-- the RPCs and what came of them -/
  answers : List (Call × Outcome)
  treated : List (Call × Treatment)

/-- One step of a thread. -/
inductive StartUpStep where
  | construct
  | request (call : Call)
  | take
  | check
  | call

namespace StartUp
variable {World : Type}

/-- A node before its constructor; `status_` is not initialised. -/
def initial (kind : Kind) (maxSessions : Nat) (speakerCount : Int) (status : Int) (world : World) : StartUp World where
  todo := kind.constructor
  actions := []
  looping := false
  derived := false
  members := []
  running := .ok ({ StackFlow.started kind maxSessions speakerCount with status }, world)
  queue := []
  listening := .waiting
  answers := []
  treated := []

def construct (step : ConstructorStep) (node : StackFlow) (world : World) (state : StartUp World) : StartUp World :=
  match step with
  | .registerRpcAction event => { state with actions := state.actions ++ [event] }
  | .storeStatus value => { state with running := .ok ({ node with status := value }, world) }
  | .startEvenLoop => { state with looping := true }
  | .derive => { state with derived := true }
  | .member which => { state with members := state.members ++ [which] }
  | .startWorker => state

/-- An RPC; the socket is there from the first action on. -/
def request (call : Call) (state : StartUp World) : StartUp World :=
  if state.actions = [] then { state with answers := state.answers ++ [(call, .missingSocket)] }
  else if call.event ∈ state.actions then
    { state with
      queue := state.queue ++ [call]
      answers := state.answers ++ [(call, .answered (ascii "None"))] }
  else { state with answers := state.answers ++ [(call, .answered (ascii "NotAction"))] }

def treatment (state : StartUp World) : Treatment :=
  if state.derived = false then .placeholder else if state.todo = [] then .handled else .halfBuilt

section
variable (sys : Sys World)

/-- The virtual call, as it is dispatched at the time. -/
def dispatch (call : Call) (zmqUrl data : Bytes) (node : StackFlow) (world : World) (state : StartUp World) :
    Except Ending (StackFlow × World) :=
  if state.derived = false then
    (node.placeholder sys call.event zmqUrl data call.chance world).mapError .thrown
  else if (node.kind.used call.event).all (· ∈ state.members) then
    (node.handle sys call.event zmqUrl data call.chance world).mapError .thrown
  else .error .undefined

/-- A step that can be taken; there is none when the process has ended. -/
def step (state : StartUp World) (label : StartUpStep) : Option (StartUp World) :=
  match state.running with
  | .error _ => none
  | .ok (node, world) =>
    match label with
    | .construct =>
      match state.todo with
      | [] => none
      | next :: todo => some { state.construct next node world with todo }
    | .request call => some (state.request call)
    | .take =>
      match state.looping, state.listening, state.queue with
      | true, .waiting, call :: queue =>
        let running := match call.event.unpack call.msg with
          | .error fault => .error (.thrown (.frame fault))
          | .ok (zmqUrl, data) => .ok (node.receive zmqUrl data, world)
        some { state with queue, listening := .unpacked call, running }
      | _, _, _ => none
    | .check =>
      match state.listening with
      | .unpacked call =>
        if node.status = 0 then
          some { state with listening := .waiting, treated := state.treated ++ [(call, .dropped)] }
        else some { state with listening := .admitted call }
      | _ => none
    | .call =>
      match state.listening with
      | .admitted call =>
        let running := (call.event.unpack call.msg).mapError (fun fault => .thrown (.frame fault)) >>=
          fun (zmqUrl, data) =>
          state.dispatch sys call zmqUrl data node world
        some { state with listening := .waiting, treated := state.treated ++ [(call, state.treatment)], running }
      | _ => none

/-- The steps, as far as what every step keeps depends on them; it is left open how a listener ends. -/
inductive Moves (state : StartUp World) : StartUpStep → StartUp World → Prop where
  | construct {next : ConstructorStep} {todo : List ConstructorStep} (node : StackFlow) (world : World) :
      state.todo = next :: todo → Moves state .construct { state.construct next node world with todo }
  | request (call : Call) : Moves state (.request call) (state.request call)
  | take {call : Call} {queue : List Call} (running : Except Ending (StackFlow × World)) :
      state.listening = .waiting → state.queue = call :: queue →
        Moves state .take { state with queue, listening := .unpacked call, running }
  | drop {call : Call} {node : StackFlow} {world : World} :
      state.running = .ok (node, world) → state.listening = .unpacked call → node.status = 0 →
        Moves state .check { state with listening := .waiting, treated := state.treated ++ [(call, .dropped)] }
  | goOn {call : Call} {node : StackFlow} {world : World} :
      state.running = .ok (node, world) → state.listening = .unpacked call → node.status ≠ 0 →
        Moves state .check { state with listening := .admitted call }
  | call {call : Call} (running : Except Ending (StackFlow × World)) : state.listening = .admitted call →
      Moves state .call
        { state with listening := .waiting, treated := state.treated ++ [(call, state.treatment)], running }

variable {sys}

theorem moves_of_step {state after : StartUp World} {label : StartUpStep} (taken : state.step sys label = some after) :
    state.Moves label after := by
  unfold StartUp.step at taken
  split at taken
  · cases taken
  · next node world running =>
    cases label with
    | construct =>
      simp only at taken
      split at taken
      · cases taken
      · next todo =>
        cases taken
        exact .construct node world todo
    | request call =>
      cases taken
      exact .request call
    | take =>
      simp only at taken
      split at taken
      · next waiting found =>
        cases taken
        exact .take _ waiting found
      · cases taken
    | check =>
      simp only at taken
      split at taken
      · next unpacked =>
        split at taken
        · next unset =>
          cases taken
          exact .drop running unpacked unset
        · next set =>
          cases taken
          exact .goOn running unpacked set
      · cases taken
    | call =>
      simp only at taken
      split at taken
      · next admitted =>
        cases taken
        exact .call _ admitted
      · cases taken

end

/-- The events whose RPC was answered "None". -/
def acknowledged (answers : List (Call × Outcome)) : List Call :=
  answers.filterMap fun (call, outcome) => if outcome = .answered (ascii "None") then some call else none

/-- `status_` is set when a listener looks at it, and the constructor is over when it makes the virtual call. -/
def late (state : StartUp World) : StartUpStep → Bool
  | .check =>
    match state.listening, state.running with
    | .unpacked call, .ok (node, _) => call.event == .pause || node.status != 0
    | _, _ => true
  | .call =>
    match state.listening with
    | .admitted call => call.event == .pause || state.todo.isEmpty
    | _ => true
  | .construct | .request _ | .take => true

/-! ## What every step keeps -/

/-- The virtual calls of the base class end before the constructor does, and no event gets lost without a treatment. -/
structure Sound (state : StartUp World) : Prop where
  derived : state.derived = false → ConstructorStep.derive ∈ state.todo
  kept : acknowledged state.answers = state.treated.map (·.1) ++ state.listening.call ++ state.queue

theorem initial_sound (kind : Kind) (maxSessions : Nat) (speakerCount : Int) (status : Int) (world : World) :
    (initial kind maxSessions speakerCount status world).Sound :=
  ⟨fun _ => by simp [initial, Kind.constructor], rfl⟩

theorem acknowledged_append (answers : List (Call × Outcome)) (call : Call) (outcome : Outcome) :
    acknowledged (answers ++ [(call, outcome)]) =
      acknowledged answers ++ if outcome = .answered (ascii "None") then [call] else [] := by
  unfold acknowledged
  rw [List.filterMap_append]
  split <;> simp [*]

theorem Sound.request {state : StartUp World} (sound : state.Sound) (call : Call) : (state.request call).Sound := by
  have refused : ∀ outcome, outcome ≠ .answered (ascii "None") →
      Sound { state with answers := state.answers ++ [(call, outcome)] } := by
    intro outcome other
    refine ⟨sound.derived, ?_⟩
    rw [acknowledged_append, if_neg other, List.append_nil]
    exact sound.kept
  unfold StartUp.request
  split
  · exact refused .missingSocket nofun
  · split
    · refine ⟨sound.derived, ?_⟩
      rw [acknowledged_append, if_pos rfl, sound.kept, List.append_assoc]
    · exact refused _ (by decide)

theorem Sound.construct {state : StartUp World} (sound : state.Sound) {next : ConstructorStep}
    {todo : List ConstructorStep} (comes : state.todo = next :: todo) (node : StackFlow) (world : World) :
    Sound { state.construct next node world with todo } := by
  have later : next ≠ .derive → state.derived = false → ConstructorStep.derive ∈ todo := by
    intro other base
    have there := sound.derived base
    rw [comes] at there
    exact (List.mem_cons.mp there).resolve_left other.symm
  cases next with
  | derive => exact ⟨nofun, sound.kept⟩
  | registerRpcAction | storeStatus | startEvenLoop | member | startWorker => exact ⟨later nofun, sound.kept⟩

variable {sys : Sys World}

theorem Sound.step {state after : StartUp World} (sound : state.Sound) {label : StartUpStep}
    (taken : state.step sys label = some after) : after.Sound := by
  cases moves_of_step taken with
  | construct node world todo => exact sound.construct todo node world
  | request call => exact sound.request call
  | take running waiting found =>
    -- the event goes from the queue to the listener
    refine ⟨sound.derived, ?_⟩
    rw [sound.kept, waiting, found]
    simp [Listener.call]
  | drop running unpacked unset =>
    refine ⟨sound.derived, ?_⟩
    rw [sound.kept, unpacked]
    simp [Listener.call]
  | goOn running unpacked set =>
    refine ⟨sound.derived, ?_⟩
    rw [sound.kept, unpacked]
    rfl
  | call running admitted =>
    refine ⟨sound.derived, ?_⟩
    rw [sound.kept, admitted]
    simp [Listener.call]

/-! ## Late enough -/

/-- What is through was handled by the override of a built node. -/
def Handled (state : StartUp World) : Prop := ∀ entry ∈ state.treated, entry.1.event ≠ .pause → entry.2 = .handled

/-- In a built node the three steps of a listener come to what `StackFlow.listen` does. -/
theorem follow_listener {state : StartUp World} {node : StackFlow} {world : World}
    (running : state.running = .ok (node, world)) (looping : state.looping = true)
    (waiting : state.listening = .waiting)
    {call : Call} {queue : List Call} (next : state.queue = call :: queue) (derived : state.derived = true)
    (members : ∀ member ∈ node.kind.used call.event, member ∈ state.members) (up : node.status ≠ 0)
    {zmqUrl data : Bytes} (unpacked : call.event.unpack call.msg = .ok (zmqUrl, data)) :
    follow (step sys) state [.take, .check, .call] = some { state with
      queue
      treated := state.treated ++ [(call, state.treatment)]
      running := (node.listen sys call.event call.msg call.chance world).mapError .thrown } := by
  have kind : (node.receive zmqUrl data).kind = node.kind := rfl
  have status : (node.receive zmqUrl data).status = node.status := rfl
  have listened : node.listen sys call.event call.msg call.chance world =
      (node.receive zmqUrl data).handle sys call.event zmqUrl data call.chance world := by
    simp only [StackFlow.listen, unpacked, Except.mapError, bind, Except.bind, status, if_neg up]
  simp [step, running, looping, waiting, next, unpacked, status, up, dispatch, derived, kind, treatment, listened, bind,
    Except.bind, Except.mapError]
  intro member used missing
  exact absurd (members member used) missing

end StartUp

end EdgeFlow.Node
