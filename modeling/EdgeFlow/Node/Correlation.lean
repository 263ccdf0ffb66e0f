import EdgeFlow.Node.Threads

/-! Whose reply is whose, on one channel.

The subscriber thread writes `request_id_` and the push URL of the channel for every
message it takes up; the worker writes `request_id_` again for every job it runs, and
both send what the two fields hold at that moment. Each statement that reads or writes
them is one step.
-/

set_option autoImplicit false

namespace EdgeFlow.Node
open Library

/-- A job with the message it was made of. -/
structure Request where
  envelope : Envelope
  job : Job Unit

/-- The statement the subscriber thread comes to next. -/
inductive Subscriber where
  | waiting
  /-- `set_push_url(zmq_com)` -/
  | setPushUrl (envelope : Envelope)
  /-- `request_id_ = ...` -/
  | setRequestId (envelope : Envelope)
  /-- `work_id_ = ...` -/
  | setWorkId (envelope : Envelope)
  /-- the arguments of `enqueue_job` -/
  | onInference (envelope : Envelope)
  /-- `jobs_.push` -/
  | push (request : Request)
  /-- `send` of the queue-full error -/
  | refuse (request : Request)

/-- The worker, as far as it is with a job of this channel. -/
inductive Loop where
  | waiting
  | running (request : Request) (todo : List Statement)

/-- What one call of `send` put on the sockets, for the message it answers. -/
structure Reply where
  envelope : Envelope
  parts : List (Socket × Message ResultData)

/-- A reply carries the id of its request and is pushed to its session, and to no other. -/
structure Reply.Correlated (reply : Reply) : Prop where
  identified : ∀ part ∈ reply.parts, part.2.requestId = reply.envelope.requestId
  pushed : ∃ message, (⟨.push, reply.envelope.zmqCom⟩, message) ∈ reply.parts
  nowhereElse : ∀ part ∈ reply.parts, part.1.mode = .push → part.1.url = reply.envelope.zmqCom

structure Exchange where
  kind : Kind
  workId : Bytes
  channel : Channel
  subscriber : Subscriber
  queue : NodeJobQueue Request
  worker : Loop
  replies : List Reply

inductive Step where
  /-- a message comes in -/
  | receive (envelope : Envelope)
  /-- the next statement of the subscriber thread -/
  | subscribe
  /-- `wait_pop` and the locks, which an open session grants -/
  | pop
  /-- the next statement of the worker thread -/
  | work (run : TaskRun)

namespace Exchange

/-- A session as its set up leaves it. -/
def opened (kind : Kind) (maxQueueSize : Nat) (setup : Threads.Setup) : Exchange where
  kind
  workId := (setup.session kind).workId
  channel := (setup.session kind).channel
  subscriber := .waiting
  queue := ⟨maxQueueSize, [], true⟩
  worker := .waiting
  replies := []

/-- `send` for a request; an exception ends the process. -/
def send (request : Request) (object : Bytes) (data : ResultData) (errorMsg : Bytes) (exchange : Exchange) :
    Option Exchange :=
  match exchange.channel.send object data errorMsg request.job.workId with
  | .ok parts => some { exchange with replies := exchange.replies ++ [⟨request.envelope, parts⟩] }
  | .error _ => none

def subscribe (exchange : Exchange) : Option Exchange :=
  match exchange.subscriber with
  | .waiting => none
  | .setPushUrl envelope => some { exchange with
      channel := exchange.channel.adoptPushUrl envelope.raw
      subscriber := .setRequestId envelope }
  | .setRequestId envelope => some { exchange with
      channel := exchange.channel.adoptRequestId envelope.raw
      subscriber := .setWorkId envelope }
  | .setWorkId envelope => some { exchange with
      channel := exchange.channel.adoptWorkId envelope.raw
      subscriber := .onInference envelope }
  | .onInference envelope => some { exchange with
      subscriber :=
        .push ⟨envelope, exchange.kind.onInference () exchange.workId envelope.data exchange.channel⟩ }
  | .push request =>
    match exchange.queue.push request with
    | (true, queue) => some { exchange with queue, subscriber := .waiting }
    | (false, _) => some { exchange with subscriber := .refuse request }
  | .refuse request =>
    (exchange.send request (ascii "None") .none queueFull).map fun exchange =>
      { exchange with subscriber := .waiting }

def work (request : Request) (todo : List Statement) (run : TaskRun) (exchange : Exchange) : Option Exchange :=
  match todo with
  | [] => some { exchange with worker := .waiting }
  | .setRequestId :: todo => some { exchange with
      channel := { exchange.channel with requestId := request.job.requestId }
      worker := .running request todo }
  | .infer :: todo => some { exchange with
      worker := .running request (exchange.kind.afterInfer request.job.stream run ++ todo) }
  | .send object data errorMsg :: todo =>
    (exchange.send request object data errorMsg).map fun exchange =>
      { exchange with worker := .running request todo }

def step (exchange : Exchange) : Step → Option Exchange
  | .receive envelope =>
    match exchange.subscriber with
    | .waiting => some { exchange with subscriber := .setPushUrl envelope }
    | _ => none
  | .subscribe => exchange.subscribe
  | .pop =>
    match exchange.worker, exchange.queue.waitPop with
    | .waiting, some (some request, queue) => some { exchange with queue, worker := .running request loopBody }
    | _, _ => none
  | .work run =>
    match exchange.worker with
    | .running request todo => exchange.work request todo run
    | .waiting => none

/-- Nothing came between: the statements of the subscriber thread make up `subscriber_event_call`. -/
theorem subscribe_uninterrupted (exchange : Exchange) (idle : exchange.subscriber = .waiting) (envelope : Envelope) :
    follow step exchange [.receive envelope, .subscribe, .subscribe, .subscribe, .subscribe] =
      let (arguments, channel) := exchange.channel.subscriberEventCall envelope.raw
      some { exchange with
        channel
        subscriber := .push ⟨envelope, exchange.kind.onInference () exchange.workId arguments.2 channel⟩ } := by
  simp only [follow_cons, step, idle, Option.bind_some, subscribe, Channel.subscriberEventCall, if_pos envelope.action]
  rfl

end Exchange

/-! ## Who relies on the two fields -/

/-- The message whose push URL is set. -/
def Subscriber.redirected : Subscriber → Option Envelope
  | .waiting | .setPushUrl _ => none
  | .setRequestId envelope | .setWorkId envelope | .onInference envelope => some envelope
  | .push request | .refuse request => some request.envelope

/-- The message whose `request_id_` is set. -/
def Subscriber.identified : Subscriber → Option Envelope
  | .waiting | .setPushUrl _ | .setRequestId _ => none
  | .setWorkId envelope | .onInference envelope => some envelope
  | .push request | .refuse request => some request.envelope

/-- The job the worker is not done with. -/
def Loop.unfinished : Loop → Option Request
  | .running request (_ :: _) => some request
  | _ => none

/-- The job that may be sent for before `request_id_` is set to its own again. -/
def Loop.relying : Loop → Option Request
  | .running _ (.setRequestId :: _) => none
  | loop => loop.unfinished

namespace Exchange

/-- No statement sets a field to something else than what a reply under way is going to need. -/
def undisturbed (exchange : Exchange) : Step → Bool
  | .subscribe =>
    match exchange.subscriber with
    | .setPushUrl envelope =>
      (exchange.queue.jobs ++ exchange.worker.unfinished.toList).all (·.envelope.zmqCom == envelope.zmqCom)
    | .setRequestId envelope => exchange.worker.relying.all (·.envelope.requestId == envelope.requestId)
    | _ => true
  | .work _ =>
    match exchange.worker with
    | .running request (.setRequestId :: _) =>
      exchange.subscriber.identified.all (·.requestId == request.envelope.requestId)
    | _ => true
  | _ => true

/-- The messages whose replies go to wherever the channel pushes. -/
def underWay (exchange : Exchange) : List Envelope :=
  exchange.subscriber.redirected.toList ++ exchange.queue.jobs.map (·.envelope) ++
    exchange.worker.unfinished.toList.map (·.envelope)

/-- The channel is set up for every reply that can come next. -/
structure Orderly (exchange : Exchange) : Prop where
  output : exchange.channel.enoutput = true
  publisher : ∀ socket, exchange.channel.zmq (-1) = some socket → socket.mode = .pub
  socket : exchange.channel.outputUrl ≠ [] → exchange.channel.zmq (-2) = some ⟨.push, exchange.channel.outputUrl⟩
  target : ∀ envelope ∈ exchange.underWay, exchange.channel.outputUrl = envelope.zmqCom
  pushId : ∀ request, exchange.subscriber = .push request → request.job.requestId = request.envelope.requestId
  queueId : ∀ request ∈ exchange.queue.jobs, request.job.requestId = request.envelope.requestId
  workerId : ∀ request todo, exchange.worker = .running request todo →
    request.job.requestId = request.envelope.requestId
  subscriberId : ∀ envelope, exchange.subscriber.identified = some envelope →
    exchange.channel.requestId = envelope.requestId
  relyingId : ∀ request, exchange.worker.relying = some request →
    exchange.channel.requestId = request.envelope.requestId
  correlated : ∀ reply ∈ exchange.replies, reply.Correlated

theorem opened_orderly (kind : Kind) (maxQueueSize : Nat) (setup : Threads.Setup) :
    (opened kind maxQueueSize setup).Orderly where
  output := rfl
  publisher := by
    intro socket found
    simp [opened, Threads.Setup.session, Channel.setPushUrl_publisher, Channel.create] at found
    simp [← found]
  socket := by
    intro addressed
    simp only [opened, Threads.Setup.session, Channel.setPushUrl] at addressed ⊢
    split at addressed
    · simp_all [Channel.create]
    · simp_all [Channel.create]
  target envelope member := by cases member
  pushId request pushing := by cases pushing
  queueId request member := by cases member
  workerId request todo running := by cases running
  subscriberId envelope identified := by cases identified
  relyingId request relying := by cases relying
  correlated reply member := by cases member

/-! ## What is sent -/

/-- A reply that the channel is set up for is correlated. -/
theorem Orderly.send {exchange after : Exchange} (orderly : exchange.Orderly) {request : Request}
    (underWay : request.envelope ∈ exchange.underWay)
    (identified : exchange.channel.requestId = request.envelope.requestId) {object errorMsg : Bytes} {data : ResultData}
    (sent : exchange.send request object data errorMsg = some after) :
    after.Orderly ∧ ∃ reply, after = { exchange with replies := exchange.replies ++ [reply] } := by
  have target := orderly.target _ underWay
  have addressed : exchange.channel.outputUrl ≠ [] := target ▸ request.envelope.addressed
  have push := orderly.socket addressed
  unfold Exchange.send at sent
  split at sent
  · next parts done =>
    cases sent
    refine ⟨{ orderly with correlated := ?_ }, _, rfl⟩
    intro reply member
    obtain old | rfl := (List.mem_append.mp member).imp_right List.mem_singleton.mp
    · exact orderly.correlated reply old
    · obtain ⟨pub, out, published, own, rfl⟩ := Channel.send_ok done
      have isPub := orderly.publisher pub published
      simp only [orderly.output, if_true, push, Option.toList_some, List.map_cons, List.map_nil]
      refine ⟨?_, ?_, ?_⟩
      · intro part inParts
        simp only [List.mem_cons, List.not_mem_nil, or_false] at inParts
        obtain rfl | rfl := inParts <;> exact own.trans identified
      · rw [← target]
        exact ⟨out, List.mem_cons_of_mem _ List.mem_cons_self⟩
      · intro part inParts pushed
        simp only [List.mem_cons, List.not_mem_nil, or_false] at inParts
        obtain rfl | rfl := inParts
        · cases isPub.symm.trans pushed
        · exact target
  · cases sent

/-! ## Step by step -/

theorem mem_underWay {exchange : Exchange} {envelope : Envelope} :
    envelope ∈ exchange.underWay ↔ exchange.subscriber.redirected = some envelope ∨
      (∃ request ∈ exchange.queue.jobs, request.envelope = envelope) ∨
        ∃ request, exchange.worker.unfinished = some request ∧ request.envelope = envelope := by
  simp [underWay]

section
variable {exchange : Exchange} (orderly : exchange.Orderly)

include orderly

/-- The push URL is set to where the messages under way want it anyway. -/
theorem Orderly.setPushUrl {envelope : Envelope} (arrived : exchange.subscriber = .setPushUrl envelope)
    (kept : exchange.undisturbed .subscribe = true) :
    ({ exchange with
      channel := exchange.channel.adoptPushUrl envelope.raw
      subscriber := .setRequestId envelope } : Exchange).Orderly := by
  have adopted : exchange.channel.adoptPushUrl envelope.raw = exchange.channel.setPushUrl envelope.zmqCom :=
    if_pos envelope.addressed
  rw [adopted]
  -- whoever is under way was to be answered there already
  have sameTarget : ∀ other ∈ exchange.underWay, other.zmqCom = envelope.zmqCom := by
    intro other member
    simp only [undisturbed, arrived, List.all_eq_true, List.mem_append, Option.mem_toList, beq_iff_eq] at kept
    obtain redirected | ⟨request, queued, rfl⟩ | ⟨request, running, rfl⟩ := mem_underWay.mp member
    · simp [arrived, Subscriber.redirected] at redirected
    · exact kept request (.inl queued)
    · exact kept request (.inr running)
  have requestId : (exchange.channel.setPushUrl envelope.zmqCom).requestId = exchange.channel.requestId := by
    unfold Channel.setPushUrl
    split <;> rfl
  have outputUrl : (exchange.channel.setPushUrl envelope.zmqCom).outputUrl = envelope.zmqCom := by
    unfold Channel.setPushUrl
    split
    · rfl
    · next same => exact not_not.mp same
  exact {
    output := by
      show (exchange.channel.setPushUrl envelope.zmqCom).enoutput = true
      unfold Channel.setPushUrl
      split <;> exact orderly.output
    publisher := by
      intro socket found
      exact orderly.publisher socket (by rw [← found]; exact (Channel.setPushUrl_publisher _ _).symm)
    socket := by
      show (exchange.channel.setPushUrl envelope.zmqCom).outputUrl ≠ [] →
        (exchange.channel.setPushUrl envelope.zmqCom).zmq (-2) =
          some ⟨.push, (exchange.channel.setPushUrl envelope.zmqCom).outputUrl⟩
      unfold Channel.setPushUrl
      split
      · intro _
        simp
      · exact orderly.socket
    target := by
      intro other member
      show (exchange.channel.setPushUrl envelope.zmqCom).outputUrl = other.zmqCom
      rw [outputUrl]
      obtain redirected | rest := mem_underWay.mp member
      · cases redirected
        rfl
      · exact (sameTarget other (mem_underWay.mpr (.inr rest))).symm
    pushId := fun request pushing => by cases pushing
    queueId := orderly.queueId
    workerId := orderly.workerId
    subscriberId := fun other identified => by cases identified
    relyingId := fun request relying => requestId.trans (orderly.relyingId request relying)
    correlated := orderly.correlated }

/-- `request_id_` is set while the worker does not rely on another. -/
theorem Orderly.setRequestId {envelope : Envelope} (arrived : exchange.subscriber = .setRequestId envelope)
    (kept : exchange.undisturbed .subscribe = true) :
    ({ exchange with
      channel := exchange.channel.adoptRequestId envelope.raw
      subscriber := .setWorkId envelope } : Exchange).Orderly :=
  { orderly with
    target := by
      intro other member
      refine orderly.target other (mem_underWay.mpr ?_)
      rw [arrived]
      exact mem_underWay.mp member
    pushId := fun request pushing => by cases pushing
    subscriberId := by
      intro other identified
      cases identified
      rfl
    relyingId := by
      intro request relying
      have relying : exchange.worker.relying = some request := relying
      simp only [undisturbed, arrived, relying, Option.all_some, beq_iff_eq] at kept
      exact kept.symm }

/-- The subscriber thread goes from one statement to the next without a field being set. -/
theorem Orderly.advance {subscriber : Subscriber} (redirected : subscriber.redirected = exchange.subscriber.redirected)
    (identified : subscriber.identified = exchange.subscriber.identified)
    (pushId : ∀ request, subscriber = .push request → request.job.requestId = request.envelope.requestId)
    (workId : Bytes) :
    ({ exchange with channel := { exchange.channel with workId }, subscriber } : Exchange).Orderly :=
  { orderly with
    target := by
      intro other member
      refine orderly.target other (mem_underWay.mpr ?_)
      rw [← redirected]
      exact mem_underWay.mp member
    pushId
    subscriberId := by
      intro envelope found
      exact orderly.subscriberId envelope (identified ▸ found) }

theorem Orderly.idle : ({ exchange with subscriber := .waiting } : Exchange).Orderly :=
  { orderly with
    target := by
      intro other member
      obtain none | rest := mem_underWay.mp member
      · cases none
      · exact orderly.target other (mem_underWay.mpr (.inr rest))
    pushId := fun request pushing => by cases pushing
    subscriberId := fun envelope found => by cases found }

theorem Orderly.push {request : Request} (arrived : exchange.subscriber = .push request) {after : Exchange}
    (taken : exchange.subscribe = some after) : after.Orderly := by
  simp only [Exchange.subscribe, arrived] at taken
  split at taken
  · next queue pushed =>
    cases taken
    have jobs : queue.jobs = exchange.queue.jobs ++ [request] := by
      unfold NodeJobQueue.push at pushed
      split at pushed <;> cases pushed
      rfl
    exact {
      orderly.idle with
      target := by
        intro other member
        refine orderly.target other (mem_underWay.mpr ?_)
        obtain none | ⟨queued, inQueue, rfl⟩ | running := mem_underWay.mp member
        · cases none
        · have inQueue : queued ∈ queue.jobs := inQueue
          rw [jobs, List.mem_append, List.mem_singleton] at inQueue
          obtain old | rfl := inQueue
          · exact .inr (.inl ⟨queued, old, rfl⟩)
          · exact .inl (by rw [arrived]; rfl)
        · exact .inr (.inr running)
      queueId := by
        intro queued inQueue
        have inQueue : queued ∈ queue.jobs := inQueue
        rw [jobs, List.mem_append, List.mem_singleton] at inQueue
        obtain old | rfl := inQueue
        · exact orderly.queueId queued old
        · exact orderly.pushId queued arrived }
  · cases taken
    refine orderly.advance (by rw [arrived]; rfl) (by rw [arrived]; rfl) ?_ exchange.channel.workId
    intro other pushing
    cases pushing

theorem Orderly.subscribe {after : Exchange} (kept : exchange.undisturbed .subscribe = true)
    (taken : exchange.subscribe = some after) : after.Orderly := by
  cases arrived : exchange.subscriber with
  | waiting => simp [Exchange.subscribe, arrived] at taken
  | setPushUrl envelope =>
    simp only [Exchange.subscribe, arrived] at taken
    cases taken
    exact orderly.setPushUrl arrived kept
  | setRequestId envelope =>
    simp only [Exchange.subscribe, arrived] at taken
    cases taken
    exact orderly.setRequestId arrived kept
  | setWorkId envelope =>
    simp only [Exchange.subscribe, arrived] at taken
    cases taken
    refine orderly.advance (by rw [arrived]; rfl) (by rw [arrived]; rfl) ?_ _
    intro request pushing
    cases pushing
  | onInference envelope =>
    simp only [Exchange.subscribe, arrived] at taken
    cases taken
    refine orderly.advance (by rw [arrived]; rfl) (by rw [arrived]; rfl) ?_ exchange.channel.workId
    intro request pushing
    cases pushing
    exact orderly.subscriberId envelope (by rw [arrived]; rfl)
  | push request => exact orderly.push arrived taken
  | refuse request =>
    simp only [Exchange.subscribe, arrived] at taken
    obtain ⟨sent, sends, rfl⟩ := Option.map_eq_some_iff.mp taken
    have underWay : request.envelope ∈ exchange.underWay := mem_underWay.mpr (.inl (by rw [arrived]; rfl))
    exact (orderly.send underWay (orderly.subscriberId _ (by rw [arrived]; rfl)) sends).1.idle

theorem Orderly.receive (idle : exchange.subscriber = .waiting) (envelope : Envelope) :
    ({ exchange with subscriber := .setPushUrl envelope } : Exchange).Orderly :=
  { orderly with
    target := by
      intro other member
      refine orderly.target other (mem_underWay.mpr ?_)
      rw [idle]
      exact mem_underWay.mp member
    pushId := fun request pushing => by cases pushing
    subscriberId := fun other identified => by cases identified }

theorem Orderly.pop {request : Request} {jobs : List Request}
    (queued : exchange.queue.jobs = request :: jobs) :
    ({ exchange with queue := { exchange.queue with jobs }, worker := .running request loopBody } : Exchange).Orderly :=
  { orderly with
    target := by
      intro other member
      refine orderly.target other (mem_underWay.mpr ?_)
      obtain redirected | ⟨later, inJobs, rfl⟩ | ⟨popped, running, rfl⟩ := mem_underWay.mp member
      · exact .inl redirected
      · exact .inr (.inl ⟨later, by rw [queued]; exact List.mem_cons_of_mem _ inJobs, rfl⟩)
      · cases running
        exact .inr (.inl ⟨request, by rw [queued]; exact List.mem_cons_self, rfl⟩)
    queueId := fun later inJobs => orderly.queueId later (by rw [queued]; exact List.mem_cons_of_mem _ inJobs)
    workerId := by
      intro popped todo running
      cases running
      exact orderly.queueId request (by rw [queued]; exact List.mem_cons_self)
    relyingId := fun popped relying => by cases relying }

/-- The worker goes on with a job it is not done with. -/
theorem Orderly.goOn {request : Request} {todo : List Statement}
    (unfinished : exchange.worker.unfinished = some request)
    (own : request.job.requestId = request.envelope.requestId)
    (relying : exchange.channel.requestId = request.envelope.requestId) :
    ({ exchange with worker := .running request todo } : Exchange).Orderly :=
  { orderly with
    target := by
      intro other member
      refine orderly.target other (mem_underWay.mpr ?_)
      obtain redirected | queued | ⟨running, found, rfl⟩ := mem_underWay.mp member
      · exact .inl redirected
      · exact .inr (.inl queued)
      · have same : running = request := by
          cases todo <;> cases found
          rfl
        exact .inr (.inr ⟨request, unfinished, by rw [same]⟩)
    workerId := by
      intro running rest found
      cases found
      exact own
    relyingId := by
      intro running found
      have same : running = request := by
        cases todo with
        | nil => cases found
        | cons statement todo => cases statement <;> cases found <;> rfl
      rw [same]
      exact relying }

theorem Orderly.work {request : Request} {todo : List Statement} {run : TaskRun} {after : Exchange}
    (running : exchange.worker = .running request todo) (kept : exchange.undisturbed (.work run) = true)
    (taken : exchange.work request todo run = some after) : after.Orderly := by
  have own := orderly.workerId request todo running
  cases todo with
  | nil =>
    cases taken
    exact { orderly with
      target := by
        intro other member
        refine orderly.target other (mem_underWay.mpr ?_)
        obtain redirected | queued | ⟨_, none, -⟩ := mem_underWay.mp member
        · exact .inl redirected
        · exact .inr (.inl queued)
        · cases none
      workerId := fun popped rest waiting => by cases waiting
      relyingId := fun popped waiting => by cases waiting }
  | cons statement todo =>
    have unfinished : exchange.worker.unfinished = some request := by rw [running]; rfl
    have underWay : request.envelope ∈ exchange.underWay := mem_underWay.mpr (.inr (.inr ⟨request, unfinished, rfl⟩))
    cases statement with
    | setRequestId =>
      cases taken
      -- a subscriber that has set the id set this one, by `kept`, and the worker relies on it only from here on
      have assigned : ({ exchange with channel := { exchange.channel with requestId := request.job.requestId } }
          : Exchange).Orderly :=
        { orderly with
          subscriberId := by
            intro envelope identified
            have identified : exchange.subscriber.identified = some envelope := identified
            simp only [undisturbed, running, identified, Option.all_some, beq_iff_eq] at kept
            exact own.trans kept.symm
          relyingId := by
            intro popped relying
            have relying : exchange.worker.relying = some popped := relying
            rw [running] at relying
            cases relying }
      exact assigned.goOn unfinished own own
    | infer =>
      cases taken
      exact orderly.goOn unfinished own (orderly.relyingId request (by rw [running]; rfl))
    | send object data errorMsg =>
      obtain ⟨sent, sends, rfl⟩ := Option.map_eq_some_iff.mp taken
      have relying := orderly.relyingId request (by rw [running]; rfl)
      obtain ⟨sentOrderly, reply, rfl⟩ := orderly.send underWay relying sends
      exact sentOrderly.goOn unfinished own relying

theorem Orderly.step {label : Step} {after : Exchange} (kept : exchange.undisturbed label = true)
    (taken : exchange.step label = some after) : after.Orderly := by
  cases label with
  | receive envelope =>
    simp only [Exchange.step] at taken
    split at taken
    · next idle =>
      cases taken
      exact orderly.receive idle envelope
    · cases taken
  | subscribe => exact orderly.subscribe kept taken
  | pop =>
    simp only [Exchange.step] at taken
    split at taken
    · next request queue _ popped =>
      cases taken
      obtain ⟨jobs, queued, rfl⟩ : ∃ jobs, exchange.queue.jobs = request :: jobs ∧
        queue = { exchange.queue with jobs } := by
        unfold NodeJobQueue.waitPop at popped
        split at popped
        · next jobs queued =>
          cases popped
          exact ⟨jobs, queued, rfl⟩
        · split at popped <;> cases popped
      exact orderly.pop queued
    · cases taken
  | work run =>
    simp only [Exchange.step] at taken
    split at taken
    · next running => exact orderly.work running kept taken
    · cases taken

end

/-- In a run that nothing disturbs, every reply goes out under its own request and to its own session. -/
theorem reaches_correlated {kind : Kind} {maxQueueSize : Nat} {setup : Threads.Setup} {exchange : Exchange}
    (run : Reaches step (fun exchange label => exchange.undisturbed label = true) (opened kind maxQueueSize setup)
      exchange) : ∀ reply ∈ exchange.replies, reply.Correlated := by
  have orderly : exchange.Orderly := by
    apply run.invariant Orderly (opened_orderly kind maxQueueSize setup)
    intro state label after inv kept taken
    exact inv.step kept taken
  exact orderly.correlated

/-- A message of session 8000 or 8001 for `asr.0`. -/
def messageOf (session requestId : String) : Bytes :=
  ascii "\x7b\"zmq_com\":\"ipc:///tmp/llm/" ++ ascii session ++ ascii ".sock\",\"request_id\":\"" ++ ascii requestId ++
    ascii "\",\"work_id\":\"asr.0\",\"action\":\"inference\"\x7d"

def envelopeA : Envelope := ⟨messageOf "8000" "7", by decide +kernel, by decide +kernel⟩
def envelopeB : Envelope := ⟨messageOf "8001" "9", by decide +kernel, by decide +kernel⟩

/-- The statements of the subscriber thread for one message that finds room in the queue. -/
def submit (envelope : Envelope) : List Step := .receive envelope :: List.replicate 5 .subscribe

/-- The statements of the worker thread for one job of asr. -/
def handle : List Step := .pop :: List.replicate 4 (.work Threads.emptyRun)

theorem reaches_correlated_asr : ∃ (exchange : Exchange) (replies : List Reply), replies.length = 2 ∧
    exchange.replies = replies ∧ ∀ reply ∈ replies, reply.Correlated := by
  have ran : (followAllowed step undisturbed (opened .asr 256 Threads.firstSetup)
      (submit envelopeA ++ handle ++ submit envelopeB ++ handle)).map (fun exchange => exchange.replies.length) =
        some 2 := by
    decide +kernel
  obtain ⟨exchange, taken, two⟩ := Option.map_eq_some_iff.mp ran
  exact ⟨exchange, exchange.replies, two, rfl, reaches_correlated (Reaches.of_followAllowed taken)⟩

/-- The second message comes before the first is answered. -/
theorem reply_misdirected : ∃ (exchange : Exchange) (reply : Reply),
    Reaches step (fun _ _ => True) (opened .asr 256 Threads.firstSetup) exchange ∧ reply ∈ exchange.replies ∧
      ¬ reply.Correlated := by
  have ran : (follow step (opened .asr 256 Threads.firstSetup) (submit envelopeA ++ submit envelopeB ++ handle)).map
      (fun exchange => exchange.replies.map fun reply =>
        (reply.envelope.zmqCom, reply.parts.map fun part => part.1)) =
        some [(ascii "ipc:///tmp/llm/8000.sock",
          [⟨.pub, Threads.firstSetup.publisherUrl⟩, ⟨.push, ascii "ipc:///tmp/llm/8001.sock"⟩])] := by
    decide +kernel
  obtain ⟨exchange, taken, sent⟩ := Option.map_eq_some_iff.mp ran
  obtain ⟨reply, replies, shape, first, -⟩ := List.map_eq_cons_iff.mp sent
  obtain ⟨zmqCom, sockets⟩ := Prod.mk.inj first
  refine ⟨exchange, reply, .of_follow taken, by rw [shape]; exact List.mem_cons_self, fun correlated => ?_⟩
  have pushed : (⟨.push, ascii "ipc:///tmp/llm/8001.sock"⟩ : Socket) ∈ reply.parts.map fun part => part.1 := by
    rw [sockets]
    exact List.mem_cons_of_mem _ List.mem_cons_self
  obtain ⟨part, inParts, isPush⟩ := List.mem_map.mp pushed
  have sameUrl := correlated.nowhereElse part inParts (by rw [isPush])
  rw [isPush, zmqCom] at sameUrl
  exact absurd sameUrl (by decide)

end Exchange

end EdgeFlow.Node
