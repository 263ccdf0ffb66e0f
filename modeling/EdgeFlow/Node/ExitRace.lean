import EdgeFlow.Node.Threads

/-! An exit while the worker is at work: whose publisher is there when `send` runs.

`stop_subscriber("")` takes every socket of a channel, the publisher with them, and
nothing keeps it from doing so under the hands of the worker. What has to be kept apart
is the clearing of a channel and the worker that holds it.
-/

set_option autoImplicit false

namespace EdgeFlow.Node
open Library

/-! ## What leaves the sockets alone -/

/-- The publisher and the subscription of a channel are what they were. -/
structure SameEnds (before after : Channel) : Prop where
  publisher : after.zmq (-1) = before.zmq (-1)
  subscription : after.zmq 0 = before.zmq 0

namespace Channel

theorem setPushUrl_sameEnds (url : Bytes) (channel : Channel) : SameEnds channel (channel.setPushUrl url) := by
  unfold setPushUrl
  split
  · exact ⟨by simp, by simp⟩
  · exact ⟨rfl, rfl⟩

theorem subscriberEventCall_sameEnds (raw : Bytes) (channel : Channel) :
    SameEnds channel (channel.subscriberEventCall raw).2 := by
  unfold subscriberEventCall
  split
  · have adopted : SameEnds channel (channel.adoptPushUrl raw) := by
      unfold adoptPushUrl
      simp only
      split
      · exact setPushUrl_sameEnds _ channel
      · exact ⟨rfl, rfl⟩
    exact ⟨adopted.publisher, adopted.subscription⟩
  · exact ⟨rfl, rfl⟩

end Channel

/-- The number an exit is under way for. -/
def Exiting.number : Exiting → Option Int
  | .no => none
  | .erased number _ | .stopped number _ _ | .returned number => some number

/-- The worker holds the session, and is not done with it. -/
def Worker.uses : Worker → Nat → Bool
  | .running job todo, session => job.session == session && !todo.isEmpty
  | _, _ => false

namespace Threads

/-! ## The invariant -/

/-- The publisher of a session is there. -/
def Published (threads : Threads) (session : Nat) : Prop :=
  ∃ made, threads.sessions[session]? = some made ∧ (made.channel.zmq (-1)).isSome = true

/-- Whoever can lock a channel finds its publisher. -/
structure Sound (threads : Threads) : Prop where
  channelNumber : ∀ {number session}, threads.llmTaskChannel number = some session →
    ∃ made, threads.sessions[session]? = some made ∧ made.number = number
  taskNumber : ∀ {number session}, (number, session) ∈ threads.tasks →
    ∃ made, threads.sessions[session]? = some made ∧ made.number = number
  erased : ∀ {number}, threads.exiting.number = some number → ∀ session, (number, session) ∉ threads.tasks
  listed : ∀ {number session}, (number, session) ∈ threads.tasks → threads.Published session
  erasedTask : ∀ {number task}, threads.exiting = .erased number task → threads.Published task
  used : ∀ {session}, threads.worker.uses session = true → threads.Published session
  subscribed : ∀ {session : Nat} {made : Session}, threads.sessions[session]? = some made →
    (made.channel.zmq 0).isSome = true →
    (made.channel.zmq (-1)).isSome = true

theorem started_sound (kind : Kind) (maxSessions maxQueueSize : Nat) :
    Sound (started kind maxSessions maxQueueSize) where
  channelNumber found := by cases found
  taskNumber member := by cases member
  erased erasing := by cases erasing
  listed member := by cases member
  erasedTask erasing := by cases erasing
  used uses := by cases uses
  subscribed found := by cases found

/-! ## Changes to one channel -/

section
variable {threads : Threads} {session : Nat} {change : Channel → Channel}

theorem modifyChannel_sessions (other : Nat) :
    (threads.modifyChannel session change).sessions[other]? =
      (threads.sessions[other]?).map fun made =>
        if session = other then { made with channel := change made.channel } else made := by
  simp only [modifyChannel, List.getElem?_modify]
  rfl

theorem modifyChannel_found {other : Nat} {made : Session} (found : threads.sessions[other]? = some made) :
    ∃ after, (threads.modifyChannel session change).sessions[other]? = some after ∧ after.number = made.number := by
  rw [modifyChannel_sessions, found]
  refine ⟨_, rfl, ?_⟩
  split <;> rfl

theorem Published.modifyChannel {other : Nat} (there : threads.Published other)
    (keeps : session = other → ∀ made, threads.sessions[other]? = some made →
      (change made.channel).zmq (-1) = made.channel.zmq (-1)) :
    (threads.modifyChannel session change).Published other := by
  obtain ⟨made, found, publisher⟩ := there
  refine ⟨_, by rw [modifyChannel_sessions, found]; rfl, ?_⟩
  split
  · next same => rw [keeps same made found]; exact publisher
  · exact publisher

/-- A change that leaves both ends of the channel alone. -/
theorem Sound.modifyChannel (sound : threads.Sound)
    (keeps : ∀ made, threads.sessions[session]? = some made → SameEnds made.channel (change made.channel)) :
    (threads.modifyChannel session change).Sound := by
  have published {other : Nat} (there : threads.Published other) :
      (threads.modifyChannel session change).Published other :=
    there.modifyChannel fun same made found => (keeps made (same ▸ found)).publisher
  have located {other : Nat} {number : Int} (there : ∃ made, threads.sessions[other]? = some made ∧
      made.number = number) :
      ∃ made, (threads.modifyChannel session change).sessions[other]? = some made ∧ made.number = number := by
    obtain ⟨made, found, rfl⟩ := there
    exact modifyChannel_found found
  exact {
    channelNumber := fun found => located (sound.channelNumber found)
    taskNumber := fun member => located (sound.taskNumber member)
    erased := sound.erased
    listed := fun member => published (sound.listed member)
    erasedTask := fun erasing => published (sound.erasedTask erasing)
    used := fun uses => published (sound.used uses)
    subscribed := by
      intro other after foundAfter subscription
      rw [modifyChannel_sessions] at foundAfter
      obtain ⟨made, found, rfl⟩ := Option.map_eq_some_iff.mp foundAfter
      by_cases same : session = other
      · have ends := keeps made (same ▸ found)
        simp only [if_pos same, ends.subscription] at subscription
        simp only [if_pos same, ends.publisher]
        exact sound.subscribed found subscription
      · simp only [if_neg same] at subscription ⊢
        exact sound.subscribed found subscription }

end

/-! ## The condition -/

/-- A channel is not cleared while the worker uses it, and the worker does not take up a
job that only the locals of an exit past that point keep alive. -/
def apart (threads : Threads) : Event → Bool
  | .stop =>
    match threads.exiting with
    | .erased number _ => (threads.llmTaskChannel number).all fun channel => !threads.worker.uses channel
    | _ => true
  | .lock =>
    match threads.worker, threads.exiting with
    | .popped job, .stopped _ _ _ => !threads.exiting.holdsTask threads.kind job.session
    | _, _ => true
  | _ => true

/-! ## Step by step -/

section
variable {threads : Threads} (sound : threads.Sound)

include sound

/-- A task that locks for a worker without one has a publisher, unless an exit is past its `stop_subscriber`. -/
theorem Sound.locked {session : Nat} (locks : threads.locksTask session = true)
    (free : threads.worker.holds session = false)
    (notStopped : ∀ number task channel, threads.exiting = .stopped number task channel →
      threads.exiting.holdsTask threads.kind session = false) : threads.Published session := by
  simp only [locksTask, Bool.or_eq_true, List.any_eq_true, beq_iff_eq] at locks
  obtain (⟨⟨number, _⟩, member, rfl⟩ | ownLock) | holds := locks
  · exact sound.listed member
  · cases exiting : threads.exiting with
    | erased number task =>
      simp only [exiting, Exiting.holdsTask, Bool.and_eq_true, beq_iff_eq] at ownLock
      exact ownLock.2 ▸ sound.erasedTask exiting
    | stopped number task channel => simp [notStopped _ _ _ exiting] at ownLock
    | no | returned => simp [exiting, Exiting.holdsTask] at ownLock
  · cases free.symm.trans holds

/-- The entry of a number is dropped. -/
theorem Sound.dropChannel (number : Int) :
    ({ threads with llmTaskChannel := Function.update threads.llmTaskChannel number none } : Threads).Sound :=
  { sound with
    channelNumber := by
      intro other session found
      have found : Function.update threads.llmTaskChannel number none other = some session := found
      rw [Function.update_apply] at found
      split at found
      · cases found
      · exact sound.channelNumber found }

theorem Sound.setup (setup : Setup) (idle : threads.exiting = .no) : (threads.setup setup).Sound := by
  unfold Threads.setup
  split
  · exact sound.dropChannel setup.number
  · let made := setup.session threads.kind
    -- the sessions keep their places, and the new one comes behind them
    have old {session : Nat} {other : Session} (found : threads.sessions[session]? = some other) :
        (threads.sessions ++ [made])[session]? = some other := by
      rw [List.getElem?_append_left (List.getElem?_eq_some_iff.mp found).1, found]
    have new : (threads.sessions ++ [made])[threads.sessions.length]? = some made := List.getElem?_concat_length
    have publisher : (made.channel.zmq (-1)).isSome = true := by
      simp [made, Setup.session, Channel.setPushUrl_publisher, Channel.create]
    exact {
      channelNumber := by
        intro number session found
        have found : Function.update threads.llmTaskChannel setup.number (some threads.sessions.length) number =
            some session := found
        rw [Function.update_apply] at found
        split at found
        · next same =>
          cases found
          exact ⟨made, new, same.symm⟩
        · obtain ⟨other, there, named⟩ := sound.channelNumber found
          exact ⟨other, old there, named⟩
      taskNumber := by
        intro number session member
        obtain same | kept := List.mem_cons.mp member
        · cases same
          exact ⟨made, new, rfl⟩
        · obtain ⟨other, there, named⟩ := sound.taskNumber (List.mem_of_mem_filter kept)
          exact ⟨other, old there, named⟩
      erased := by
        intro number erasing
        have erasing : threads.exiting.number = some number := erasing
        rw [idle] at erasing
        cases erasing
      listed := by
        intro number session member
        obtain same | kept := List.mem_cons.mp member
        · cases same
          exact ⟨made, new, publisher⟩
        · obtain ⟨other, there, published⟩ := sound.listed (List.mem_of_mem_filter kept)
          exact ⟨other, old there, published⟩
      erasedTask := by
        intro number task erasing
        have erasing : threads.exiting = .erased number task := erasing
        rw [idle] at erasing
        cases erasing
      used := by
        intro session uses
        obtain ⟨other, there, published⟩ := sound.used uses
        exact ⟨other, old there, published⟩
      subscribed := by
        intro session other found subscription
        by_cases inside : session < threads.sessions.length
        · have found : (threads.sessions ++ [made])[session]? = some other := found
          rw [List.getElem?_append_left inside] at found
          exact sound.subscribed found subscription
        · have found : (threads.sessions ++ [made])[session]? = some other := found
          rw [List.getElem?_append_right (Nat.le_of_not_lt inside)] at found
          have := List.mem_singleton.mp (List.mem_of_getElem? found)
          exact this ▸ publisher }

theorem Sound.redirect (number : Int) (zmqUrl : Bytes) : (threads.redirect number zmqUrl).Sound := by
  unfold Threads.redirect
  split
  · exact sound.modifyChannel fun made _ => made.channel.setPushUrl_sameEnds zmqUrl
  · exact sound

theorem Sound.exit {number : Int} {after : Threads}
    (done : threads.exit number = some after) : after.Sound := by
  unfold Threads.exit at done
  split at done
  · next task found =>
    cases done
    have member : (number, task) ∈ threads.tasks := by
      obtain ⟨before, rest, shape, -⟩ := List.lookup_eq_some_iff.mp found
      exact shape ▸ List.mem_append_right before List.mem_cons_self
    exact { sound with
      taskNumber := fun kept => sound.taskNumber (List.mem_of_mem_filter kept)
      erased := by
        intro other erasing session kept
        cases erasing
        simp at kept
      listed := fun kept => sound.listed (List.mem_of_mem_filter kept)
      erasedTask := by
        intro other task erasing
        cases erasing
        exact sound.listed member }
  · split at done
    · cases done
    · cases done
      exact sound

/-- The channel that is cleared is nobody's any more. -/
theorem Sound.stop {number : Int} {task : Nat} {after : Threads} (exiting : threads.exiting = .erased number task)
    (unused : ∀ channel, threads.llmTaskChannel number = some channel → threads.worker.uses channel = false)
    (done : threads.stop number task = some after) : after.Sound := by
  obtain ⟨channel, found, rfl⟩ := Option.map_eq_some_iff.mp done
  obtain ⟨cleared, there, named⟩ := sound.channelNumber found
  have erasing : threads.exiting.number = some number := by rw [exiting]; rfl
  have published {other : Nat} (different : channel ≠ other) (before : threads.Published other) :
      (threads.modifyChannel channel (Channel.stopSubscriber [])).Published other :=
    before.modifyChannel fun same => absurd same different
  exact {
    channelNumber := by
      intro other session foundOther
      obtain ⟨made, foundMade, rfl⟩ := sound.channelNumber foundOther
      exact modifyChannel_found foundMade
    taskNumber := by
      intro other session member
      obtain ⟨made, foundMade, rfl⟩ := sound.taskNumber member
      exact modifyChannel_found foundMade
    erased := by
      intro other stopped
      cases stopped
      exact sound.erased erasing
    listed := by
      intro other session member
      have different : channel ≠ session := by
        -- a task of this channel would go by its number, and that one has just been erased
        rintro rfl
        obtain ⟨made, foundMade, same⟩ := sound.taskNumber member
        cases there.symm.trans foundMade
        exact sound.erased erasing channel (named ▸ same ▸ member)
      exact published different (sound.listed member)
    erasedTask := by
      intro other task stopped
      cases stopped
    used := by
      intro session uses
      have uses : threads.worker.uses session = true := uses
      have different : channel ≠ session := by
        rintro rfl
        rw [unused channel found] at uses
        cases uses
      exact published different (sound.used uses)
    subscribed := by
      intro session after foundAfter subscription
      have foundAfter : (threads.modifyChannel channel (Channel.stopSubscriber [])).sessions[session]? = some after :=
        foundAfter
      rw [modifyChannel_sessions] at foundAfter
      obtain ⟨made, foundMade, rfl⟩ := Option.map_eq_some_iff.mp foundAfter
      by_cases same : channel = session
      · simp [if_pos same, Channel.stopSubscriber] at subscription
      · simp only [if_neg same] at subscription ⊢
        exact sound.subscribed foundMade subscription }

theorem Sound.leave {number : Int} {task channel : Nat} (exiting : threads.exiting = .stopped number task channel) :
    ({ threads with exiting := .returned number } : Threads).Sound :=
  { sound with
    erased := by
      intro other returned
      cases returned
      exact sound.erased (by rw [exiting]; rfl)
    erasedTask := by
      intro other task returned
      cases returned }

theorem Sound.release (number : Int) : (threads.release number).Sound :=
  { sound.dropChannel number with
    erased := by
      intro other idle
      cases idle
    erasedTask := by
      intro other task idle
      cases idle }

theorem Sound.queue (queue : NodeJobQueue (Job Nat)) : ({ threads with queue } : Threads).Sound :=
  { sound with }

/-- The worker may go on to a job whose channel has a publisher, or let go of the one it has. -/
theorem Sound.worker {worker : Worker} (used : ∀ session, worker.uses session = true → threads.Published session) :
    ({ threads with worker } : Threads).Sound :=
  { sound with used := used _ }

omit sound in
theorem send_same {session : Nat} {workId object errorMsg : Bytes} {data : ResultData} {after : Threads}
    (done : threads.send session workId object data errorMsg = some after) : after = threads := by
  unfold Threads.send at done
  split at done
  · split at done
    · exact (Option.some.inj done).symm
    · cases done
  · cases done

theorem Sound.inference {session : Nat} {raw : Bytes} {after : Threads}
    (done : threads.inference session raw = some after) : after.Sound := by
  unfold Threads.inference at done
  split at done
  · next made found =>
    split at done
    · have received : (threads.modifyChannel session fun _ => (made.channel.subscriberEventCall raw).2).Sound :=
        sound.modifyChannel fun other there => by
          cases found.symm.trans there
          exact made.channel.subscriberEventCall_sameEnds raw
      simp only at done
      split at done
      · split at done
        · cases done
          exact received.queue _
        · rw [send_same done]
          exact received
      · cases done
        exact received
    · cases done
  · cases done

theorem Sound.pop {after : Threads} (done : threads.pop = some after) : after.Sound := by
  unfold Threads.pop at done
  split at done
  · next job queue popped =>
    cases done
    have idle : ∀ session, (Worker.popped job).uses session = true → threads.Published session :=
      fun session uses => by cases uses
    exact (sound.queue queue).worker idle
  · cases done

theorem Sound.lock {job : Job Nat} (popped : threads.worker = .popped job) (kept : threads.apart .lock = true) :
    (threads.lock job).Sound := by
  unfold Threads.lock
  split
  · next locks =>
    refine sound.worker fun session uses => ?_
    have same : job.session = session := by simpa [Worker.uses, loopBody] using uses
    subst same
    refine sound.locked locks.1 (by rw [popped]; rfl) fun number task channel stopped => ?_
    simpa [apart, popped, stopped] using kept
  · exact sound.worker fun session uses => by cases uses

theorem Sound.work {job : Job Nat} {todo : List Statement} {run : TaskRun} {after : Threads}
    (running : threads.worker = .running job todo) (done : threads.work job todo run = some after) : after.Sound := by
  cases todo with
  | nil =>
    cases done
    exact sound.worker fun session uses => by cases uses
  | cons statement todo =>
    have inUse : threads.worker.uses job.session = true := by simp [running, Worker.uses]
    have going {before : Threads} (keeps : before.Sound) (same : before.worker = threads.worker)
        (todo : List Statement) : ({ before with worker := .running job todo } : Threads).Sound := by
      refine keeps.worker fun session uses => keeps.used ?_
      have here : job.session = session := by
        simp only [Worker.uses, Bool.and_eq_true, beq_iff_eq] at uses
        exact uses.1
      rw [same, ← here]
      exact inUse
    cases statement with
    | setRequestId =>
      cases done
      exact going (sound.modifyChannel fun _ _ => ⟨rfl, rfl⟩) rfl todo
    | infer =>
      cases done
      exact going sound rfl _
    | send object data errorMsg =>
      obtain ⟨sent, sends, rfl⟩ := Option.map_eq_some_iff.mp done
      cases send_same sends
      exact going sound rfl todo

theorem Sound.step {event : Event} {after : Threads} (kept : threads.apart event = true)
    (taken : threads.step event = some after) : after.Sound := by
  cases event with
  | setup setup =>
    simp only [Threads.step] at taken
    split at taken
    · next idle =>
      cases taken
      exact sound.setup setup idle
    · cases taken
  | redirect number zmqUrl =>
    simp only [Threads.step] at taken
    split at taken
    · cases taken
      exact sound.redirect number zmqUrl
    · cases taken
  | exit number =>
    simp only [Threads.step] at taken
    split at taken
    · exact sound.exit taken
    · cases taken
  | stop =>
    simp only [Threads.step] at taken
    split at taken
    · next number task exiting =>
      refine sound.stop exiting (fun channel found => ?_) taken
      simpa [apart, exiting, found] using kept
    · cases taken
  | leave =>
    simp only [Threads.step] at taken
    split at taken
    · next exiting =>
      cases taken
      exact sound.leave exiting
    · cases taken
  | release =>
    simp only [Threads.step] at taken
    split at taken
    · cases taken
      exact sound.release _
    · cases taken
  | inference session raw => exact sound.inference taken
  | pop =>
    simp only [Threads.step] at taken
    split at taken
    · exact sound.pop taken
    · cases taken
  | lock =>
    simp only [Threads.step] at taken
    split at taken
    · next popped =>
      cases taken
      exact sound.lock popped kept
    · cases taken
  | work run =>
    simp only [Threads.step] at taken
    split at taken
    · next running => exact sound.work running taken
    · cases taken

end

/-! ## Runs -/

/-- The session through whose channel the event calls `send`, be it that it fails there. -/
def sends (threads : Threads) : Event → Option Nat
  | .inference session raw =>
    match threads.sessions[session]? with
    | some made =>
      let (arguments, channel) := made.channel.subscriberEventCall raw
      let refused := (threads.queue.push (threads.kind.onInference session made.workId arguments.2 channel)).1 = false
      if threads.locksChannel session ∧ (made.channel.zmq 0).isSome ∧ threads.locksTask session ∧ refused then
        some session
      else none
    | none => none
  | .work _ =>
    match threads.worker with
    | .running job (.send _ _ _ :: _) => some job.session
    | _ => none
  | _ => none

/-- While exits keep apart from the worker, every `send` finds the publisher of its channel. -/
theorem reaches_publisher {kind : Kind} {maxSessions maxQueueSize : Nat} {threads : Threads}
    (run : Reaches step (fun threads event => threads.apart event = true)
      (started kind maxSessions maxQueueSize) threads)
    {event : Event} {session : Nat} (sending : threads.sends event = some session) :
    ∃ made socket, threads.sessions[session]? = some made ∧ made.channel.zmq (-1) = some socket := by
  have sound : threads.Sound := by
    apply run.invariant Sound (started_sound kind maxSessions maxQueueSize)
    intro state label after inv kept taken
    exact inv.step kept taken
  have published : threads.Published session := by
    cases event with
    | inference other raw =>
      simp only [sends] at sending
      split at sending
      · next made found =>
        split at sending
        · next enabled =>
          cases sending
          exact ⟨made, found, sound.subscribed found enabled.2.1⟩
        · cases sending
      · cases sending
    | work run =>
      simp only [sends] at sending
      split at sending
      · next running =>
        cases sending
        exact sound.used (by simp [running, Worker.uses])
      · cases sending
    | setup | redirect | exit | stop | leave | release | pop | lock => cases sending
  obtain ⟨made, found, there⟩ := published
  obtain ⟨socket, isSocket⟩ := Option.isSome_iff_exists.mp there
  exact ⟨made, socket, found, isSocket⟩

/-- An inference message of session 8000. -/
def firstMessage : Bytes :=
  ascii "\x7b\"zmq_com\":\"ipc:///tmp/llm/8000.sock\",\"request_id\":\"2\",\"work_id\":\"asr.0\",\"action\":\"inference\"\x7d"

/-- Another session, under number 1. -/
def secondSetup : Setup :=
  { firstSetup with
    number := 1
    inferenceUrl := ascii "ipc:///tmp/llm/5012.sock"
    zmqUrl := ascii "ipc:///tmp/llm/8001.sock"
    requestId := ascii "3" }

/-- The steps that bring the worker to the `send` of the first message, while the other session is ended. -/
def firstEvents : List Event :=
  [.setup firstSetup, .setup secondSetup, .inference 0 firstMessage, .pop, .lock, .work emptyRun, .exit 1, .stop,
    .work emptyRun]

/-- The session itself is ended while the engine runs. -/
def exitingEvents : List Event :=
  [.setup firstSetup, .inference 0 firstMessage, .pop, .lock, .work emptyRun, .exit 0, .stop, .work emptyRun]

theorem reaches_publisher_asr : ∃ (threads : Threads) (made : Session) (socket : Socket),
    threads.sends (.work emptyRun) = some 0 ∧ threads.sessions[0]? = some made ∧
      made.channel.zmq (-1) = some socket := by
  have ran : (followAllowed step (fun threads event => threads.apart event) (started .asr 8 256) firstEvents).map
      (fun threads => threads.sends (.work emptyRun)) = some (some 0) := by
    decide +kernel
  obtain ⟨threads, taken, sending⟩ := Option.map_eq_some_iff.mp ran
  obtain ⟨made, socket, found, there⟩ := reaches_publisher (Reaches.of_followAllowed taken) sending
  exact ⟨threads, made, socket, sending, found, there⟩

theorem exit_clears_publisher : ∃ (threads : Threads) (event : Event) (session : Nat) (made : Session),
    Reaches step (fun _ _ => True) (started .asr 8 256) threads ∧ threads.sends event = some session ∧
      threads.sessions[session]? = some made ∧ made.channel.zmq (-1) = none := by
  have ran : (follow step (started .asr 8 256) exitingEvents).map
      (fun threads => (threads.sends (.work emptyRun), (threads.sessions[0]?).map fun made => made.channel.zmq (-1))) =
        some (some 0, some none) := by
    decide +kernel
  obtain ⟨threads, taken, sent⟩ := Option.map_eq_some_iff.mp ran
  obtain ⟨sending, cleared⟩ := Prod.mk.inj sent
  obtain ⟨made, found, gone⟩ := Option.map_eq_some_iff.mp cleared
  exact ⟨threads, .work emptyRun, 0, made, .of_follow taken, sending, found, gone⟩

end Threads

end EdgeFlow.Node
