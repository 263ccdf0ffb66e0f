import EdgeFlow.Library.Except
import EdgeFlow.Node.Inference
import EdgeFlow.Node.Sessions

/-! Which input a session of a node is subscribed to: what each listener does to the
SUB socket of a channel, once it has run to its end.
-/

set_option autoImplicit false

namespace EdgeFlow.Node
open Library Library.Printf Library.Decimal Comm

/-- The socket `zmq_[0]` of a session. -/
def StackFlow.input (node : StackFlow) (number : Int) : Option Socket :=
  (node.llmTaskChannel number).bind fun channel => channel.zmq 0

/-- The same sessions on the same inputs. -/
structure SameInputs (before after : StackFlow) : Prop where
  kind : after.kind = before.kind
  status : after.status = before.status
  tasks : after.tasks = before.tasks
  input : ∀ number, after.input number = before.input number

namespace SameInputs

theorem refl (node : StackFlow) : SameInputs node node := ⟨rfl, rfl, rfl, fun _ => rfl⟩

theorem trans {first second third : StackFlow} (before : SameInputs first second) (after : SameInputs second third) :
    SameInputs first third where
  kind := after.kind.trans before.kind
  status := after.status.trans before.status
  tasks := after.tasks.trans before.tasks
  input number := (after.input number).trans (before.input number)

end SameInputs

theorem input_putChannel (node : StackFlow) (number : Int) (channel : Channel) (other : Int) :
    (node.putChannel number channel).input other = if other = number then channel.zmq 0 else node.input other := by
  unfold StackFlow.input StackFlow.putChannel
  by_cases same : other = number
  · subst same
    simp
  · simp [same]

theorem input_dropChannel (node : StackFlow) (number other : Int) :
    (node.dropChannel number).input other = if other = number then none else node.input other := by
  unfold StackFlow.input StackFlow.dropChannel
  by_cases same : other = number
  · subst same
    simp
  · simp [same]

theorem setPushUrl_input (url : Bytes) (channel : Channel) : (channel.setPushUrl url).zmq 0 = channel.zmq 0 := by
  unfold Channel.setPushUrl
  split <;> simp

variable {node after : StackFlow} {World : Type} {sys : Sys World} {world world' : World}

/-- A message through `StackFlow::send` is all that comes of it. -/
theorem send_inputs {object workId : Bytes} {data : ReplyData} {error : ErrorArg}
    (sent : node.send object data error workId = .ok after) :
    SameInputs node after ∧ after.llmTaskChannel = node.llmTaskChannel := by
  cases error with
  | json body => cases sent
  | text errorMsg =>
    simp only [StackFlow.send, ErrorArg.toString, bind, Except.bind] at sent
    split at sent
    · cases sent
      exact ⟨⟨rfl, rfl, rfl, fun _ => rfl⟩, rfl⟩
    · cases sent

theorem redirect_inputs (zmqUrl workId : Bytes) (node : StackFlow) : SameInputs node (node.redirect zmqUrl workId) := by
  unfold StackFlow.redirect
  split
  · next number channel found =>
    cases read : workIdNum workId with
    | error fault => simp [read, bind, Except.bind] at found
    | ok number' =>
      cases there : node.llmTaskChannel number' with
      | none => simp [read, StackFlow.getChannel, there, bind, Except.bind] at found
      | some channel' =>
        simp only [read, StackFlow.getChannel, there, bind, Except.bind, Except.ok.injEq, Prod.mk.injEq] at found
        obtain ⟨rfl, rfl⟩ := found
        refine ⟨rfl, rfl, rfl, fun other => ?_⟩
        rw [input_putChannel]
        split
        · next same => rw [setPushUrl_input, same, StackFlow.input, there]; rfl
        · rfl
  · exact .refl node

/-- A set up of a channel that is there subscribes it to its own input, or leaves the inputs be. -/
theorem setupTask_inputs {ready : Bool} {workId : Bytes} {number ret : Int} {channel : Channel}
    (read : workIdNum workId = .ok number) (found : node.llmTaskChannel number = some channel)
    (done : node.setupTask ready workId = .ok (ret, after)) :
    (ret = 0 ∧ after.kind = node.kind ∧ after.status = node.status ∧ after.tasks = insert number node.tasks ∧
        ∀ other, after.input other =
          if other = number then some ⟨.sub, channel.inferenceUrl⟩ else node.input other) ∨
      (ret ≠ 0 ∧ SameInputs node after) := by
  unfold StackFlow.setupTask at done
  split at done
  · -- the session is refused before it comes to its channel
    obtain ⟨refused, sent, ok⟩ := ok_of_bind done
    cases ok
    exact .inr ⟨by decide, (send_inputs sent).1⟩
  · next room =>
    obtain ⟨number', read', done⟩ := ok_of_bind done
    obtain rfl : number' = number := by cases read'.symm.trans read; rfl
    obtain ⟨channel', found', done⟩ := ok_of_bind done
    obtain rfl : channel' = channel := by
      rw [StackFlow.getChannel, found] at found'
      cases found'
      rfl
    split at done
    · obtain ⟨refused, sent, ok⟩ := ok_of_bind done
      cases ok
      exact .inr ⟨by decide, (send_inputs sent).1⟩
    · obtain ⟨⟨ret', subscribed⟩, own, done⟩ := ok_of_bind done
      rw [Channel.subscriberWorkId_own] at own
      cases own
      simp only [ne_eq, not_true_eq_false, if_false] at done
      split at done
      · next full => exact absurd full room
      · obtain ⟨accepted, sent, ok⟩ := ok_of_bind done
        cases ok
        obtain ⟨same, -⟩ := send_inputs sent
        refine .inl ⟨rfl, same.kind, same.status, same.tasks, fun other => ?_⟩
        rw [same.input other]
        have put := input_putChannel node number' { channel' with
          enoutput := true, enstream := node.kind != Kind.tts
          zmq := Function.update channel'.zmq 0 (some ⟨.sub, channel'.inferenceUrl⟩) } other
        simp only [Function.update_self] at put
        exact put

theorem subscriberEventCall_input (raw : Bytes) (channel : Channel) :
    (channel.subscriberEventCall raw).2.zmq 0 = channel.zmq 0 := by
  unfold Channel.subscriberEventCall
  dsimp only
  split
  · show (channel.adoptPushUrl raw).zmq 0 = channel.zmq 0
    unfold Channel.adoptPushUrl
    dsimp only
    split
    · exact setPushUrl_input _ channel
    · rfl
  · rfl

/-- A registered set up makes a session on the input it was given, or gives the unit back. -/
theorem setup_inputs {registered : World} {number : Int} {outputUrl inferenceUrl : Bytes} {chance : Chance}
    {zmqUrl raw : Bytes} (fits : IsInt32 number) (short : outputUrl.length ≤ maxParam)
    (answer : sys.registerUnit node.kind.unitName world =
      (.answered (setParam (ofInt number) (setParam outputUrl inferenceUrl)), registered))
    (done : node.setup sys chance zmqUrl raw world = .ok (after, world')) :
    after.kind = node.kind ∧ after.status = node.status ∧
      ((world' = registered ∧ after.tasks = insert number node.tasks ∧
          ∀ other, after.input other = if other = number then some ⟨.sub, inferenceUrl⟩ else node.input other) ∨
        (world' = (sys.releaseUnit (sampleGetWorkId number node.kind.unitName) registered).2 ∧
          after.tasks = node.tasks ∧ ∀ other, other ≠ number → after.input other = node.input other)) := by
  have read := workIdNum_workId node.kind fits
  simp only [StackFlow.setup, answer] at done
  obtain ⟨⟨number', created⟩, first, done⟩ := ok_of_bind done
  rw [sysRegisterUnit_registers (Outcome.registers_reply fits short inferenceUrl)] at first
  cases first
  obtain ⟨channel, found, done⟩ := ok_of_bind done
  obtain ⟨⟨ret, ready⟩, task, done⟩ := ok_of_bind done
  have inferenceUrl' : channel.inferenceUrl = inferenceUrl := by
    simp only [StackFlow.getChannel, StackFlow.putChannel, Function.update_self] at found
    cases found
    rfl
  -- the channel that is subscribed is the one of the registration
  have opened (other : Int) (different : other ≠ number) (channel' : Channel) :
      ((node.putChannel number (.create chance.flags outputUrl inferenceUrl node.kind.unitName)).putChannel number
        channel').input other = node.input other := by
    rw [input_putChannel, if_neg different, input_putChannel, if_neg different]
  rcases setupTask_inputs read (Function.update_self number _ _) task with
    ⟨rfl, kind, status, tasks, input⟩ | ⟨refused, same⟩
  · simp only [ne_eq, not_true_eq_false, if_false] at done
    cases done
    refine ⟨kind, status, .inl ⟨rfl, tasks, fun other => ?_⟩⟩
    rw [input other]
    split
    · rw [← inferenceUrl']
      unfold Channel.setPushUrl
      split <;> rfl
    · next different => exact opened other different _
  · simp only [ne_eq, if_pos refused] at done
    have released : sysReleaseUnit sys number (sampleGetWorkId number node.kind.unitName) ready registered =
        .ok (ready.dropChannel number, (sys.releaseUnit (sampleGetWorkId number node.kind.unitName) registered).2) :=
      sysReleaseUnit_workId (sampleGetWorkId_ne_nil _ _) read number ready registered
    cases released.symm.trans done
    refine ⟨same.kind, same.status, .inr ⟨rfl, same.tasks, fun other different => ?_⟩⟩
    rw [input_dropChannel, if_neg different, same.input other]
    exact opened other different _

/-- An exit ends one session, and what it releases is that session's, unless it names no work id. -/
theorem exit_inputs {zmqUrl raw : Bytes} (done : node.exit sys zmqUrl raw world = .ok (after, world')) :
    after.kind = node.kind ∧ after.status = node.status ∧
      ((world' = world ∧ SameInputs node after) ∨
        ∃ number, workIdNum (sampleJsonStrGet raw (ascii "work_id")) = .ok number ∧
          world' = (sys.releaseUnit (releasedBy node.kind (sampleJsonStrGet raw (ascii "work_id")) number).1 world).2 ∧
          after.tasks = node.tasks.erase number ∧
          after.input (releasedBy node.kind (sampleJsonStrGet raw (ascii "work_id")) number).2 = none ∧
          ∀ other, other ≠ number → other ≠ (releasedBy node.kind (sampleJsonStrGet raw (ascii "work_id")) number).2 →
            after.input other = node.input other) := by
  obtain ⟨⟨ret, stopped⟩, task, done⟩ := ok_of_bind done
  have redirected := redirect_inputs zmqUrl (sampleJsonStrGet raw (ascii "work_id")) node
  generalize sampleJsonStrGet raw (ascii "work_id") = workId at *
  obtain ⟨number, read, task⟩ := ok_of_bind task
  split at task
  · -- an unknown session is reported, and nothing is released
    obtain ⟨refused, sent, ok⟩ := ok_of_bind task
    cases ok
    cases done
    have same := redirected.trans (send_inputs sent).1
    exact ⟨same.kind, same.status, .inl ⟨rfl, same⟩⟩
  · obtain ⟨channel, found, task⟩ := ok_of_bind task
    obtain ⟨sent, sending, ok⟩ := ok_of_bind task
    cases ok
    simp only [if_true] at done
    obtain ⟨same, -⟩ := send_inputs sending
    have kind : stopped.kind = node.kind := same.kind.trans redirected.kind
    have status : stopped.status = node.status := same.status.trans redirected.status
    have tasks : stopped.tasks = node.tasks.erase number := by
      rw [same.tasks, ← redirected.tasks]
      rfl
    have input (other : Int) (different : other ≠ number) : stopped.input other = node.input other := by
      rw [same.input other, input_putChannel, if_neg different]
      exact redirected.input other
    -- which number is released, and so whose channel is dropped, goes by the text of the work id
    have release : sysReleaseUnit sys (-1) workId stopped world =
        .ok (stopped.dropChannel (releasedBy node.kind workId number).2,
          (sys.releaseUnit (releasedBy node.kind workId number).1 world).2) := by
      unfold releasedBy
      split
      · next empty => rw [empty, sysReleaseUnit_empty, kind]
      · next nonempty => exact sysReleaseUnit_workId nonempty read (-1) stopped world
    rw [release] at done
    cases done
    refine ⟨kind, status, .inr ⟨number, read, rfl, tasks, ?_, fun other different kept => ?_⟩⟩
    · rw [input_dropChannel, if_pos rfl]
    · rw [input_dropChannel, if_neg kept]
      exact input other different

theorem taskinfo_inputs {zmqUrl raw : Bytes} (done : node.taskinfo zmqUrl raw = .ok after) : SameInputs node after := by
  have redirected := redirect_inputs zmqUrl (sampleJsonStrGet raw (ascii "work_id")) node
  simp only [StackFlow.taskinfo, StackFlow.taskinfoTask] at done
  split at done <;> exact redirected.trans (send_inputs done).1

end EdgeFlow.Node
