import EdgeFlow.Manager.Rpc
import EdgeFlow.Node.StackFlow

/-! What the listeners of a node do to its tables: one lemma for each function. -/

set_option autoImplicit false

namespace EdgeFlow.Node
open Library Library.Printf Library.Decimal Comm

/-- The same node but for what is in its channels and what it has sent. -/
structure SameTables (before after : StackFlow) : Prop where
  kind : after.kind = before.kind
  status : after.status = before.status
  requestId : after.requestId = before.requestId
  maxSessions : after.maxSessions = before.maxSessions
  tasks : after.tasks = before.tasks
  hasChannel : ∀ number, (after.llmTaskChannel number).isSome = (before.llmTaskChannel number).isSome

theorem SameTables.refl (node : StackFlow) : SameTables node node := ⟨rfl, rfl, rfl, rfl, rfl, fun _ => rfl⟩

theorem SameTables.trans {first second third : StackFlow} (before : SameTables first second)
    (after : SameTables second third) : SameTables first third where
  kind := after.kind.trans before.kind
  status := after.status.trans before.status
  requestId := after.requestId.trans before.requestId
  maxSessions := after.maxSessions.trans before.maxSessions
  tasks := after.tasks.trans before.tasks
  hasChannel number := (after.hasChannel number).trans (before.hasChannel number)

theorem SameTables.withTasks {before after : StackFlow} (same : SameTables before after) (tasks : Finset Int) :
    SameTables { before with tasks } { after with tasks } :=
  ⟨same.kind, same.status, same.requestId, same.maxSessions, rfl, same.hasChannel⟩

/-- Writing back to a channel that is there. -/
theorem SameTables.putChannel {node : StackFlow} {number : Int}
    (there : (node.llmTaskChannel number).isSome = true) (channel : Channel) :
    SameTables node (node.putChannel number channel) where
  kind := rfl
  status := rfl
  requestId := rfl
  maxSessions := rfl
  tasks := rfl
  hasChannel other := by
    by_cases same : other = number
    · subst same
      simp [StackFlow.putChannel, there]
    · simp [StackFlow.putChannel, Function.update_of_ne same]

theorem dropChannel_open (node : StackFlow) (number other : Int) :
    ((node.dropChannel number).llmTaskChannel other).isSome =
      (decide (other ≠ number) && (node.llmTaskChannel other).isSome) := by
  by_cases same : other = number
  · subst same
    simp [StackFlow.dropChannel]
  · simp [StackFlow.dropChannel, same]

theorem SameTables.dropChannel {before after : StackFlow} (same : SameTables before after) (number : Int) :
    SameTables (before.dropChannel number) (after.dropChannel number) where
  kind := same.kind
  status := same.status
  requestId := same.requestId
  maxSessions := same.maxSessions
  tasks := same.tasks
  hasChannel other := by rw [dropChannel_open, dropChannel_open, same.hasChannel]

theorem getChannel_isSome {node : StackFlow} {number : Int} (there : (node.llmTaskChannel number).isSome = true) :
    ∃ channel, node.getChannel number = .ok channel := by
  obtain ⟨channel, found⟩ := Option.isSome_iff_exists.mp there
  exact ⟨channel, by rw [StackFlow.getChannel, found]⟩

/-! ## Work ids -/

theorem unitName_isAscii (kind : Kind) : ∀ b ∈ kind.unitName, Utf8.IsAscii b := by
  cases kind <;> decide +kernel

theorem dot_notMem_unitName (kind : Kind) : Byte.dot ∉ kind.unitName := by
  cases kind <;> decide

theorem percent_notMem_unitName (kind : Kind) : Byte.percent ∉ kind.unitName := by
  cases kind <;> decide

theorem ofInt_isAscii (n : Int) : ∀ b ∈ ofInt n, Utf8.IsAscii b := by
  intro b member
  obtain digit | rfl := mem_ofInt member
  · simp only [Byte.isDigit, Bool.and_eq_true, decide_eq_true_eq] at digit
    have : b ≤ 57 := digit.2
    show b < 0x80
    grind
  · decide

theorem sampleGetWorkId_valid (number : Int) (kind : Kind) : Utf8.Valid (sampleGetWorkId number kind.unitName) :=
  ((Utf8.valid_ascii (unitName_isAscii kind)).append (by decide)).append (Utf8.valid_ascii (ofInt_isAscii number))

theorem workIdNum_workId (kind : Kind) {number : Int} (fits : IsInt32 number) :
    workIdNum (sampleGetWorkId number kind.unitName) = .ok number := by
  rw [workIdNum, sampleGetWorkIdNum_workId (dot_notMem_unitName kind) fits]
  rfl

theorem sampleGetWorkId_ne_nil (number : Int) (unitName : Bytes) : sampleGetWorkId number unitName ≠ [] := by
  simp [sampleGetWorkId, ascii]

/-! ## Replies -/

/-- A reply with an error text goes out; nothing but the list of replies changes. -/
theorem send_text {node : StackFlow} (requestValid : Utf8.Valid node.requestId) {workId : Bytes}
    (workValid : Utf8.Valid workId) (object : Bytes) (data : ReplyData) (errorMsg : Bytes)
    (errorValid : Utf8.Valid errorMsg) :
    ∃ after, node.send object data (.text errorMsg) workId = .ok after ∧ SameTables node after := by
  refine ⟨_, if_pos ⟨requestValid, workValid, errorValid⟩, ?_⟩
  exact ⟨rfl, rfl, rfl, rfl, rfl, fun _ => rfl⟩

/-- An error that is a `json` object never gets as far as `send`. -/
theorem send_json (node : StackFlow) (object : Bytes) (data : ReplyData) (body : ErrorBody) (workId : Bytes) :
    node.send object data (.json body) workId = .error .typeError := rfl

theorem redirect_same (zmqUrl workId : Bytes) (node : StackFlow) : SameTables node (node.redirect zmqUrl workId) := by
  unfold StackFlow.redirect
  cases read : workIdNum workId with
  | error fault => exact .refl node
  | ok number =>
    cases found : node.llmTaskChannel number with
    | none =>
      simp only [StackFlow.getChannel, found, bind, Except.bind]
      exact .refl node
    | some channel =>
      simp only [StackFlow.getChannel, found, bind, Except.bind]
      exact .putChannel (by simp [found]) _

/-! ## The overrides -/

/-- There is no room for another task, or the engine has no stream for it. -/
def Refuses (ready : Bool) (node : StackFlow) : Prop :=
  node.maxSessions ≤ node.tasks.card ∨ node.kind = .asr ∧ ready = false

instance (ready : Bool) (node : StackFlow) : Decidable (Refuses ready node) :=
  inferInstanceAs (Decidable (_ ∨ _))

section
variable {node : StackFlow} (requestValid : Utf8.Valid node.requestId)

include requestValid

/-- A set up for a channel that is there ends in a reply: the task is new, or nothing changes. -/
theorem setupTask_spec {number : Int} (fits : IsInt32 number)
    (there : (node.llmTaskChannel number).isSome = true) (ready : Bool) :
    ∃ ret after, node.setupTask ready (sampleGetWorkId number node.kind.unitName) = .ok (ret, after) ∧
      (Refuses ready node → ret = -1 ∧ SameTables node after) ∧
      (¬ Refuses ready node →
        ret = 0 ∧ SameTables { node with tasks := insert number node.tasks } after) := by
  have workValid := sampleGetWorkId_valid number node.kind
  obtain ⟨channel, found⟩ := getChannel_isSome there
  by_cases full : node.maxSessions ≤ node.tasks.card
  · obtain ⟨after, sent, same⟩ := send_text requestValid workValid (ascii "None") .none
      sessionFull (by decide)
    refine ⟨-1, after, ?_, fun _ => ⟨rfl, same⟩, fun notRefused => absurd (.inl full) notRefused⟩
    simp only [StackFlow.setupTask, if_pos full, sent, bind, Except.bind]
  · by_cases unready : node.kind = .asr ∧ ready = false
    · obtain ⟨after, sent, same⟩ := send_text requestValid workValid (ascii "None") .none
        createStreamFailed (by decide)
      refine ⟨-1, after, ?_, fun _ => ⟨rfl, same⟩, fun notRefused => absurd (.inr unready) notRefused⟩
      simp only [StackFlow.setupTask, if_neg full, workIdNum_workId _ fits, found, if_pos unready, sent, bind,
        Except.bind]
    · let subscribed : Channel :=
        { channel with
          enoutput := true
          enstream := node.kind != Kind.tts
          zmq := Function.update channel.zmq 0 (some ⟨.sub, channel.inferenceUrl⟩) }
      let accepted : StackFlow :=
        { node.putChannel number subscribed with tasks := insert number node.tasks }
      have acceptedValid : Utf8.Valid accepted.requestId := requestValid
      obtain ⟨after, sent, same⟩ := send_text acceptedValid workValid (ascii "None") .none noError (by decide)
      have notRefused : ¬ Refuses ready node := not_or.mpr ⟨full, unready⟩
      refine ⟨0, after, ?_, fun refused => absurd refused notRefused, fun _ => ⟨rfl, ?_⟩⟩
      · simp only [StackFlow.setupTask, if_neg full, workIdNum_workId _ fits, found, if_neg unready,
          Channel.subscriberWorkId_own, bind, Except.bind]
        refine (if_neg (by decide)).trans ((if_neg full).trans ?_)
        simp only [accepted, subscribed, StackFlow.putChannel] at sent
        simp only [StackFlow.putChannel, sent]
      · exact ((SameTables.putChannel there subscribed).withTasks _).trans same

/-- An exit of a task that is not there is refused; rkllm fails to say so. -/
theorem exitTask_absent {workId : Bytes} (workValid : Utf8.Valid workId) {number : Int}
    (read : workIdNum workId = .ok number) (absent : number ∉ node.tasks) :
    if node.kind = .rkllm then node.exitTask workId = .error .typeError
    else ∃ after, node.exitTask workId = .ok (-1, after) ∧ SameTables node after := by
  split
  · next isRkllm =>
    simp only [StackFlow.exitTask, read, if_pos absent, unitDoesNotExist, isRkllm, send_json, bind, Except.bind]
  · next notRkllm =>
    have error : unitDoesNotExist node.kind =
        .text (ascii "\x7b\"code\":-6,\"message\":\"Unit Does Not Exist\"\x7d") := by
      cases kind : node.kind with
      | rkllm => exact absurd kind notRkllm
      | asr | tts => rfl
    obtain ⟨after, sent, same⟩ := send_text requestValid workValid (ascii "None") .none
      (ascii "\x7b\"code\":-6,\"message\":\"Unit Does Not Exist\"\x7d") (by decide)
    refine ⟨after, ?_, same⟩
    simp only [StackFlow.exitTask, read, if_pos absent, error, sent, bind, Except.bind]

/-- An exit of a task with a channel ends it. -/
theorem exitTask_present {workId : Bytes} (workValid : Utf8.Valid workId) {number : Int}
    (read : workIdNum workId = .ok number) (present : number ∈ node.tasks)
    (there : (node.llmTaskChannel number).isSome = true) :
    ∃ after, node.exitTask workId = .ok (0, after) ∧
      SameTables { node with tasks := node.tasks.erase number } after := by
  obtain ⟨channel, found⟩ := Option.isSome_iff_exists.mp there
  let erased : StackFlow := { node with tasks := node.tasks.erase number }
  let stopped : StackFlow := erased.putChannel number (channel.stopSubscriber [])
  have stoppedValid : Utf8.Valid stopped.requestId := requestValid
  obtain ⟨after, sent, same⟩ := send_text stoppedValid workValid (ascii "None") .none noError (by decide)
  have thereErased : (erased.llmTaskChannel number).isSome = true := there
  refine ⟨after, ?_, .trans (.putChannel thereErased _) same⟩
  simp only [stopped, erased, StackFlow.putChannel] at sent
  simp only [StackFlow.exitTask, read, if_neg (not_not.mpr present), StackFlow.getChannel, found,
    StackFlow.putChannel, sent, bind, Except.bind]

omit requestValid in
theorem exitTask_lost {workId : Bytes} {number : Int} (read : workIdNum workId = .ok number)
    (present : number ∈ node.tasks) (lost : node.llmTaskChannel number = none) :
    node.exitTask workId = .error .outOfRange := by
  simp only [StackFlow.exitTask, read, if_neg (not_not.mpr present), StackFlow.getChannel, lost, bind, Except.bind]

theorem taskinfoTask_same {workId : Bytes} (workValid : Utf8.Valid workId) :
    ∃ after, node.taskinfoTask workId = .ok after ∧ SameTables node after := by
  unfold StackFlow.taskinfoTask
  split <;> exact send_text requestValid workValid _ _ _ (by decide)

end

/-! ## The RPCs -/

section
variable {World : Type} {sys : Sys World}

/-- A release under a work id drops the channel of the number in it. -/
theorem sysReleaseUnit_workId {workId : Bytes} (nonempty : workId ≠ []) {number : Int}
    (read : workIdNum workId = .ok number) (given : Int) (node : StackFlow) (world : World) :
    sysReleaseUnit sys given workId node world =
      .ok (node.dropChannel number, (sys.releaseUnit workId world).2) := by
  simp only [sysReleaseUnit, if_neg nonempty, read, Except.map, bind, Except.bind]

/-- Without a work id the number that was given is made into one. -/
theorem sysReleaseUnit_empty (given : Int) (node : StackFlow) (world : World) :
    sysReleaseUnit sys given [] node world =
      .ok (node.dropChannel given, (sys.releaseUnit (sampleGetWorkId given node.kind.unitName) world).2) := rfl

/-- The callback takes the reply of a registration apart again. -/
theorem readUnit_reply {number : Int} (fits : IsInt32 number) {outputUrl : Bytes}
    (short : outputUrl.length ≤ maxParam) (inferenceUrl : Bytes) :
    readUnit (setParam (ofInt number) (setParam outputUrl inferenceUrl)) =
      .ok (ofInt number, outputUrl, inferenceUrl) := by
  have shortNumber : (ofInt number).length ≤ maxParam :=
    (ofInt_length_le fits.1 fits.2).trans (show 11 ≤ 127 by decide)
  have urls : 0 < (setParam outputUrl inferenceUrl).length := Nat.succ_pos _
  simp only [readUnit, getParam, List.length_nil, Nat.lt_irrefl, if_false, if_pos urls,
    readParam_zero shortNumber, readParam_one shortNumber, readParam_zero short, readParam_one short, bind,
    Except.bind]

/-- What came of a `register_unit` is taken apart into a number and two URLs. -/
def Outcome.Registers (outcome : Outcome) (number : Int) (outputUrl inferenceUrl : Bytes) : Prop :=
  ∃ strPort, outcome.unit = .ok (strPort, outputUrl, inferenceUrl) ∧ stoi strPort = .ok number

theorem Outcome.registers_reply {number : Int} (fits : IsInt32 number) {outputUrl : Bytes}
    (short : outputUrl.length ≤ maxParam) (inferenceUrl : Bytes) :
    (Outcome.answered (setParam (ofInt number) (setParam outputUrl inferenceUrl))).Registers
      number outputUrl inferenceUrl :=
  ⟨ofInt number, readUnit_reply fits short inferenceUrl, stoi_ofInt fits⟩

/-- A reply that is no frame registers nothing. -/
example (number : Int) (outputUrl inferenceUrl : Bytes) :
    ¬ (Outcome.answered (ascii "NotAction")).Registers number outputUrl inferenceUrl := by
  rintro ⟨strPort, unit, -⟩
  cases unit

theorem sysRegisterUnit_registers {outcome : Outcome} {number : Int} {outputUrl inferenceUrl : Bytes}
    (registers : outcome.Registers number outputUrl inferenceUrl) (flags : Bool × Bool) (node : StackFlow) :
    sysRegisterUnit flags outcome node =
      .ok (number, node.putChannel number (.create flags outputUrl inferenceUrl node.kind.unitName)) := by
  obtain ⟨strPort, unit, read⟩ := registers
  simp only [sysRegisterUnit, unit, Except.mapError, read, bind, Except.bind]

/-- Where there is no number to read, that throws. -/
theorem sysRegisterUnit_throws {outcome : Outcome}
    (registers : ∀ number outputUrl inferenceUrl, ¬ outcome.Registers number outputUrl inferenceUrl)
    (flags : Bool × Bool) (node : StackFlow) : ∃ fault, sysRegisterUnit flags outcome node = .error fault := by
  cases unit : outcome.unit with
  | error fault => exact ⟨.frame fault, by simp only [sysRegisterUnit, unit, Except.mapError, bind, Except.bind]⟩
  | ok parts =>
    obtain ⟨strPort, outputUrl, inferenceUrl⟩ := parts
    cases read : stoi strPort with
    | error error =>
      exact ⟨.stoi error, by simp only [sysRegisterUnit, unit, Except.mapError, read, bind, Except.bind]⟩
    | ok number => exact absurd ⟨strPort, unit, read⟩ (registers number outputUrl inferenceUrl)

/-! ## Set up and exit -/

variable {node : StackFlow}

/-- A registration with a number leads to a reply: with a new task, or with the unit given back. -/
theorem setup_registers {world registered : World} {outcome : Outcome} {number : Int} {outputUrl inferenceUrl : Bytes}
    (answer : sys.registerUnit node.kind.unitName world = (outcome, registered))
    (registers : outcome.Registers number outputUrl inferenceUrl)
    (requestValid : Utf8.Valid node.requestId) (chance : Chance) (zmqUrl raw : Bytes) :
    ∃ channel after world', node.setup sys chance zmqUrl raw world = .ok (after, world') ∧
      (Refuses chance.ready node → SameTables ((node.putChannel number channel).dropChannel number) after ∧
        world' = (sys.releaseUnit (sampleGetWorkId number node.kind.unitName) registered).2) ∧
      (¬ Refuses chance.ready node → world' = registered ∧
        SameTables { node.putChannel number channel with tasks := insert number node.tasks } after) := by
  have fits : IsInt32 number := by
    obtain ⟨_, -, read⟩ := registers
    exact stoi_isInt32 read
  let workId := sampleGetWorkId number node.kind.unitName
  let created := Channel.create chance.flags outputUrl inferenceUrl node.kind.unitName
  let channel : Channel :=
    { created.setPushUrl zmqUrl with requestId := sampleJsonStrGet raw (ascii "request_id"), workId }
  let opened := (node.putChannel number created).putChannel number channel
  have there : (opened.llmTaskChannel number).isSome = true := by simp [opened, StackFlow.putChannel]
  have openedValid : Utf8.Valid opened.requestId := requestValid
  obtain ⟨ret, after, done, refused, accepted⟩ := setupTask_spec openedValid fits there chance.ready
  have same : opened = node.putChannel number channel := by
    simp only [opened, StackFlow.putChannel, Function.update_idem]
  have found : (node.putChannel number created).getChannel number = .ok created := by
    simp [StackFlow.getChannel, StackFlow.putChannel]
  have refuses : Refuses chance.ready opened ↔ Refuses chance.ready node := Iff.rfl
  have run : node.setup sys chance zmqUrl raw world =
      if ret ≠ 0 then sysReleaseUnit sys number workId after registered else .ok (after, registered) := by
    simp only [StackFlow.setup, answer, sysRegisterUnit_registers registers, bind]
    show ((node.putChannel number created).getChannel number).bind _ = _
    rw [found]
    exact congrArg (Except.bind · fun result =>
      if result.1 ≠ 0 then sysReleaseUnit sys number workId result.2 registered else .ok (result.2, registered)) done
  by_cases refusesNode : Refuses chance.ready node
  · -- `setup` returned -1, so the unit that was just registered goes back
    obtain ⟨rfl, sameAfter⟩ := refused (refuses.mpr refusesNode)
    have kind : after.kind = node.kind := sameAfter.kind
    refine ⟨channel, after.dropChannel number, (sys.releaseUnit workId registered).2, ?_,
      fun _ => ⟨?_, rfl⟩, fun notRefused => absurd refusesNode notRefused⟩
    · rw [run, if_pos (by decide)]
      exact sysReleaseUnit_workId (sampleGetWorkId_ne_nil _ _) (workIdNum_workId _ fits) number after registered
    · rw [← same]
      exact sameAfter.dropChannel number
  · obtain ⟨rfl, sameAfter⟩ := accepted (refuses.not.mpr refusesNode)
    refine ⟨channel, after, registered, ?_, fun refused => absurd refused refusesNode, fun _ => ⟨rfl, ?_⟩⟩
    · rw [run, if_neg (by decide)]
    · rw [← same]
      exact sameAfter

/-- The same of the answer of `rpc_allocate_unit`. -/
theorem setup_answered {world registered : World} {number : Int} {outputUrl inferenceUrl : Bytes}
    (fits : IsInt32 number) (short : outputUrl.length ≤ maxParam)
    (answer : sys.registerUnit node.kind.unitName world =
      (.answered (setParam (ofInt number) (setParam outputUrl inferenceUrl)), registered))
    (requestValid : Utf8.Valid node.requestId) (chance : Chance) (zmqUrl raw : Bytes) :
    ∃ channel after world', node.setup sys chance zmqUrl raw world = .ok (after, world') ∧
      (Refuses chance.ready node → SameTables ((node.putChannel number channel).dropChannel number) after ∧
        world' = (sys.releaseUnit (sampleGetWorkId number node.kind.unitName) registered).2) ∧
      (¬ Refuses chance.ready node → world' = registered ∧
        SameTables { node.putChannel number channel with tasks := insert number node.tasks } after) :=
  setup_registers answer (Outcome.registers_reply fits short inferenceUrl) requestValid chance zmqUrl raw

theorem setup_throws {world : World}
    (registers : ∀ number outputUrl inferenceUrl,
      ¬ (sys.registerUnit node.kind.unitName world).1.Registers number outputUrl inferenceUrl)
    (chance : Chance) (zmqUrl raw : Bytes) : ∃ fault, node.setup sys chance zmqUrl raw world = .error fault := by
  obtain ⟨fault, thrown⟩ := sysRegisterUnit_throws registers chance.flags node
  exact ⟨fault, by simp only [StackFlow.setup, thrown, bind, Except.bind]⟩

/-- What an exit releases: a work id as the client spelled it, or number -1 when there is none. -/
def releasedBy (kind : Kind) (workId : Bytes) (number : Int) : Bytes × Int :=
  if workId = [] then (sampleGetWorkId (-1) kind.unitName, -1) else (workId, number)

section
variable (sys) {raw workId : Bytes} (named : sampleJsonStrGet raw (ascii "work_id") = workId) (zmqUrl : Bytes)
  (world : World)

include named

theorem exit_unreadable {fault : Fault} (unreadable : workIdNum workId = .error fault) :
    node.exit sys zmqUrl raw world = .error fault := by
  simp only [StackFlow.exit, StackFlow.exitTask, named, unreadable, bind, Except.bind]

variable {number : Int} (read : workIdNum workId = .ok number)

include read

theorem exit_lost (present : number ∈ node.tasks) (lost : node.llmTaskChannel number = none) :
    node.exit sys zmqUrl raw world = .error .outOfRange := by
  have same := redirect_same zmqUrl workId node
  have lostAfter : (node.redirect zmqUrl workId).llmTaskChannel number = none := by
    have := same.hasChannel number
    simpa [lost] using this
  have presentAfter : number ∈ (node.redirect zmqUrl workId).tasks := by rw [same.tasks]; exact present
  simp only [StackFlow.exit, named, exitTask_lost read presentAfter lostAfter, bind, Except.bind]

variable (requestValid : Utf8.Valid node.requestId) (workValid : Utf8.Valid workId)

include requestValid workValid

/-- An exit of an unknown task changes nothing, and a rkllm node does not survive it. -/
theorem exit_absent (absent : number ∉ node.tasks) :
    if node.kind = .rkllm then node.exit sys zmqUrl raw world = .error .typeError
    else ∃ after, node.exit sys zmqUrl raw world = .ok (after, world) ∧ SameTables node after := by
  have same := redirect_same zmqUrl workId node
  have requestAfter : Utf8.Valid (node.redirect zmqUrl workId).requestId := by rw [same.requestId]; exact requestValid
  have absentAfter : number ∉ (node.redirect zmqUrl workId).tasks := by rw [same.tasks]; exact absent
  have refused := exitTask_absent requestAfter workValid read absentAfter
  rw [same.kind] at refused
  split at refused
  · next isRkllm =>
    rw [if_pos isRkllm]
    simp only [StackFlow.exit, named, refused, bind, Except.bind]
  · next notRkllm =>
    rw [if_neg notRkllm]
    obtain ⟨after, done, sameAfter⟩ := refused
    refine ⟨after, ?_, same.trans sameAfter⟩
    simp only [StackFlow.exit, named, done, bind, Except.bind]
    exact if_neg (by decide)

/-- An exit of a task takes it off both tables and releases its unit. -/
theorem exit_present (present : number ∈ node.tasks) (there : (node.llmTaskChannel number).isSome = true) :
    ∃ after, node.exit sys zmqUrl raw world =
        .ok (after.dropChannel (releasedBy node.kind workId number).2,
          (sys.releaseUnit (releasedBy node.kind workId number).1 world).2) ∧
      SameTables { node with tasks := node.tasks.erase number } after := by
  have same := redirect_same zmqUrl workId node
  have requestAfter : Utf8.Valid (node.redirect zmqUrl workId).requestId := by rw [same.requestId]; exact requestValid
  have presentAfter : number ∈ (node.redirect zmqUrl workId).tasks := by rw [same.tasks]; exact present
  have thereAfter : ((node.redirect zmqUrl workId).llmTaskChannel number).isSome = true := by
    rw [same.hasChannel]; exact there
  obtain ⟨after, done, sameAfter⟩ := exitTask_present requestAfter workValid read presentAfter thereAfter
  rw [same.tasks] at sameAfter
  have sameTables := (same.withTasks (node.tasks.erase number)).trans sameAfter
  refine ⟨after, ?_, sameTables⟩
  have run : node.exit sys zmqUrl raw world = sysReleaseUnit sys (-1) workId after world := by
    simp only [StackFlow.exit, named, done, bind, Except.bind]
    exact if_pos trivial
  rw [run, releasedBy]
  split
  · next empty =>
    rw [empty, sysReleaseUnit_empty, show after.kind = node.kind from sameTables.kind]
  · next nonempty => exact sysReleaseUnit_workId nonempty read (-1) after world

end

end

end EdgeFlow.Node
