import EdgeFlow.Node.RkllmEngine
import EdgeFlow.System.Payload
import Mathlib.Data.List.Forall2

/-! A streamed job of the language model on the worker thread: the texts the runtime
hands over, and the messages that are sent of them.
-/

set_option autoImplicit false

namespace EdgeFlow.Node
open Library Library.Printf

/-- The texts in a result that the engine or the session gave. -/
def TaskResult.texts : TaskResult → List Bytes
  | .asr text _ _ => [text]
  | .tts text _ _ audio => text :: audio.toList
  | .rkllm text => [text]

def ResultData.texts : ResultData → List Bytes
  | .none => []
  | .result made => made.texts
  | .chunk _ delta _ => [delta]

/-- `dump` throws on a string that is not UTF-8. -/
def ResultData.Dumps (data : ResultData) : Prop := ∀ text ∈ data.texts, Utf8.Valid text

instance (data : ResultData) : Decidable data.Dumps := inferInstanceAs (Decidable (∀ text ∈ data.texts, _))

inductive WorkerFault where
  | node (fault : Fault)
  /-- an `int` is counted past its end, which is undefined -/
  | overflow
  deriving DecidableEq, Repr

/-- The worker with a job: its channel, `index`, and the parts of each `send` so far. -/
structure StreamWorker where
  channel : Channel
  index : Nat
  sent : List (List (Socket × Message ResultData))

def intMax : Nat := 2 ^ 31 - 1

namespace StreamWorker
variable {Session : Type}

def send (object : Bytes) (data : ResultData) (errorMsg workId : Bytes) (worker : StreamWorker) :
    Except WorkerFault StreamWorker :=
  if data.Dumps then do
    let parts ← (worker.channel.send object data errorMsg workId).mapError .node
    .ok { worker with sent := worker.sent ++ [parts] }
  else .error (.node .typeError)

theorem send_dumps {object errorMsg workId : Bytes} {data : ResultData} {worker after : StreamWorker}
    (sent : worker.send object data errorMsg workId = .ok after) : data.Dumps := by
  by_contra refused
  rw [send, if_neg refused] at sent
  cases sent

/-- The callback `worker_loop` gives to `inference_stream`. -/
def callback (job : Job Session) : RkllmStreamCallback WorkerFault StreamWorker := fun text finish worker =>
  let channel := { worker.channel with requestId := job.requestId }
  -- `index++`
  if intMax ≤ worker.index then .error .overflow
  else
    send (ascii "rkllm.result.stream") (.chunk worker.index (if finish then [] else text) finish) noError job.workId
      { worker with channel, index := worker.index + 1 }

end StreamWorker

end EdgeFlow.Node

namespace EdgeFlow.System
open Library Library.Printf Node

variable {Session : Type}

def promptEmpty : Bytes := ascii "\x7b\"code\":-24,\"message\":\"prompt is empty\"\x7d"
def inferenceFailed : Bytes := ascii "\x7b\"code\":-11,\"message\":\"RKLLM inference failed\"\x7d"

/-- `inference_stream`: `none` when it succeeds, else the error it sets. -/
def inferenceStream {Thrown S : Type} (data : Bytes) (callback : RkllmStreamCallback Thrown S) (state : S)
    (runtime : RuntimeRun) (engine : RkllmEngine) : Except (EngineFault Thrown) (Option Bytes × S) :=
  match streamPrompt data with
  | .error error => .ok (some error, state)
  | .ok prompt =>
    if prompt = [] then .ok (some promptEmpty, state)
    else do
      let (success, state) ← engine.runStream prompt (some callback) state runtime
      .ok (if success then none else some inferenceFailed, state)

/-- `worker_loop` with a streamed job whose task and channel it has locked. -/
def streamJob (job : Job Session) (channel : Channel) (runtime : RuntimeRun) (engine : RkllmEngine) :
    Except (EngineFault WorkerFault) StreamWorker := do
  let worker : StreamWorker := ⟨{ channel with requestId := job.requestId }, 0, []⟩
  let (error, worker) ← inferenceStream job.input (StreamWorker.callback job) worker runtime engine
  match error with
  | some error => (worker.send (ascii "None") .none error job.workId).mapError .thrown
  | none => .ok worker

/-- The channel of a session that is still there, and the names its replies go under. -/
structure Serves (job : Job Session) (channel : Channel) : Prop where
  requestId : Utf8.Valid job.requestId
  workId : Utf8.Valid job.workId
  named : job.workId ≠ []
  published : (channel.zmq (-1)).isSome = true

/-- A job for which the engine runs a prompt. -/
structure Generation (Session : Type) where
  job : Job Session
  channel : Channel
  serves : Serves job channel
  engine : RkllmEngine
  loaded : engine.handle = true
  prompt : Bytes
  read : streamPrompt job.input = .ok prompt
  nonempty : prompt ≠ []

/-- A text in the cuts the runtime makes of it. -/
def cutRun (fragments : List Bytes) : RuntimeRun :=
  ⟨fragments.map (fun fragment => ⟨.normal, some fragment⟩) ++ [⟨.finish, none⟩], 0⟩

/-- What was sent is this, and no error. -/
def Delivers (parts : List (Socket × Message ResultData)) (data : ResultData) : Prop :=
  parts ≠ [] ∧ ∀ part ∈ parts, part.2.data = data ∧ part.2.error = noError

/-- The chunks of a text: numbered from 0, and final the last. -/
def numbered (deltas : List Bytes) : List ResultData :=
  deltas.mapIdx fun index delta => .chunk index delta (index + 1 == deltas.length)

/-- The worker gets through the job, and what it sends are the chunks of the text. -/
def Survives (generation : Generation Session) (runtime : RuntimeRun) (text : Bytes) : Prop :=
  ∃ worker deltas, streamJob generation.job generation.channel runtime generation.engine = .ok worker ∧
    deltas ≠ [] ∧ deltas.flatten = text ∧ List.Forall₂ Delivers worker.sent (numbered deltas)

/-! ## What the worker sends -/

/-- The data of the chunks for the texts of a run. -/
def chunkData : Nat → (passed : List (Bytes × Bool)) → List ResultData
  | _, [] => []
  | index, (text, finish) :: passed =>
    .chunk index (if finish then [] else text) finish :: chunkData (index + 1) passed

/-- A text that is sent is characters as it stands. -/
def Whole (call : Bytes × Bool) : Prop := call.2 = false → Utf8.Valid call.1

theorem Serves.send_delivers {job : Job Session} {channel : Channel} (serves : Serves job channel)
    (current : channel.requestId = job.requestId) (object : Bytes) (data : ResultData) :
    ∃ parts, channel.send object data noError job.workId = .ok parts ∧ Delivers parts data := by
  obtain ⟨pub, published⟩ := Option.isSome_iff_exists.mp serves.published
  have valid : Utf8.Valid channel.requestId ∧ Utf8.Valid job.workId ∧ Utf8.Valid noError :=
    ⟨current ▸ serves.requestId, serves.workId, Utf8.valid_nil⟩
  simp only [Channel.send, if_neg serves.named, if_pos valid, published]
  cases if channel.enoutput then channel.zmq (-2) else none with
  | none => exact ⟨_, rfl, by simp [Delivers]⟩
  | some push => exact ⟨_, rfl, by simp [Delivers]⟩

variable {job : Job Session} {worker after : StreamWorker} {text : Bytes} {finish : Bool} {passed : List (Bytes × Bool)}

theorem dumps_chunk_iff (index : Nat) :
    (ResultData.chunk index (if finish then [] else text) finish).Dumps ↔ Whole (text, finish) := by
  cases finish <;> simp [ResultData.Dumps, ResultData.texts, Whole]

/-- A text is sent as the next chunk, for as long as it is whole and the count goes on. -/
theorem callback_sends (serves : Serves job worker.channel) (counted : worker.index < intMax)
    (whole : Whole (text, finish)) :
    ∃ parts, Delivers parts (.chunk worker.index (if finish then [] else text) finish) ∧
      StreamWorker.callback job text finish worker =
        .ok ⟨{ worker.channel with requestId := job.requestId }, worker.index + 1, worker.sent ++ [parts]⟩ := by
  have still : Serves job { worker.channel with requestId := job.requestId } := { serves with }
  obtain ⟨parts, sent, delivers⟩ := still.send_delivers rfl (ascii "rkllm.result.stream")
    (.chunk worker.index (if finish then [] else text) finish)
  refine ⟨parts, delivers, ?_⟩
  simp only [StreamWorker.callback, if_neg (not_le.mpr counted), StreamWorker.send,
    if_pos ((dumps_chunk_iff _).mpr whole), sent]
  rfl

theorem callback_taken (taken : StreamWorker.callback job text finish worker = .ok after) :
    worker.index < intMax ∧ Whole (text, finish) := by
  by_cases ended : intMax ≤ worker.index
  · rw [StreamWorker.callback, if_pos ended] at taken
    cases taken
  · rw [StreamWorker.callback, if_neg ended] at taken
    exact ⟨not_le.mp ended, (dumps_chunk_iff _).mp (StreamWorker.send_dumps taken)⟩

/-- A run goes to its end when every text is whole and the count does not run out. -/
theorem calls_ok (serves : Serves job worker.channel) (whole : ∀ call ∈ passed, Whole call)
    (counted : worker.index + passed.length ≤ intMax) :
    ∃ after, (StreamWorker.callback job).calls passed worker = .ok after := by
  induction passed generalizing worker with
  | nil => exact ⟨worker, rfl⟩
  | cons call passed ih =>
    obtain ⟨first, rest⟩ := List.forall_mem_cons.mp whole
    rw [List.length_cons] at counted
    obtain ⟨parts, -, sent⟩ := callback_sends serves (by omega) first
    obtain ⟨after, called⟩ := @ih ⟨{ worker.channel with requestId := job.requestId }, worker.index + 1,
      worker.sent ++ [parts]⟩ { serves with } rest (by simp only; omega)
    exact ⟨after, by rw [RkllmStreamCallback.calls, sent]; exact called⟩

/-- What a run that got to its end has sent. -/
theorem calls_sent (serves : Serves job worker.channel)
    (called : (StreamWorker.callback job).calls passed worker = .ok after) :
    (∀ call ∈ passed, Whole call) ∧ (passed ≠ [] → worker.index + passed.length ≤ intMax) ∧
      ∃ outs, after.sent = worker.sent ++ outs ∧ List.Forall₂ Delivers outs (chunkData worker.index passed) := by
  induction passed generalizing worker with
  | nil =>
    cases called
    exact ⟨List.forall_mem_nil _, fun some => absurd rfl some, [], (List.append_nil _).symm, .nil⟩
  | cons call passed ih =>
    obtain ⟨middle, taken, rest⟩ := ok_of_bind called
    obtain ⟨counted, first⟩ := callback_taken taken
    obtain ⟨parts, delivers, sent⟩ := callback_sends serves counted first
    cases taken.symm.trans sent
    have still : Serves job { worker.channel with requestId := job.requestId } := { serves with }
    obtain ⟨whole, bound, outs, later, all⟩ := ih still rest
    refine ⟨List.forall_mem_cons.mpr ⟨first, whole⟩, fun _ => ?_, parts :: outs, ?_, .cons delivers all⟩
    · cases passed with
      | nil => exact counted
      | cons second passed =>
        have := bound (List.cons_ne_nil _ _)
        simp only [List.length_cons] at this ⊢
        omega
    · rw [later, List.append_assoc, List.singleton_append]

/-! ## A text in fragments -/

/-- What the callback is given of a text in cuts. -/
def passedOf (fragments : List Bytes) : List (Bytes × Bool) :=
  fragments.map (fun fragment => (cstr fragment, false)) ++ [([], true)]

theorem passed_cutRun (fragments : List Bytes) :
    (cutRun fragments).events.filterMap RuntimeEvent.passed = passedOf fragments := by
  rw [cutRun, List.filterMap_append, List.filterMap_map, passedOf, ← List.filterMap_eq_map]
  rfl

theorem chunkData_passedOf (fragments : List Bytes) (index : Nat) : chunkData index (passedOf fragments) =
    (fragments.map cstr ++ [[]]).mapIdx fun i delta => .chunk (index + i) delta (i + 1 == fragments.length + 1) := by
  induction fragments generalizing index with
  | nil => rfl
  | cons fragment fragments ih =>
    have rest := ih (index + 1)
    rw [passedOf] at rest
    rw [passedOf, List.map_cons, List.cons_append, chunkData, rest, List.map_cons, List.cons_append, List.mapIdx_cons]
    congr 2
    funext i delta
    rw [Nat.add_right_comm, Nat.add_assoc index i 1]
    simp

theorem chunkData_eq_numbered (fragments : List Bytes) :
    chunkData 0 (passedOf fragments) = numbered (fragments.map cstr ++ [[]]) := by
  rw [chunkData_passedOf, numbered]
  simp

theorem numbered_injective : Function.Injective numbered := by
  intro deltas others same
  refine List.ext_getElem? fun i => ?_
  have here := congrArg (·[i]?) same
  simp only [numbered, List.getElem?_mapIdx] at here
  cases first : deltas[i]? <;> cases second : others[i]? <;> simp_all

/-- What was sent delivers nothing else. -/
theorem delivers_unique : Relator.RightUnique Delivers := by
  rintro parts first second ⟨some, one⟩ ⟨-, other⟩
  obtain ⟨part, rest, rfl⟩ := List.exists_cons_of_ne_nil some
  exact (one part List.mem_cons_self).1.symm.trans (other part List.mem_cons_self).1

theorem cstr_fragment {fragments : List Bytes} (noNul : 0 ∉ fragments.flatten) {fragment : Bytes}
    (member : fragment ∈ fragments) : cstr fragment = fragment :=
  cstr_eq_iff.mpr fun nul => noNul (List.mem_flatten_of_mem member nul)

/-- C strings are the whole text when there is no NUL in it. -/
theorem flatten_cstr_iff (fragments : List Bytes) :
    (fragments.map cstr).flatten = fragments.flatten ↔ 0 ∉ fragments.flatten := by
  constructor
  · intro same nul
    rw [← same] at nul
    obtain ⟨text, isCstr, inText⟩ := List.mem_flatten.mp nul
    obtain ⟨fragment, -, rfl⟩ := List.mem_map.mp isCstr
    exact nul_notMem_cstr fragment inText
  · intro noNul
    rw [List.map_congr_left fun fragment member => cstr_fragment noNul member, List.map_id']

theorem whole_passedOf_iff (fragments : List Bytes) :
    (∀ call ∈ passedOf fragments, Whole call) ↔ ∀ fragment ∈ fragments, Utf8.Valid (cstr fragment) := by
  simp [passedOf, Whole, or_imp, forall_and]

/-! ## The whole job -/

/-- The worker as it starts on a job. -/
def Generation.started (generation : Generation Session) : StreamWorker :=
  ⟨{ generation.channel with requestId := generation.job.requestId }, 0, []⟩

theorem streamJob_eq (generation : Generation Session) (fragments : List Bytes) :
    streamJob generation.job generation.channel (cutRun fragments) generation.engine =
      ((StreamWorker.callback generation.job).calls (passedOf fragments) generation.started).mapError .thrown := by
  have loaded : ¬ generation.engine.handle = false := by simp [generation.loaded]
  have noError : (cutRun fragments).events.any (·.state == .error) = false := by
    simp [cutRun, List.any_map]
  simp only [streamJob, inferenceStream, generation.read, if_neg generation.nonempty,
    RkllmEngine.runStream_eq _ loaded generation.nonempty, passed_cutRun, noError]
  rw [← Generation.started]
  cases (StreamWorker.callback generation.job).calls (passedOf fragments) generation.started <;> rfl

/-- A text survives when no fragment ends within a character, no NUL is in it and there are not too many fragments. -/
theorem survives_iff (generation : Generation Session) (fragments : List Bytes) :
    Survives generation (cutRun fragments) fragments.flatten ↔
      (∀ fragment ∈ fragments, Utf8.Valid fragment) ∧ 0 ∉ fragments.flatten ∧ fragments.length + 1 < 2 ^ 31 := by
  have serves : Serves generation.job generation.started.channel := { generation.serves with }
  have length : (passedOf fragments).length = fragments.length + 1 := by simp [passedOf]
  have nonempty : passedOf fragments ≠ [] := List.ne_nil_of_length_eq_add_one length
  simp only [Survives, streamJob_eq]
  constructor
  · rintro ⟨worker, deltas, ran, -, text, sent⟩
    obtain ⟨whole, counted, outs, later, delivered⟩ := calls_sent serves (ok_of_mapError ran)
    rw [later] at sent
    have chunks := List.right_unique_forall₂' delivers_unique sent delivered
    have same := numbered_injective (chunks.trans (chunkData_eq_numbered fragments))
    rw [same, List.flatten_append, List.flatten_singleton, List.append_nil] at text
    have noNul := (flatten_cstr_iff fragments).mp text
    have bound := counted nonempty
    rw [length, Generation.started, intMax] at bound
    refine ⟨fun fragment member => ?_, noNul, by omega⟩
    exact cstr_fragment noNul member ▸ (whole_passedOf_iff fragments).mp whole fragment member
  · rintro ⟨valid, noNul, bound⟩
    have whole : ∀ call ∈ passedOf fragments, Whole call := by
      refine (whole_passedOf_iff fragments).mpr fun fragment member => ?_
      rw [cstr_fragment noNul member]
      exact valid fragment member
    have counted : generation.started.index + (passedOf fragments).length ≤ intMax := by
      simp only [length, Generation.started, intMax]
      omega
    obtain ⟨worker, called⟩ := calls_ok serves whole counted
    obtain ⟨-, -, outs, later, delivered⟩ := calls_sent serves called
    refine ⟨worker, fragments.map cstr ++ [[]], by rw [called]; rfl, by simp, ?_, ?_⟩
    · rw [List.flatten_append, List.flatten_singleton, List.append_nil]
      exact (flatten_cstr_iff fragments).mpr noNul
    · rw [later, ← chunkData_eq_numbered]
      exact delivered

/-- The job that a session makes of a message. -/
def Generation.ofMessage (session : Session) {workId : Bytes} (named : workId ≠ []) (validId : Utf8.Valid workId)
    {channel : Channel} (published : (channel.zmq (-1)).isSome = true) {raw : Bytes} (action : hasAction raw = true)
    (valid : Utf8.Valid raw) {engine : RkllmEngine} (loaded : engine.handle = true) {prompt : Bytes}
    (read : streamPrompt (channel.subscriberEventCall raw).1.2 = .ok prompt) (nonempty : prompt ≠ []) :
    Generation Session where
  job := Kind.rkllm.onInference session workId (channel.subscriberEventCall raw).1.2 (channel.subscriberEventCall raw).2
  channel := (channel.subscriberEventCall raw).2
  serves := by
    have adopted : (channel.subscriberEventCall raw).2 =
        ((channel.adoptPushUrl raw).adoptRequestId raw).adoptWorkId raw := if_pos action
    refine ⟨?_, validId, named, ?_⟩
    · rw [adopted]
      exact sampleJsonStrGet_valid valid (ascii "request_id")
    · rw [adopted]
      show ((channel.adoptPushUrl raw).zmq (-1)).isSome = true
      by_cases addressed : sampleJsonStrGet raw (ascii "zmq_com") ≠ []
      · rwa [Channel.adoptPushUrl, if_pos addressed, Channel.setPushUrl_publisher]
      · rwa [Channel.adoptPushUrl, if_neg addressed]
  engine
  loaded
  prompt
  read
  nonempty

/-- A job of the language model with the prompt `hi`. -/
def greeting : Generation Unit where
  job := ⟨(), ascii "rkllm.0", ascii "2", ascii "\x7b\"prompt\":\"hi\"\x7d", true⟩
  channel := someChannel
  serves := ⟨by decide, by decide, by decide, rfl⟩
  engine := ⟨true⟩
  loaded := rfl
  prompt := ascii "hi"
  read := by decide +kernel
  nonempty := by decide

/-- The two bytes of a letter come apart. -/
theorem generation_cut_in_character : ¬ ∀ (Session : Type) (generation : Generation Session) (fragments : List Bytes),
    Utf8.Valid fragments.flatten → Survives generation (cutRun fragments) fragments.flatten := by
  intro survives
  have survived := survives Unit greeting [[0xC3], [0xA9]] (by decide)
  simp only [Survives, streamJob_eq] at survived
  obtain ⟨worker, deltas, ran, -⟩ := survived
  obtain ⟨whole, -⟩ := calls_sent { greeting.serves with } (ok_of_mapError ran)
  exact absurd (whole ([0xC3], false) List.mem_cons_self rfl) (by decide)

end EdgeFlow.System
