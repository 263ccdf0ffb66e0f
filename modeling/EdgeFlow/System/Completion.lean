import EdgeFlow.System.Chat
import EdgeFlow.System.Generation
import EdgeFlow.System.Replies

/-! A streamed job of the language model, from the runtime to the completion that the gateway returns. -/

set_option autoImplicit false

namespace EdgeFlow.Node
open Library

/-- What `send` pushes to the client, behind what it publishes. -/
def pushed (parts : List (Socket × Message ResultData)) : List (Message ResultData) := parts.tail.map (·.2)

/-- Output is on, and there is a socket to push through. -/
structure Channel.Open (channel : Channel) : Prop where
  output : channel.enoutput = true
  socket : (channel.zmq (-2)).isSome = true

namespace StreamWorker
variable {worker after : StreamWorker} {Session : Type} {job : Job Session}

/-- What the client has been sent. -/
def toClient (worker : StreamWorker) : List (Message ResultData) := worker.sent.flatMap pushed

theorem send_toClient (isOpen : worker.channel.Open) {object errorMsg workId : Bytes} {data : ResultData}
    (named : workId ≠ []) (sent : worker.send object data errorMsg workId = .ok after) :
    after.channel = worker.channel ∧ after.index = worker.index ∧
      after.toClient = worker.toClient ++ [⟨worker.channel.requestId, workId, object, data, errorMsg⟩] := by
  obtain ⟨push, socket⟩ := Option.isSome_iff_exists.mp isOpen.socket
  rw [send, if_pos (send_dumps sent)] at sent
  obtain ⟨parts, mapped, same⟩ := ok_of_bind sent
  cases same
  have made := ok_of_mapError mapped
  rw [Channel.send, if_neg named, isOpen.output, socket] at made
  split at made
  · split at made
    · cases made
    · cases made
      exact ⟨rfl, rfl, by simp [toClient, pushed]⟩
  · cases made

/-- The message of a text. -/
def chunkMessage (job : Job Session) (index : Nat) (call : Bytes × Bool) : Message ResultData :=
  ⟨job.requestId, job.workId, ascii "rkllm.result.stream",
    .chunk index (if call.2 then [] else call.1) call.2, noError⟩

def chunkMessages (job : Job Session) : (index : Nat) → (passed : List (Bytes × Bool)) → List (Message ResultData)
  | _, [] => []
  | index, call :: passed => chunkMessage job index call :: chunkMessages job (index + 1) passed

theorem callback_toClient (isOpen : worker.channel.Open) (named : job.workId ≠ [])
    (current : worker.channel.requestId = job.requestId) {call : Bytes × Bool}
    (taken : callback job call.1 call.2 worker = .ok after) :
    after.channel = worker.channel ∧ after.index = worker.index + 1 ∧
      after.toClient = worker.toClient ++ [chunkMessage job worker.index call] := by
  unfold callback at taken
  rw [← current] at taken
  split at taken
  · cases taken
  · have counted : ({ worker with index := worker.index + 1 } : StreamWorker).channel.Open := isOpen
    obtain ⟨channel, index, sent⟩ := send_toClient counted named taken
    refine ⟨channel, index, sent.trans ?_⟩
    rw [chunkMessage, ← current]
    rfl

/-- A run sends its texts to the client, in order, and their numbers stay below the end of an `int`. -/
theorem calls_toClient (isOpen : worker.channel.Open) (named : job.workId ≠ [])
    (current : worker.channel.requestId = job.requestId) {passed : List (Bytes × Bool)}
    (counted : worker.index ≤ intMax) (called : (callback job).calls passed worker = .ok after) :
    after.channel = worker.channel ∧ after.toClient = worker.toClient ++ chunkMessages job worker.index passed ∧
      worker.index + passed.length ≤ intMax := by
  induction passed generalizing worker with
  | nil =>
    cases called
    exact ⟨rfl, (List.append_nil _).symm, counted⟩
  | cons call passed ih =>
    obtain ⟨middle, taken, rest⟩ := ok_of_bind called
    have below := (System.callback_taken taken).1
    obtain ⟨channel, index, sent⟩ := callback_toClient isOpen named current taken
    obtain ⟨still, later, bound⟩ := ih (channel ▸ isOpen) (by rw [channel, current]) (by omega) rest
    refine ⟨still.trans channel, ?_, ?_⟩
    · rw [later, sent, index, List.append_assoc]
      rfl
    · rw [index] at bound
      rw [List.length_cons]
      omega

end StreamWorker
end EdgeFlow.Node

namespace EdgeFlow.System
open Library Library.Printf Node Gateway

variable {Session : Type}

/-- What comes of a job: the texts that are handed over, and the error behind them. -/
def jobOutcome (input : Bytes) (runtime : RuntimeRun) (engine : RkllmEngine) : List (Bytes × Bool) × Option Bytes :=
  match streamPrompt input with
  | .error error => ([], some error)
  | .ok prompt =>
    if prompt = [] then ([], some promptEmpty)
    else if engine.handle = false then ([], some inferenceFailed)
    else
      (runtime.events.filterMap RuntimeEvent.passed,
        if runtime.ret == 0 && !runtime.events.any (·.state == .error) then none else some inferenceFailed)

def failureMessage (job : Job Session) (error : Bytes) : Message ResultData :=
  ⟨job.requestId, job.workId, ascii "None", .none, error⟩

/-- A job that the worker gets through sends its texts to the client, and the error behind them. -/
theorem streamJob_toClient {job : Job Session} {channel : Channel} (isOpen : channel.Open) (named : job.workId ≠ [])
    {runtime : RuntimeRun} {engine : RkllmEngine} {worker : StreamWorker}
    (ran : streamJob job channel runtime engine = .ok worker) :
    worker.toClient = StreamWorker.chunkMessages job 0 (jobOutcome job.input runtime engine).1 ++
      (jobOutcome job.input runtime engine).2.toList.map (failureMessage job) ∧
      (jobOutcome job.input runtime engine).1.length ≤ intMax := by
  -- the worker as it starts
  obtain ⟨start, isStart⟩ : ∃ start : StreamWorker, start = ⟨{ channel with requestId := job.requestId }, 0, []⟩ :=
    ⟨_, rfl⟩
  have startOpen : start.channel.Open := by
    rw [isStart]
    exact { isOpen with }
  have current : start.channel.requestId = job.requestId := by rw [isStart]
  have nothing : start.toClient = [] := by
    rw [isStart]
    rfl
  have first : start.index = 0 := by rw [isStart]
  have failed {before : StreamWorker} {error : Bytes} (same : before.channel = start.channel)
      (sent : (before.send (ascii "None") .none error job.workId).mapError EngineFault.thrown = .ok worker) :
      worker.toClient = before.toClient ++ [failureMessage job error] := by
    have done := (StreamWorker.send_toClient (same ▸ startOpen) named (ok_of_mapError sent)).2.2
    rwa [same, current] at done
  rw [streamJob, ← isStart] at ran
  obtain ⟨⟨error, before⟩, called, rest⟩ := ok_of_bind ran
  unfold inferenceStream at called
  unfold jobOutcome
  cases read : streamPrompt job.input with
  | error promptError =>
    rw [read] at called
    cases called
    exact ⟨by simpa [nothing, StreamWorker.chunkMessages] using failed rfl rest, Nat.zero_le _⟩
  | ok prompt =>
    simp only [read] at called ⊢
    by_cases empty : prompt = []
    · rw [if_pos empty] at called ⊢
      cases called
      exact ⟨by simpa [nothing, StreamWorker.chunkMessages] using failed rfl rest, Nat.zero_le _⟩
    · rw [if_neg empty] at called ⊢
      by_cases unloaded : engine.handle = false
      · rw [RkllmEngine.runStream, if_pos (.inl unloaded)] at called
        rw [if_pos unloaded]
        cases called
        exact ⟨by simpa [nothing, StreamWorker.chunkMessages] using failed rfl rest, Nat.zero_le _⟩
      · rw [RkllmEngine.runStream_eq runtime unloaded empty] at called
        rw [if_neg unloaded]
        cases calls : (StreamWorker.callback job).calls (runtime.events.filterMap RuntimeEvent.passed) start with
        | error fault =>
          rw [calls] at called
          cases called
        | ok after =>
          obtain ⟨channel, sent, bound⟩ :=
            StreamWorker.calls_toClient startOpen named current (by rw [first]; decide) calls
          rw [first, Nat.zero_add] at bound
          rw [nothing, first, List.nil_append] at sent
          rw [calls] at called
          simp only [Except.mapError, Except.map, bind, Except.bind] at called
          cases succeeded : runtime.ret == 0 && !runtime.events.any (·.state == .error) with
          | true =>
            simp only [succeeded, if_true] at called
            cases called
            cases rest
            exact ⟨by simpa using sent, bound⟩
          | false =>
            simp only [succeeded] at called
            cases called
            exact ⟨by simpa [sent] using failed channel rest, bound⟩

/-! ## The errors of a job -/

theorem reports_promptError : Reports promptError (-2) (.ofAscii "data.prompt must be a string") :=
  .of_dump (by decide +kernel) (by decide) (by decide)

theorem reports_promptEmpty : Reports promptEmpty (-24) (.ofAscii "prompt is empty") :=
  .of_dump (by decide +kernel) (by decide) (by decide)

theorem reports_inferenceFailed : Reports inferenceFailed (-11) (.ofAscii "RKLLM inference failed") :=
  .of_dump (by decide +kernel) (by decide) (by decide)

theorem streamPrompt_error {data error : Bytes} (failed : streamPrompt data = .error error) : error = promptError := by
  unfold streamPrompt at failed
  split at failed
  · split at failed
    · cases failed
    · exact (Except.error.inj failed).symm
  · exact (Except.error.inj failed).symm

theorem jobOutcome_reports {input : Bytes} {runtime : RuntimeRun} {engine : RkllmEngine} {error : Bytes}
    (failed : (jobOutcome input runtime engine).2 = some error) : ∃ code text, Reports error code text := by
  unfold jobOutcome at failed
  cases read : streamPrompt input with
  | error promptError =>
    rw [read] at failed
    cases failed
    exact ⟨_, _, streamPrompt_error read ▸ reports_promptError⟩
  | ok prompt =>
    simp only [read] at failed
    split at failed
    · cases failed
      exact ⟨_, _, reports_promptEmpty⟩
    · split at failed
      · cases failed
        exact ⟨_, _, reports_inferenceFailed⟩
      · simp only [ite_eq_iff, reduceCtorEq, and_false, Option.some.injEq, false_or] at failed
        exact ⟨_, _, failed.2 ▸ reports_inferenceFailed⟩

/-! ## The lines -/

/-- A line that is written of a message at some time. -/
def WrittenAs (message : Message ResultData) (line : Bytes) : Prop :=
  ∃ created, IsLong created ∧ message.line .null created = some line

theorem written_append {first second : List (Message ResultData)} {lines : List Bytes}
    (written : List.Forall₂ WrittenAs (first ++ second) lines) : ∃ front back, lines = front ++ back ∧
      List.Forall₂ WrittenAs first front ∧ List.Forall₂ WrittenAs second back :=
  ⟨lines.take first.length, lines.drop first.length, (List.take_append_drop _ _).symm,
    by simpa using List.forall₂_take first.length written, by simpa using List.forall₂_drop first.length written⟩

/-- The message of a call, as the gateway reads it. -/
def ReadAs (call : Bytes × Bool) (message : StreamMessage) : Prop :=
  message.delta.bytes = (if call.2 then [] else call.1) ∧ message.finish = call.2

section
variable {python : Python} {number : Json.Number → Value} {inRange : Json.Number → Bool}
  (loads : LoadsJson python number inRange)
include loads

theorem reads_chunk {job : Job Session} {index : Nat} (counted : index ≤ intMax) {call : Bytes × Bool} {line : Bytes}
    (written : WrittenAs (StreamWorker.chunkMessage job index call) line) :
    ∃ message, ReadAs call message ∧ Reads python line message := by
  obtain ⟨created, long, made⟩ := written
  have isLong : IsLong index := by
    unfold intMax at counted
    unfold IsLong
    omega
  have stamped : Stamped inRange created .null (StreamWorker.chunkMessage job index call).data := ⟨long, rfl, isLong⟩
  have read := lineData_success loads stamped made rfl rfl
  -- the text was written, so it is whole
  obtain ⟨json, isJson, -⟩ := Option.map_eq_some_iff.mp made
  obtain ⟨data, isData, -⟩ := Option.bind_eq_some_iff.mp isJson
  obtain ⟨delta, isDelta, -⟩ := Option.bind_eq_some_iff.mp isData
  have spelled := textOf_eq_some.mp isDelta
  refine ⟨⟨delta, call.2⟩, ⟨spelled, rfl⟩, _, .bool call.2, read, ?_, rfl, Bool.not_not _⟩
  rw [spelled]
  rfl

theorem reads_chunks {job : Job Session} {passed : List (Bytes × Bool)} {index : Nat}
    (counted : index + passed.length ≤ intMax) {lines : List Bytes}
    (written : List.Forall₂ WrittenAs (StreamWorker.chunkMessages job index passed) lines) :
    ∃ messages, List.Forall₂ ReadAs passed messages ∧ List.Forall₂ (Reads python) lines messages := by
  induction passed generalizing index lines with
  | nil =>
    cases written
    exact ⟨[], .nil, .nil⟩
  | cons call passed ih =>
    rw [List.length_cons] at counted
    obtain ⟨line, lines, here, later, rfl⟩ := List.forall₂_cons_left_iff.mp written
    obtain ⟨message, isRead, reads⟩ := reads_chunk loads (by omega) here
    obtain ⟨messages, areRead, readsAll⟩ := ih (by omega) later
    exact ⟨message :: messages, .cons isRead areRead, .cons reads readsAll⟩

end

/-- The end of a text is in its message. -/
theorem finish_readAs {passed : List (Bytes × Bool)} {messages : List StreamMessage}
    (read : List.Forall₂ ReadAs passed messages) : messages.map (·.finish) = passed.map (·.2) := by
  induction read with
  | nil => rfl
  | cons here later ih => rw [List.map_cons, List.map_cons, here.2, ih]

/-- The texts up to the first end, as the gateway puts them together. -/
theorem spoken_readAs {passed : List (Bytes × Bool)} {messages : List StreamMessage}
    (read : List.Forall₂ ReadAs passed messages) :
    (spoken messages).flatMap (·.bytes) = (passed.takeWhile (!·.2)).flatMap (·.1) := by
  induction read with
  | nil => rfl
  | @cons call message passed messages here later ih =>
    obtain ⟨delta, finish⟩ := here
    rw [spoken_cons, List.flatMap_append]
    cases ended : call.2 with
    | true =>
      rw [ended, if_pos rfl] at delta
      rw [finish, ended]
      simp [delta, ended]
    | false =>
      rw [ended] at delta
      rw [finish, ended, if_neg Bool.false_ne_true, ih, List.takeWhile_cons_of_pos (by simp [ended]), List.flatMap_cons]
      congr 1
      by_cases empty : message.delta.bytes.isEmpty = true
      · rw [if_pos empty, ← show message.delta.bytes = call.1 from delta, List.isEmpty_iff.mp empty]
        rfl
      · rw [if_neg empty, List.flatMap_singleton]
        exact delta

/-! ## The stream -/

section
variable {python : Python} {chat : Chat}

/-- A line that is an error, behind lines that are not the last. -/
theorem streamLines_fails (out : Exc) {lines : List Bytes} {messages : List StreamMessage}
    (read : List.Forall₂ (Reads python) lines messages) (unfinished : ∀ message ∈ messages, message.finish = false)
    {line : Bytes} {exc : Exc} (failed : UnitManagerClient.lineData python line = .error exc) (more : List Bytes) :
    ∃ data, UnitManagerClient.streamLines python out (lines ++ line :: more) = (data, some exc) ∧
      chunksOf data (some exc) = .error exc := by
  induction read with
  | nil => exact ⟨[], by simp only [List.nil_append, UnitManagerClient.streamLines, failed], rfl⟩
  | @cons first message lines messages here later ih =>
    obtain ⟨data, finish, brings, delta, readFinish, isFinish⟩ := here
    obtain ⟨notLast, unfinished⟩ := List.forall_mem_cons.mp unfinished
    obtain ⟨rest, stream, taken⟩ := ih unfinished
    have notFinish : ¬ finish.truthy = true := by simp [isFinish, notLast]
    refine ⟨data :: rest, ?_, ?_⟩
    · simp only [List.cons_append, UnitManagerClient.streamLines, brings, readFinish, if_neg notFinish, stream]
    · simp only [chunksOf, delta, taken, bind, Except.bind]

/-- The chat is set up, and these are the lines that come in behind it. -/
def SetUp (python : Python) (chat : Chat) (peer : Peer) (prompt : Bytes) (lines : List Bytes) : Prop :=
  peer.accepts = true ∧ JsonLineClient.Sends (peer.takes 0) (UnitManagerClient.setupMessage chat.setupId "rkllm") ∧
  ∃ reply workId, peer.lines = reply :: lines ∧ setupResult python reply = .ok workId ∧
    JsonLineClient.Sends (peer.takes 1) (UnitManagerClient.inferenceMessage chat.inferenceId workId prompt)

theorem runRkllmStream_setUp {peer : Peer} {prompt : Bytes} {lines : List Bytes}
    (setUp : SetUp python chat peer prompt lines) :
    runRkllmStream python chat peer prompt = UnitManagerClient.streamLines python peer.runsOut lines := by
  obtain ⟨accepts, sends, reply, workId, shape, set, sends'⟩ := setUp
  rcases setup_cases python chat peer with ⟨unsent, -⟩ | ⟨-, spec⟩
  · exact absurd ⟨accepts, sends⟩ unsent
  · simp only [shape, set] at spec
    obtain ⟨client, connected, left, out⟩ := spec
    rw [runRkllmStream, connected]
    rcases JsonLineClient.send_cases (peer.takes 1)
      (UnitManagerClient.inferenceMessage chat.inferenceId workId prompt) with ⟨-, sent⟩ | ⟨unsent, -⟩
    · simp only [rkllmStream, sent, UnitManagerClient.streamLoop_eq, left, out]
    · exact absurd sends' unsent

end

/-! ## A completion -/

section
variable {python : Python} {number : Json.Number → Value} {inRange : Json.Number → Bool}
  (loads : LoadsJson python number inRange)
include loads

/-- A job that the worker gets through is a completion of the texts that the runtime hands over before it first says
that it is done; where it never does, the error of the job is raised in the gateway with its code and its text. -/
theorem completion_of_job {job : Job Session} {channel : Channel} (isOpen : channel.Open) (named : job.workId ≠ [])
    {runtime : RuntimeRun} {engine : RkllmEngine} {worker : StreamWorker}
    (ran : streamJob job channel runtime engine = .ok worker) {lines : List Bytes}
    (written : List.Forall₂ WrittenAs worker.toClient lines) {chat : Chat} {peer : Peer} {prompt : Bytes}
    {more : List Bytes} (setUp : SetUp python chat peer prompt (lines ++ more)) :
    let outcome := jobOutcome job.input runtime engine
    ((∃ call ∈ outcome.1, call.2 = true) →
      runChatCompletion python chat peer prompt = .ok ((outcome.1.takeWhile (!·.2)).flatMap (·.1))) ∧
    ((∀ call ∈ outcome.1, call.2 = false) → ∀ error, outcome.2 = some error → ∃ code text,
      Reports error code text ∧
        runChatCompletion python chat peer prompt = .error (raised "rkllm inference" code text)) := by
  intro outcome
  obtain ⟨toClient, counted⟩ := streamJob_toClient isOpen named ran
  rw [toClient] at written
  obtain ⟨texts, rest, rfl, chunks, failure⟩ := written_append written
  obtain ⟨messages, isRead, reads⟩ := reads_chunks loads (by rwa [Nat.zero_add]) chunks
  rw [List.append_assoc] at setUp
  constructor
  · rintro ⟨call, member, ended⟩
    have finished : ∃ message ∈ messages, message.finish = true := by
      rw [← List.mem_map (f := StreamMessage.finish), finish_readAs isRead]
      exact List.mem_map.mpr ⟨call, member, ended⟩
    obtain ⟨data, stream, said, taken, -⟩ := streamLines_messages peer.runsOut reads finished (rest ++ more)
    have run := (runRkllmStream_setUp setUp).trans stream
    simp only [runChatCompletion, run, taken, bind, Except.bind, said, join_strings, spoken_readAs isRead, outcome]
  · intro unfinished error failed
    obtain ⟨code, text, reports⟩ := jobOutcome_reports failed
    refine ⟨code, text, reports, ?_⟩
    rw [failed] at failure
    obtain ⟨line, none, ⟨created, long, made⟩, isNone, rfl⟩ := List.forall₂_cons_left_iff.mp failure
    obtain rfl := List.forall₂_nil_left_iff.mp isNone
    have stamped : Stamped inRange created .null (failureMessage job error).data := ⟨long, rfl, trivial⟩
    have read := lineData_failure loads stamped made reports
    have notLast : ∀ message ∈ messages, message.finish = false := by
      intro message member
      have inCalls : message.finish ∈ outcome.1.map (·.2) :=
        finish_readAs isRead ▸ List.mem_map_of_mem member
      obtain ⟨call, inOutcome, same⟩ := List.mem_map.mp inCalls
      exact same.symm.trans (unfinished call inOutcome)
    obtain ⟨data, stream, taken⟩ := streamLines_fails peer.runsOut reads notLast read more
    have run := runRkllmStream_setUp setUp
    rw [List.singleton_append, stream] at run
    simp only [runChatCompletion, run, taken, bind, Except.bind]

end

/-- The channel of a session whose client listens. -/
def openChannel : Channel := (Channel.create (true, false) [] [] []).setPushUrl (ascii "ipc:///tmp/llm/8000.sock")

def helloRun : RuntimeRun := cutRun [ascii "hel", ascii "lo"]

def helloLines : List Bytes :=
  (StreamWorker.chunkMessages greeting.job 0 (helloRun.events.filterMap RuntimeEvent.passed)).map fun message =>
    (message.line .null 7).getD []

def helloPeer : Peer where
  accepts := true
  takes _ := true
  chunks := (setupReply :: helloLines).map (· ++ [Byte.newline])
  closes := true

def helloGeneration : Generation Unit :=
  { greeting with
    channel := openChannel
    serves := ⟨by decide, by decide, by decide, rfl⟩ }

theorem completion_of_job_hello :
    runChatCompletion jsonPython shortChat helloPeer (ascii "hi") = .ok (ascii "hello") := by
  have isOpen : openChannel.Open := ⟨rfl, rfl⟩
  obtain ⟨worker, ran⟩ : ∃ worker, streamJob greeting.job openChannel helloRun greeting.engine = .ok worker := by
    have serves : Serves greeting.job helloGeneration.started.channel := ⟨by decide, by decide, by decide, rfl⟩
    have whole : ∀ call ∈ passedOf [ascii "hel", ascii "lo"], Whole call :=
      (whole_passedOf_iff _).mpr (by decide)
    obtain ⟨worker, called⟩ := calls_ok serves whole (by decide)
    have ran := streamJob_eq helloGeneration [ascii "hel", ascii "lo"]
    rw [show helloGeneration.job = greeting.job from rfl, called] at ran
    exact ⟨worker, ran⟩
  have outcome : jobOutcome greeting.job.input helloRun greeting.engine =
      (passedOf [ascii "hel", ascii "lo"], none) := by
    decide +kernel
  have written : List.Forall₂ WrittenAs worker.toClient helloLines := by
    rw [(streamJob_toClient isOpen (by decide) ran).1, outcome]
    exact .cons ⟨7, by decide, by decide +kernel⟩ (.cons ⟨7, by decide, by decide +kernel⟩
      (.cons ⟨7, by decide, by decide +kernel⟩ .nil))
  have setUp : SetUp jsonPython shortChat helloPeer (ascii "hi") (helloLines ++ []) :=
    ⟨rfl, ⟨by decide +kernel, rfl⟩, setupReply, ascii "rkllm.0", by decide +kernel, by decide +kernel,
      ⟨by decide +kernel, rfl⟩⟩
  have completed := (completion_of_job jsonPython_loads isOpen (by decide) ran written setUp).1
  rw [outcome] at completed
  exact completed ⟨([], true), by decide, rfl⟩

end EdgeFlow.System
