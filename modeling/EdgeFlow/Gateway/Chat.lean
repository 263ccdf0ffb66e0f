import EdgeFlow.Gateway.UnitManagerClient

/-! Chat completions, streamed and not: `main.py` with the chunks of `openai_compat.py`.

A generator is what it yields and the exception that leaves it, if one does.
-/

set_option autoImplicit false

namespace EdgeFlow.Gateway
open Library Library.Byte

/-- What a chat has from outside the program text. -/
structure Chat where
  rkllmModelId : Bytes
  requestId : Bytes
  /-- `int(time.time())` at each chunk -/
  created : Nat → Int
  setupId : Bytes
  inferenceId : Bytes

def chatCompletionChunk (modelId : Bytes) (delta : Value) (requestId : Bytes) (created : Int) (finish : Bool)
    (role : Bytes) : Value :=
  let deltaBody := (if role ≠ [] then [("role", .str role)] else []) ++
    if delta.truthy then [("content", delta)] else []
  dict [("id", .str requestId), ("object", .str (ascii "chat.completion.chunk")), ("created", .int created),
    ("model", .str modelId),
    ("choices", .list [dict [("index", .int 0), ("delta", if finish then dict [] else dict deltaBody),
      ("finish_reason", if finish then .str (ascii "stop") else .none)]])]

def sse (payload : Value) : Bytes := ascii "data: " ++ payload.dumps ++ [newline, newline]

def doneEvent : Bytes := ascii "data: [DONE]\n\n"

/-- What is yielded, and what is raised in the end. -/
structure Output where
  events : List Bytes
  raised : Option Exc

section
variable (python : Python) (chat : Chat)

namespace Chat

def roleChunk : Bytes :=
    sse (chatCompletionChunk chat.rkllmModelId (.str []) chat.requestId (chat.created 0) false (ascii "assistant"))

def contentChunk (index : Nat) (delta : Value) : Bytes :=
  sse (chatCompletionChunk chat.rkllmModelId delta chat.requestId (chat.created index) false [])

def finishChunk (index : Nat) : Bytes :=
  sse (chatCompletionChunk chat.rkllmModelId (.str []) chat.requestId (chat.created index) true [])

end Chat

def errorEvent (message : Bytes) (code : Int) : Bytes :=
  sse (dict [("error", dict [("message", .str message), ("type", .str (ascii "unit_manager_error")),
    ("code", .int code)])])

/-- `UnitManagerClient.__enter__` -/
def connect (peer : Peer) : Except Exc JsonLineClient :=
  if peer.accepts then .ok ⟨[], peer.chunks⟩ else .error (.builtin .osError)

/-- `UnitManagerClient.rkllm_stream` -/
def rkllmStream (peer : Peer) (workId prompt : Bytes) (client : JsonLineClient) : List Value × Option Exc :=
  match JsonLineClient.send (peer.takes 1) (UnitManagerClient.inferenceMessage chat.inferenceId workId prompt) with
  | .error exc => ([], some exc)
  | .ok () => UnitManagerClient.streamLoop python peer.closes client

/-- What `cleanup_work_id` meets, on a connection of its own, goes no further. -/
def runRkllmStream (peer : Peer) (prompt : Bytes) : List Value × Option Exc :=
  match connect peer >>= UnitManagerClient.setup python peer chat.setupId "rkllm" with
  | .error exc => ([], some exc)
  | .ok (workId, client) => rkllmStream python chat peer workId prompt client

/-- The loop of `stream_chat_completion`, with the number of chunks before it. -/
def streamChunks : Nat → List Value → Option Exc → Output
  | _, [], ended => ⟨[], ended⟩
  | index, data :: rest, ended =>
    match (do .ok (← data.get "delta" (.str []), ← data.get "finish" (.bool false))) with
    | .error exc => ⟨[], some exc⟩
    | .ok (delta, finish) =>
      let content := if delta.truthy then [chat.contentChunk index delta] else []
      let index := index + content.length
      if finish.truthy then ⟨content ++ [chat.finishChunk index, doneEvent], none⟩
      else
        let more := streamChunks index rest ended
        ⟨content ++ more.events, more.raised⟩

def streamChatCompletion (peer : Peer) (prompt : Bytes) : Output :=
  let (data, ended) := runRkllmStream python chat peer prompt
  let output := streamChunks chat 1 data ended
  match output.raised with
  | some (.unitManagerError message code) =>
    ⟨chat.roleChunk :: (output.events ++ [errorEvent message code, doneEvent]), none⟩
  | raised => ⟨chat.roleChunk :: output.events, raised⟩

/-- The loop of `run_chat_completion`. -/
def chunksOf : List Value → Option Exc → Except Exc (List Value)
  | [], none => .ok []
  | [], some exc => .error exc
  | data :: rest, ended => do
    let delta ← data.get "delta" (.str [])
    let chunks ← chunksOf rest ended
    .ok (if delta.truthy then delta :: chunks else chunks)

/-- `"".join(chunks)` -/
def join : List Value → Except Exc Bytes
  | [] => .ok []
  | .str s :: rest => do .ok (s ++ (← join rest))
  | _ :: _ => .error (.builtin .typeError)

def runChatCompletion (peer : Peer) (prompt : Bytes) : Except Exc Bytes := do
  let (data, ended) := runRkllmStream python chat peer prompt
  join (← chunksOf data ended)

/-! ## Termination of a stream -/

/-- The deltas that are there to be sent. -/
def deltas (data : List Value) : List Value :=
  data.filterMap fun data =>
    match data.get "delta" (.str []) with
    | .ok delta => if delta.truthy then some delta else none
    | .error _ => none

def Chat.contents : Nat → List Value → List Bytes
  | _, [] => []
  | index, delta :: rest => chat.contentChunk index delta :: Chat.contents (index + 1) rest

/-- A role chunk, a content chunk for each delta, a finish chunk or an error event, and the end. -/
def Terminated (deltas : List Value) (output : Output) : Prop :=
  output.raised = none ∧ ∃ last, (last = chat.finishChunk (deltas.length + 1) ∨ ∃ message code,
    last = errorEvent message code) ∧
    output.events = chat.roleChunk :: (chat.contents 1 deltas ++ [last, doneEvent])

def Exc.IsUnitManagerError : Exc → Bool
  | .unitManagerError _ _ => true
  | .builtin _ => false

def setupResult (line : Bytes) : Except Exc Bytes := do
  let response ← JsonLineClient.decode python line
  ensureSuccess python response "rkllm setup"
  UnitManagerClient.workIdOf "rkllm" response

/-- The `finish` of a line of the stream, where it has one to read. -/
def finishOf (line : Bytes) : Except Exc Value := do
  let data ← UnitManagerClient.lineData python line
  data.get "finish" (.bool false)

/-- A successful message that is not the last. -/
def goesOn (line : Bytes) : Bool :=
  match finishOf python line with
  | .ok finish => !finish.truthy
  | .error _ => false

/-- The last message, a reported error or an unexpected object. -/
def settles (line : Bytes) : Bool :=
  match finishOf python line with
  | .ok finish => finish.truthy
  | .error exc => exc.IsUnitManagerError

/-- The lines that a peer has for the gateway. -/
def Peer.lines (peer : Peer) : List Bytes := JsonLineClient.lines ⟨[], peer.chunks⟩

def Peer.runsOut (peer : Peer) : Exc := JsonLineClient.runsOut peer.closes ⟨[], peer.chunks⟩

/-- Both requests get out, and the first line that is not a successful unfinished message settles the
stream; where there is no such line, the connection is closed. -/
def Settled (peer : Peer) (prompt : Bytes) : Prop :=
  peer.accepts = true ∧ JsonLineClient.Sends (peer.takes 0) (UnitManagerClient.setupMessage chat.setupId "rkllm") ∧
  match peer.lines with
  | [] => peer.runsOut.IsUnitManagerError = true
  | line :: lines =>
    match setupResult python line with
    | .error exc => exc.IsUnitManagerError = true
    | .ok workId =>
      JsonLineClient.Sends (peer.takes 1) (UnitManagerClient.inferenceMessage chat.inferenceId workId prompt) ∧
      match lines.dropWhile (goesOn python) with
      | [] => peer.runsOut.IsUnitManagerError = true
      | last :: _ => settles python last = true

/-! ### The stream over the lines -/

variable {python chat}

theorem get_error {data default : Value} {key : String} {exc : Exc} (failed : data.get key default = .error exc) :
    exc = .builtin .attributeError ∧ ∀ key default, data.get key default = .error (.builtin .attributeError) := by
  cases data <;> cases failed <;> exact ⟨rfl, fun _ _ => rfl⟩

theorem get_ok {data default value : Value} {key : String} (found : data.get key default = .ok value) (other : String)
    (default' : Value) : ∃ value', data.get other default' = .ok value' := by
  cases data with
  | dict members => exact ⟨_, rfl⟩
  | _ => cases found

theorem contents_append (index : Nat) (first second : List Value) :
    chat.contents index (first ++ second) = chat.contents index first ++
      chat.contents (index + first.length) second := by
  induction first generalizing index with
  | nil => rfl
  | cons delta first ih =>
    rw [List.cons_append, Chat.contents, Chat.contents, ih, List.length_cons, Nat.add_assoc, Nat.add_comm 1]
    rfl

/-- One turn of the loop, for data that can be read. -/
theorem streamChunks_cons {data delta finish : Value} (spoken : data.get "delta" (.str []) = .ok delta)
    (read : data.get "finish" (.bool false) = .ok finish) (index : Nat) (rest : List Value) (ended : Option Exc) :
    streamChunks chat index (data :: rest) ended =
      if finish.truthy then
        ⟨chat.contents index (deltas [data]) ++ [chat.finishChunk (index + (deltas [data]).length), doneEvent], none⟩
      else
        ⟨chat.contents index (deltas [data]) ++
            (streamChunks chat (index + (deltas [data]).length) rest ended).events,
          (streamChunks chat (index + (deltas [data]).length) rest ended).raised⟩ := by
  simp only [streamChunks, deltas, spoken, read, bind, Except.bind, List.filterMap_cons, List.filterMap_nil]
  cases delta.truthy <;> rfl

theorem deltas_cons (data : Value) (rest : List Value) : deltas (data :: rest) = deltas [data] ++ deltas rest := by
  rw [deltas, deltas, deltas, ← List.filterMap_append]
  rfl

variable (python chat) in
/-- One content chunk for each delta, then what the line that ends the stream comes to. -/
theorem streamChunks_streamLines (out : Exc) (lines : List Bytes) (index : Nat) :
    let stream := UnitManagerClient.streamLines python out lines
    let output := streamChunks chat index stream.1 stream.2
    match lines.dropWhile (goesOn python) with
    | [] => output.events = chat.contents index (deltas stream.1) ∧ output.raised = some out
    | last :: _ =>
      match finishOf python last with
      | .error exc => output.events = chat.contents index (deltas stream.1) ∧ output.raised = some exc
      | .ok _ =>
        output.events = chat.contents index (deltas stream.1) ++
          [chat.finishChunk (index + (deltas stream.1).length), doneEvent] ∧ output.raised = none := by
  induction lines generalizing index with
  | nil => exact ⟨rfl, rfl⟩
  | cons line lines ih =>
    cases read : UnitManagerClient.lineData python line with
    | error exc =>
      have finish : finishOf python line = .error exc := by
        rw [finishOf, read]
        rfl
      have stops : ¬ goesOn python line = true := by simp [goesOn, finish]
      have stream : UnitManagerClient.streamLines python out (line :: lines) = ([], some exc) := by
        rw [UnitManagerClient.streamLines, read]
      simp only [List.dropWhile_cons_of_neg stops, finish, stream]
      exact ⟨rfl, rfl⟩
    | ok data =>
      have same : finishOf python line = data.get "finish" (.bool false) := by
        rw [finishOf, read]
        rfl
      cases finish : data.get "finish" (.bool false) with
      | error exc =>
        -- the loop over the chunks fails on this data before the one over the lines does
        rw [finish] at same
        have stops : ¬ goesOn python line = true := by simp [goesOn, same]
        obtain ⟨rfl, noDict⟩ := get_error finish
        have stream : UnitManagerClient.streamLines python out (line :: lines) =
            ([data], some (.builtin .attributeError)) := by
          simp only [UnitManagerClient.streamLines, read, finish]
        simp only [List.dropWhile_cons_of_neg stops, same, stream, deltas, List.filterMap_cons, List.filterMap_nil,
          noDict, streamChunks, bind, Except.bind]
        exact ⟨rfl, trivial⟩
      | ok finishReason =>
        rw [finish] at same
        obtain ⟨delta, found⟩ := get_ok finish "delta" (.str [])
        by_cases last : finishReason.truthy = true
        · have stops : ¬ goesOn python line = true := by simp [goesOn, same, last]
          have stream : UnitManagerClient.streamLines python out (line :: lines) = ([data], none) := by
            simp only [UnitManagerClient.streamLines, read, finish, if_pos last]
          simp only [List.dropWhile_cons_of_neg stops, same, stream, streamChunks_cons found finish, if_pos last,
            and_self]
        · have continues : goesOn python line = true := by simp [goesOn, same, last]
          have stream : UnitManagerClient.streamLines python out (line :: lines) =
              (data :: (UnitManagerClient.streamLines python out lines).1,
                (UnitManagerClient.streamLines python out lines).2) := by
            simp only [UnitManagerClient.streamLines, read, finish, if_neg last]
          have later := ih (index + (deltas [data]).length)
          have all := deltas_cons data (UnitManagerClient.streamLines python out lines).1
          simp only [List.dropWhile_cons_of_pos continues, stream, streamChunks_cons found finish, if_neg last, all,
            contents_append, List.length_append, List.append_assoc] at later ⊢
          split at later
          · exact ⟨by rw [later.1], later.2⟩
          · split at later
            · exact ⟨by rw [later.1], later.2⟩
            · exact ⟨by rw [later.1, Nat.add_assoc], later.2⟩

/-! ### A whole chat -/

variable (python chat)

/-- The set up comes to the first line, if it is sent and there is one. -/
theorem connect_setup_cases (peer : Peer) (requestId : Bytes) (unitName : String) :
    let result := connect peer >>= UnitManagerClient.setup python peer requestId unitName
    let sends := JsonLineClient.Sends (peer.takes 0) (UnitManagerClient.setupMessage requestId unitName)
    (¬ (peer.accepts = true ∧ sends) ∧ ∃ error, result = .error (.builtin error)) ∨
      (peer.accepts = true ∧ sends) ∧
        match peer.lines with
        | [] => result = .error peer.runsOut
        | line :: lines =>
          match UnitManagerClient.setupResult python unitName line with
          | .error exc => result = .error exc
          | .ok workId => ∃ client, result = .ok (workId, client) ∧ client.lines = lines ∧
              client.runsOut peer.closes = peer.runsOut := by
  intro result sends
  by_cases accepts : peer.accepts = true
  · have connected : connect peer = .ok ⟨[], peer.chunks⟩ := if_pos accepts
    -- connected, the request may still fail to be sent
    rcases JsonLineClient.send_cases (peer.takes 0) (UnitManagerClient.setupMessage requestId unitName) with
      ⟨isSent, sent⟩ | ⟨unsent, error, failed⟩
    · refine .inr ⟨⟨accepts, isSent⟩, ?_⟩
      have spec := JsonLineClient.receive_eq python peer.closes ⟨[], peer.chunks⟩
      have run : result = (JsonLineClient.receive python peer.closes ⟨[], peer.chunks⟩ >>= fun received => do
          ensureSuccess python received.1 (unitName ++ " setup")
          .ok (← UnitManagerClient.workIdOf unitName received.1, received.2)) := by
        simp only [result, connected]
        show UnitManagerClient.setup python peer requestId unitName ⟨[], peer.chunks⟩ = _
        rw [UnitManagerClient.setup, sent]
        rfl
      rw [run]
      unfold Peer.lines
      -- the set up is what the first line says, or its absence
      cases found : JsonLineClient.lines ⟨[], peer.chunks⟩ with
      | nil =>
        rw [found] at spec
        rw [spec]
        rfl
      | cons line lines =>
        rw [found] at spec
        obtain ⟨after, read, left, out, -⟩ := spec
        simp only [read, UnitManagerClient.setupResult]
        cases JsonLineClient.decode python line with
        | error exc => rfl
        | ok response =>
          cases success : ensureSuccess python response (unitName ++ " setup") with
          | error exc => simp only [success, Except.map, bind, Except.bind]
          | ok done =>
            cases workId : UnitManagerClient.workIdOf unitName response with
            | error exc => simp only [success, workId, Except.map, bind, Except.bind]
            | ok madeId =>
              simp only [success, workId, Except.map, bind, Except.bind]
              exact ⟨after, rfl, left, out⟩
    · refine .inl ⟨fun both => unsent both.2, error, ?_⟩
      simp only [result, connected]
      show UnitManagerClient.setup python peer requestId unitName ⟨[], peer.chunks⟩ = _
      rw [UnitManagerClient.setup, failed]
      rfl
  · refine .inl ⟨fun both => accepts both.1, .osError, ?_⟩
    have refused : connect peer = .error (.builtin .osError) := if_neg accepts
    simp only [result, refused]
    rfl

theorem setup_cases (peer : Peer) :
    let result := connect peer >>= UnitManagerClient.setup python peer chat.setupId "rkllm"
    let sends := JsonLineClient.Sends (peer.takes 0) (UnitManagerClient.setupMessage chat.setupId "rkllm")
    (¬ (peer.accepts = true ∧ sends) ∧ ∃ error, result = .error (.builtin error)) ∨
      (peer.accepts = true ∧ sends) ∧
        match peer.lines with
        | [] => result = .error peer.runsOut
        | line :: lines =>
          match setupResult python line with
          | .error exc => result = .error exc
          | .ok workId => ∃ client, result = .ok (workId, client) ∧ client.lines = lines ∧
              client.runsOut peer.closes = peer.runsOut :=
  connect_setup_cases python peer chat.setupId "rkllm"

/-- A chat fails before its stream, or it is the stream of the lines after the first. -/
theorem runRkllmStream_cases (peer : Peer) (prompt : Bytes) :
    (∃ exc, runRkllmStream python chat peer prompt = ([], some exc) ∧
        (Settled python chat peer prompt ↔ exc.IsUnitManagerError = true)) ∨
      ∃ lines, runRkllmStream python chat peer prompt = UnitManagerClient.streamLines python peer.runsOut lines ∧
        (Settled python chat peer prompt ↔
          match lines.dropWhile (goesOn python) with
          | [] => peer.runsOut.IsUnitManagerError = true
          | last :: _ => settles python last = true) := by
  unfold runRkllmStream Settled
  rcases setup_cases python chat peer with ⟨unsent, error, failed⟩ | ⟨sent, spec⟩
  · refine .inl ⟨_, by rw [failed], iff_of_false (fun settled => unsent ⟨settled.1, settled.2.1⟩)
      (by simp [Exc.IsUnitManagerError])⟩
  · cases found : peer.lines with
    | nil =>
      rw [found] at spec
      exact .inl ⟨_, by rw [spec], by simp [sent]⟩
    | cons line lines =>
      rw [found] at spec
      cases reply : setupResult python line with
      | error exc =>
        simp only [reply] at spec ⊢
        exact .inl ⟨_, by rw [spec], by simp [sent]⟩
      | ok workId =>
        simp only [reply] at spec ⊢
        obtain ⟨client, set, left, out⟩ := spec
        rw [set]
        rcases JsonLineClient.send_cases (peer.takes 1)
          (UnitManagerClient.inferenceMessage chat.inferenceId workId prompt) with
            ⟨isSent, ok⟩ | ⟨unsent, error, failed⟩
        · refine .inr ⟨lines, ?_, by simp [sent, isSent]⟩
          simp only [rkllmStream, ok, UnitManagerClient.streamLoop_eq, left, out]
        · refine .inl ⟨_, by simp only [rkllmStream, failed]; rfl, ?_⟩
          exact iff_of_false (fun settled => unsent settled.2.2.1) (by simp [Exc.IsUnitManagerError])

variable {python chat} in
/-- A chat whose loop ends with a `UnitManagerError` reports it, and with another exception lets it out. -/
theorem terminated_of_raised {peer : Peer} {prompt : Bytes} {exc : Exc} {output : Output}
    (run : streamChunks chat 1 (runRkllmStream python chat peer prompt).1
      (runRkllmStream python chat peer prompt).2 = output)
    (events : output.events = chat.contents 1 (deltas (runRkllmStream python chat peer prompt).1))
    (raised : output.raised = some exc) :
    Terminated chat (deltas (runRkllmStream python chat peer prompt).1) (streamChatCompletion python chat peer prompt) ↔
      exc.IsUnitManagerError = true := by
  simp only [streamChatCompletion, run, raised, events]
  cases exc with
  | unitManagerError message code => exact iff_of_true ⟨rfl, _, .inr ⟨message, code, rfl⟩, rfl⟩ rfl
  | builtin error => exact iff_of_false (fun terminated => by cases terminated.1) Bool.false_ne_true

/-- A stream is properly terminated exactly when it is settled. -/
theorem terminated_iff (python : Python) (chat : Chat) (peer : Peer) (prompt : Bytes) :
    Terminated chat (deltas (runRkllmStream python chat peer prompt).1) (streamChatCompletion python chat peer prompt) ↔
      Settled python chat peer prompt := by
  rcases runRkllmStream_cases python chat peer prompt with
    ⟨exc, failed, settled⟩ | ⟨lines, stream, settled⟩
  · rw [settled]
    have run : streamChunks chat 1 (runRkllmStream python chat peer prompt).1
        (runRkllmStream python chat peer prompt).2 = ⟨[], some exc⟩ := by
      rw [failed]
      rfl
    have none_said : [] = chat.contents 1 (deltas (runRkllmStream python chat peer prompt).1) := by
      rw [failed]
      rfl
    exact terminated_of_raised run none_said rfl
  · rw [settled]
    have spec := streamChunks_streamLines python chat peer.runsOut lines 1
    simp only [← stream] at spec
    cases ends : lines.dropWhile (goesOn python) with
    | nil =>
      -- the lines ran out, and the client raised
      simp only [ends] at spec
      exact terminated_of_raised rfl spec.1 spec.2
    | cons last rest =>
      simp only [ends] at spec
      have stops : ¬ goesOn python last = true := by
        have := List.head?_dropWhile_not (goesOn python) lines
        rw [ends] at this
        simpa using this
      cases finish : finishOf python last with
      | error exc =>
        simp only [finish] at spec
        simp only [settles, finish]
        exact terminated_of_raised rfl spec.1 spec.2
      | ok finishReason =>
        simp only [finish] at spec
        simp only [goesOn, finish, Bool.not_eq_true, Bool.not_eq_false'] at stops
        simp only [settles, finish, stops, iff_true]
        refine ⟨?_, _, .inl rfl, ?_⟩
        · simp only [streamChatCompletion, spec.2]
        · simp only [streamChatCompletion, spec.2, spec.1]
          rw [Nat.add_comm]

/-- Nobody listens. -/
def refusing : Peer := ⟨false, fun _ => true, [], true⟩

/-- A refused connection leaves the generator as an exception, after the role chunk. -/
theorem refused_not_terminated : ¬ ∀ (python : Python) (chat : Chat) (peer : Peer) (prompt : Bytes),
    Terminated chat (deltas (runRkllmStream python chat peer prompt).1)
    (streamChatCompletion python chat peer prompt) := by
  intro always
  have terminated := always ⟨fun _ => .error .jsonDecodeError, fun _ => [], fun _ => none, fun _ => none⟩
    ⟨ascii "rkllm-local", ascii "chatcmpl-1", fun _ => 0, ascii "rkllm_setup_0_1", ascii "rkllm_infer_0_2"⟩ refusing
    (ascii "User: hello")
  cases terminated.1

end

end EdgeFlow.Gateway
