import EdgeFlow.Gateway.Chat
import EdgeFlow.Web.Sse

/-! A streamed chat from the node's messages to the web client, against the same chat
that is not streamed.
-/

set_option autoImplicit false

namespace EdgeFlow.System
open Library Library.Byte Gateway

/-- A message of the stream. -/
structure StreamMessage where
  delta : Json.Text
  finish : Bool

/-- A line that the gateway takes for a successful message. -/
def Reads (python : Python) (line : Bytes) (message : StreamMessage) : Prop :=
  ∃ data finish, UnitManagerClient.lineData python line = .ok data ∧
    data.get "delta" (.str []) = .ok (.str message.delta.bytes) ∧
    data.get "finish" (.bool false) = .ok finish ∧ finish.truthy = message.finish

/-- The chat is set up, and the messages are the next lines. -/
def Carries (python : Python) (chat : Chat) (peer : Peer) (prompt : Bytes) (messages : List StreamMessage) : Prop :=
  peer.accepts = true ∧ JsonLineClient.Sends (peer.takes 0) (UnitManagerClient.setupMessage chat.setupId "rkllm") ∧
  ∃ reply lines more workId, peer.lines = reply :: (lines ++ more) ∧ setupResult python reply = .ok workId ∧
    JsonLineClient.Sends (peer.takes 1) (UnitManagerClient.inferenceMessage chat.inferenceId workId prompt) ∧
    List.Forall₂ (Reads python) lines messages

/-- The messages that are read: nothing is read after the first that says `finish`. -/
def upToFinish : List StreamMessage → List StreamMessage
  | [] => []
  | message :: rest => if message.finish then [message] else message :: upToFinish rest

/-- The deltas that are not empty. -/
def spoken (messages : List StreamMessage) : List Json.Text :=
  ((upToFinish messages).map (·.delta)).filter fun delta => !delta.bytes.isEmpty

/-! ## What the gateway makes of the messages -/

section
variable {python : Python} {chat : Chat}

theorem deltas_read {data : Value} {delta : Json.Text} (read : data.get "delta" (.str []) = .ok (.str delta.bytes))
    (rest : List Value) :
    deltas (data :: rest) = (if delta.bytes.isEmpty then [] else [.str delta.bytes]) ++ deltas rest := by
  rw [deltas_cons]
  congr 1
  simp only [deltas, List.filterMap_cons, List.filterMap_nil, read, Value.truthy_str]
  by_cases empty : delta.bytes.isEmpty = true <;> simp [empty]

theorem spoken_cons (message : StreamMessage) (rest : List StreamMessage) :
    spoken (message :: rest) = (if message.delta.bytes.isEmpty then [] else [message.delta]) ++
      (if message.finish then [] else spoken rest) := by
  unfold spoken
  rw [upToFinish]
  cases message.finish <;> cases empty : message.delta.bytes.isEmpty <;> simp [empty]

/-- The messages come out of the stream as their deltas, and the loops over them end well. -/
theorem streamLines_messages (out : Exc) {lines : List Bytes} {messages : List StreamMessage}
    (read : List.Forall₂ (Reads python) lines messages) (finished : ∃ message ∈ messages, message.finish = true)
    (more : List Bytes) :
    ∃ data, UnitManagerClient.streamLines python out (lines ++ more) = (data, none) ∧
      deltas data = (spoken messages).map (fun delta => .str delta.bytes) ∧
      chunksOf data none = .ok (deltas data) ∧
      ∃ last rest finish, (lines ++ more).dropWhile (goesOn python) = last :: rest ∧
        finishOf python last = .ok finish := by
  induction read with
  | nil =>
    obtain ⟨message, member, -⟩ := finished
    cases member
  | @cons line message lines messages here later ih =>
    obtain ⟨data, finish, brings, delta, readFinish, isFinish⟩ := here
    have finishLine : finishOf python line = .ok finish := by
      rw [finishOf, brings]
      exact readFinish
    have chunks (rest : List Value) (taken : chunksOf rest none = .ok (deltas rest)) :
        chunksOf (data :: rest) none = .ok (deltas (data :: rest)) := by
      simp only [chunksOf, delta, taken, deltas_read delta, Value.truthy_str, bind, Except.bind]
      by_cases empty : message.delta.bytes.isEmpty = true <;> simp [empty]
    by_cases last : message.finish = true
    · -- the stream ends here, whatever lines are left
      have stops : ¬ goesOn python line = true := by simp [goesOn, finishLine, isFinish, last]
      refine ⟨[data], ?_, ?_, chunks [] rfl, line, lines ++ more, finish, ?_, finishLine⟩
      · simp only [List.cons_append, UnitManagerClient.streamLines, brings, readFinish, isFinish, last, if_true]
      · rw [deltas_read delta, spoken_cons, last]
        by_cases empty : message.delta.bytes.isEmpty = true <;> simp [empty, deltas]
      · rw [List.cons_append, List.dropWhile_cons_of_neg stops]
    · have continues : goesOn python line = true := by simp [goesOn, finishLine, isFinish, last]
      have finishedLater : ∃ message ∈ messages, message.finish = true := by
        obtain ⟨other, member, isLast⟩ := finished
        rcases List.mem_cons.mp member with rfl | member
        · exact absurd isLast last
        · exact ⟨other, member, isLast⟩
      obtain ⟨rest, stream, spokenRest, taken, final, after, finish', ends, finishFinal⟩ := ih finishedLater
      refine ⟨data :: rest, ?_, ?_, chunks rest taken, final, after, finish', ?_, finishFinal⟩
      · have notFinish : ¬ finish.truthy = true := by rw [isFinish]; exact last
        simp only [List.cons_append, UnitManagerClient.streamLines, brings, readFinish, if_neg notFinish, stream]
      · rw [deltas_read delta, spoken_cons, spokenRest, if_neg last, List.map_append]
        by_cases empty : message.delta.bytes.isEmpty = true <;> simp [empty]
      · rw [List.cons_append, List.dropWhile_cons_of_pos continues, ends]

theorem join_strings (texts : List Json.Text) :
    join (texts.map fun text => .str text.bytes) = .ok (texts.flatMap (·.bytes)) := by
  induction texts with
  | nil => rfl
  | cons text texts ih =>
    simp only [List.map_cons, join, ih, bind, Except.bind, List.flatMap_cons]

/-- A chat that carries its messages to the end, streamed and not. -/
theorem chat_messages {peer : Peer} {prompt : Bytes} {messages : List StreamMessage}
    (carries : Carries python chat peer prompt messages) (finished : ∃ message ∈ messages, message.finish = true) :
    runChatCompletion python chat peer prompt = .ok ((spoken messages).flatMap (·.bytes)) ∧
      (streamChatCompletion python chat peer prompt).events = chat.roleChunk ::
        (chat.contents 1 ((spoken messages).map fun delta => .str delta.bytes) ++
          [chat.finishChunk ((spoken messages).length + 1), doneEvent]) := by
  obtain ⟨accepts, sends, reply, lines, more, workId, shape, set, sends', read⟩ := carries
  obtain ⟨data, stream, said, taken, last, rest, finish, ends, finishLast⟩ :=
    streamLines_messages peer.runsOut read finished more
  have run : runRkllmStream python chat peer prompt = (data, none) := by
    rcases setup_cases python chat peer with ⟨unsent, -⟩ | ⟨-, spec⟩
    · exact absurd ⟨accepts, sends⟩ unsent
    · simp only [shape, set] at spec
      obtain ⟨client, connected, left, out⟩ := spec
      rw [runRkllmStream, connected]
      rcases JsonLineClient.send_cases (peer.takes 1)
        (UnitManagerClient.inferenceMessage chat.inferenceId workId prompt) with ⟨-, sent⟩ | ⟨unsent, -⟩
      · simp only [rkllmStream, sent, UnitManagerClient.streamLoop_eq, left, out, stream]
      · exact absurd sends' unsent
  have spec := streamChunks_streamLines python chat peer.runsOut (lines ++ more) 1
  simp only [stream, ends, finishLast] at spec
  constructor
  · simp only [runChatCompletion, run, taken, bind, Except.bind, said, join_strings]
  · simp only [streamChatCompletion, run, spec.2, spec.1, said, List.length_map]
    rw [Nat.add_comm]

end

/-! ## The chunks as JSON -/

def key (name : String) (isAscii : ∀ b ∈ ascii name, Utf8.IsAscii b := by decide +kernel) :
    Json.Text := .ofAscii name isAscii

def chunkJson (modelId requestId : Json.Text) (created : Int) (delta : List (Json.Text × Json))
    (finishReason : Json) : Json :=
  .object [(key "id", .string requestId), (key "object", .string (key "chat.completion.chunk")),
    (key "created", .number (.ofInt created)), (key "model", .string modelId),
    (key "choices", .array [.object [(key "index", .number (.ofInt 0)), (key "delta", .object delta),
      (key "finish_reason", finishReason)]])]

section
variable (modelId requestId : Json.Text) (created : Int)

theorem dumps_content {delta : Json.Text} (nonempty : delta.bytes.isEmpty = false) :
    (chatCompletionChunk modelId.bytes (.str delta.bytes) requestId.bytes created false []).dumps =
      (chunkJson modelId requestId created [(key "content", .string delta)] .null).dumps := by
  have spoken : (Value.str delta.bytes).truthy = true := by rw [Value.truthy_str, nonempty]; rfl
  simp only [chatCompletionChunk, spoken]
  rfl

theorem dumps_role :
    (chatCompletionChunk modelId.bytes (.str []) requestId.bytes created false (ascii "assistant")).dumps =
      (chunkJson modelId requestId created [(key "role", .string (key "assistant"))] .null).dumps := rfl

theorem dumps_finish :
    (chatCompletionChunk modelId.bytes (.str []) requestId.bytes created true []).dumps =
      (chunkJson modelId requestId created [] (.string (key "stop"))).dumps := rfl

end

/-! ## The events of a response -/

def dataLine (data : Bytes) : Bytes := ascii "data: " ++ data

def framed (data : Bytes) : Bytes := dataLine data ++ [newline, newline]

/-- A data text that an event can carry: one line of printable characters. -/
def Carried (data : Bytes) : Prop := Utf8.Valid data ∧ ∀ b ∈ data, 0x20 ≤ b

theorem carried_dumps (json : Json) : Carried json.dumps := ⟨json.dumps_valid, json.dumps_printable⟩

theorem notMem_of_carried {data : Bytes} (carried : Carried data) {b : Byte} (control : b < 0x20) :
    b ∉ dataLine data := by
  intro member
  have printable : 0x20 ≤ b := by
    rcases List.mem_append.mp member with inPrefix | inData
    · have all : ∀ c ∈ ascii "data: ", 0x20 ≤ c := by decide +kernel
      exact all b inPrefix
    · exact carried.2 b inData
  exact UInt8.not_lt.mpr printable control

theorem paragraphs_framed {datas : List Bytes} (carried : ∀ data ∈ datas, Carried data) :
    Lines.paragraphs newline (datas.flatMap framed) = datas.map dataLine ++ [[]] := by
  induction datas with
  | nil => rfl
  | cons data datas ih =>
    have absent : newline ∉ dataLine data := notMem_of_carried (carried data List.mem_cons_self) (by decide)
    have later := ih fun other member => carried other (List.mem_cons_of_mem _ member)
    have shape : (data :: datas).flatMap framed = dataLine data ++ newline :: newline :: datas.flatMap framed := by
      simp [framed]
    rw [shape, Lines.paragraphs_cons absent, later]
    rfl

theorem framed_valid {datas : List Bytes} (carried : ∀ data ∈ datas, Carried data) :
    Utf8.Valid (datas.flatMap framed) ∧ (13 : Byte) ∉ datas.flatMap framed := by
  induction datas with
  | nil => exact ⟨Utf8.valid_nil, List.not_mem_nil⟩
  | cons data datas ih =>
    obtain ⟨valid, noReturn⟩ := ih fun other member => carried other (List.mem_cons_of_mem _ member)
    have here := carried data List.mem_cons_self
    have ends : Utf8.Valid [newline, newline] := by decide
    have isAscii : Utf8.Valid (ascii "data: ") := by decide
    refine ⟨((isAscii.append here.1).append ends).append valid, fun member => ?_⟩
    rcases List.mem_append.mp member with inFrame | later
    · rcases List.mem_append.mp inFrame with inLine | inEnd
      · exact notMem_of_carried here (by decide) inLine
      · exact absurd inEnd (by decide)
    · exact noReturn later

/-- However a response of events is cut, the client processes them one by one. -/
theorem streamChatCompletion_framed (js : Web.JavaScript) {datas chunks : List Bytes}
    (carried : ∀ data ∈ datas, Carried data) (cut : chunks.flatten = datas.flatMap framed) :
    Web.streamChatCompletion js ⟨true, some chunks⟩ =
      Web.processEvents js ⟨[], []⟩ (datas.map dataLine ++ [[]]) := by
  obtain ⟨valid, noReturn⟩ := framed_valid carried
  have plain : Utf8.TextDecoder.new.Plain chunks.flatten := by
    right
    rw [cut]
    cases datas with
    | nil => decide
    | cons data datas =>
      -- the first byte is that of the field name
      rintro ⟨rest, same⟩
      cases same
  rw [← paragraphs_framed carried, ← cut]
  exact Web.readAll_eq (fun _ => rfl) plain (cut ▸ valid) (by rw [cut]; exact noReturn)

/-! ## What the client makes of the chunks -/

section
variable {js : Web.JavaScript} {modelId requestId : Json.Text} {created : Int}

theorem parseSseData_dataLine (members : List (Json.Text × Json)) :
    Web.parseSseData (dataLine (Json.object members).dumps) = (Json.object members).dumps := by
  have begins : (Json.object members).dumps.head? = some openBrace := rfl
  have ends : (Json.object members).dumps.getLast? = some closeBrace := by
    show (openBrace :: (Json.dumpsMembers members ++ [closeBrace])).getLast? = _
    rw [← List.cons_append, List.getLast?_concat]
  have visible : ∀ word ∈ Web.spaces, word.head? ≠ some openBrace ∧ word.getLast? ≠ some closeBrace := by decide
  refine Web.parseSseData_data begins ends visible fun member => ?_
  exact absurd (Json.dumps_printable _ _ member) (by decide)

variable (modelId requestId created) in
theorem property_content (delta : List (Json.Text × Json)) (finishReason : Json) :
    (Web.property "choices" (chunkJson modelId requestId created delta finishReason) >>= Web.first >>=
      Web.property "delta" >>= Web.property "content") = Web.property "content" (.object delta) := rfl

/-- What a chunk comes to depends on the content of its delta. -/
theorem processEvent_chunk (progress : Web.Progress) (delta : List (Json.Text × Json)) (finishReason : Json) :
    Web.processEvent js progress (dataLine (chunkJson modelId requestId created delta finishReason).dumps) =
      match Web.property "content" (.object delta) with
      | some content =>
        if Web.truthy js content then
          .ok ⟨progress.content ++ Web.text js content,
            progress.calls ++ [(content, progress.content ++ Web.text js content)]⟩
        else .ok progress
      | none => .ok progress := by
  have isData : ¬ ((chunkJson modelId requestId created delta finishReason).dumps = [] ∨
      (chunkJson modelId requestId created delta finishReason).dumps = ascii "[DONE]") := by
    rintro (same | same) <;> cases same
  have noError : (Web.property "error" (chunkJson modelId requestId created delta finishReason) >>=
      Web.property "message") = none := rfl
  have parsed := Json.parse_dumps (chunkJson modelId requestId created delta finishReason)
  have payload := parseSseData_dataLine [(key "id", .string requestId),
    (key "object", .string (key "chat.completion.chunk")), (key "created", .number (.ofInt created)),
    (key "model", .string modelId), (key "choices", .array [.object [(key "index", .number (.ofInt 0)),
      (key "delta", .object delta), (key "finish_reason", finishReason)]])]
  rw [← chunkJson] at payload
  rw [← property_content modelId requestId created delta finishReason]
  unfold Web.processEvent
  simp only [payload, if_neg isData, parsed]
  rfl

variable (js modelId requestId) in
/-- The content chunks are appended one by one, and `onDelta` is called for each. -/
theorem processEvents_contents (created : Nat → Int) (deltas : List Json.Text)
    (nonempty : ∀ delta ∈ deltas, delta.bytes.isEmpty = false) (index : Nat) (progress : Web.Progress) :
    ∃ after, Web.processEvents js progress (deltas.mapIdx fun i delta => dataLine (chunkJson modelId requestId
        (created (index + i)) [(key "content", .string delta)] .null).dumps) = (after, none) ∧
      after.content = progress.content ++ deltas.flatMap (·.bytes) ∧
      after.calls.map (·.1) = progress.calls.map (·.1) ++ deltas.map .string := by
  induction deltas generalizing index progress with
  | nil => exact ⟨progress, rfl, by simp, by simp⟩
  | cons delta deltas ih =>
    have spoken : Web.truthy js (.string delta) = true := by simp [Web.truthy, nonempty delta List.mem_cons_self]
    have content : Web.property "content" (.object [(key "content", .string delta)]) = some (.string delta) := rfl
    obtain ⟨after, processed, text, calls⟩ := ih (fun other member => nonempty other (List.mem_cons_of_mem _ member))
      (index + 1) ⟨progress.content ++ delta.bytes, progress.calls ++
        [(.string delta, progress.content ++ delta.bytes)]⟩
    refine ⟨after, ?_, by simp [text], by simp [calls]⟩
    rw [List.mapIdx_cons, Web.processEvents, processEvent_chunk]
    simp only [content, spoken, if_true, Web.text]
    have shifted : (fun i delta => dataLine (chunkJson modelId requestId (created (index + (i + 1)))
        [(key "content", .string delta)] .null).dumps) = fun i delta => dataLine (chunkJson modelId requestId
          (created (index + 1 + i)) [(key "content", .string delta)] .null).dumps := by
      funext i delta
      rw [Nat.add_assoc, Nat.add_comm 1]
    rw [shifted]
    exact processed

end

/-! ## End to end -/

theorem map_mapIdx {α β γ : Type} (f : β → γ) (g : Nat → α → β) (items : List α) :
    (items.mapIdx g).map f = items.mapIdx fun i item => f (g i item) := by
  simp only [List.mapIdx_eq_zipIdx_map, List.map_map, Function.comp_def]

/-- The data of the events of a chat. -/
def chatData (modelId requestId : Json.Text) (created : Nat → Int) (deltas : List Json.Text) : List Bytes :=
  (chunkJson modelId requestId (created 0) [(key "role", .string (key "assistant"))] .null).dumps ::
    ((deltas.mapIdx fun i delta =>
        (chunkJson modelId requestId (created (1 + i)) [(key "content", .string delta)] .null).dumps) ++
      [(chunkJson modelId requestId (created (deltas.length + 1)) [] (.string (key "stop"))).dumps, ascii "[DONE]"])

section
variable {chat : Chat} {modelId requestId : Json.Text} (isModel : chat.rkllmModelId = modelId.bytes)
  (isRequest : chat.requestId = requestId.bytes)

include isModel isRequest

theorem contents_framed (deltas : List Json.Text) (nonempty : ∀ delta ∈ deltas, delta.bytes.isEmpty = false)
    (index : Nat) : chat.contents index (deltas.map fun delta => .str delta.bytes) = deltas.mapIdx fun i delta =>
      framed (chunkJson modelId requestId (chat.created (index + i)) [(key "content", .string delta)] .null).dumps := by
  induction deltas generalizing index with
  | nil => rfl
  | cons delta deltas ih =>
    have later := ih (fun other member => nonempty other (List.mem_cons_of_mem _ member)) (index + 1)
    rw [List.map_cons, Chat.contents, later, List.mapIdx_cons]
    congr 1
    · rw [Chat.contentChunk, isModel, isRequest, sse, dumps_content _ _ _ (nonempty delta List.mem_cons_self)]
      rfl
    · congr 1
      funext i delta
      rw [Nat.add_assoc, Nat.add_comm 1]

variable (modelId requestId) in
theorem events_framed (deltas : List Json.Text) (nonempty : ∀ delta ∈ deltas, delta.bytes.isEmpty = false) :
    chat.roleChunk :: (chat.contents 1 (deltas.map fun delta => .str delta.bytes) ++
      [chat.finishChunk (deltas.length + 1), doneEvent]) =
        (chatData modelId requestId chat.created deltas).map framed := by
  have role : chat.roleChunk = framed (chunkJson modelId requestId (chat.created 0)
      [(key "role", .string (key "assistant"))] .null).dumps := by
    rw [Chat.roleChunk, isModel, isRequest, sse, dumps_role]
    rfl
  have finish : chat.finishChunk (deltas.length + 1) = framed (chunkJson modelId requestId
      (chat.created (deltas.length + 1)) [] (.string (key "stop"))).dumps := by
    rw [Chat.finishChunk, isModel, isRequest, sse, dumps_finish]
    rfl
  have done : doneEvent = framed (ascii "[DONE]") := by decide
  rw [role, finish, done, contents_framed isModel isRequest deltas nonempty, chatData, List.map_cons, List.map_append,
    map_mapIdx]
  rfl

end

theorem chatData_carried (modelId requestId : Json.Text) (created : Nat → Int) (deltas : List Json.Text) :
    ∀ data ∈ chatData modelId requestId created deltas, Carried data := by
  intro data member
  have done : Carried (ascii "[DONE]") := ⟨by decide +kernel, by decide +kernel⟩
  simp only [chatData, List.mem_cons, List.mem_append, List.mem_mapIdx, List.not_mem_nil, or_false] at member
  rcases member with rfl | ⟨i, inside, rfl⟩ | rfl | rfl
  · exact carried_dumps _
  · exact carried_dumps _
  · exact carried_dumps _
  · exact done

theorem spoken_nonempty (messages : List StreamMessage) : ∀ delta ∈ spoken messages, delta.bytes.isEmpty = false := by
  intro delta member
  simpa using (List.mem_filter.mp member).2

/-- The client appends the deltas and calls `onDelta` with them, and nothing else comes of the events. -/
theorem processEvents_chatData (js : Web.JavaScript) (modelId requestId : Json.Text) (created : Nat → Int)
    {deltas : List Json.Text} (nonempty : ∀ delta ∈ deltas, delta.bytes.isEmpty = false) :
    ∃ progress, Web.processEvents js ⟨[], []⟩ ((chatData modelId requestId created deltas).map dataLine ++ [[]]) =
        (progress, none) ∧
      progress.content = deltas.flatMap (·.bytes) ∧ progress.calls.map (·.1) = deltas.map .string := by
  obtain ⟨progress, processed, content, calls⟩ :=
    processEvents_contents js modelId requestId created deltas nonempty 1 ⟨[], []⟩
  have role : Web.property "content" (.object [(key "role", .string (key "assistant"))]) = none := rfl
  have finish : Web.property "content" (.object []) = none := rfl
  have done : Web.processEvent js progress (dataLine (ascii "[DONE]")) = .ok progress := by
    have data : Web.parseSseData (dataLine (ascii "[DONE]")) = ascii "[DONE]" := by decide +kernel
    simp only [Web.processEvent, data, or_true, if_true]
  have blank : Web.processEvent js progress [] = .ok progress := by
    have data : Web.parseSseData [] = [] := by decide +kernel
    simp only [Web.processEvent, data, true_or, if_true]
  refine ⟨progress, ?_, by simpa using content, by simpa using calls⟩
  rw [chatData, List.map_cons, List.map_append, map_mapIdx, List.cons_append, Web.processEvents,
    processEvent_chunk]
  simp only [role, List.append_assoc, Web.processEvents_append, processed, List.map_cons, List.map_nil,
    List.cons_append,
    List.nil_append, Web.processEvents, processEvent_chunk, finish, done, blank]

/-- A streamed chat, cut up in any way, gives the web client the text of the chat that is not streamed,
and the deltas that are not empty one by one. -/
theorem chats_agree {js : Web.JavaScript} {python : Python} {chat : Chat} {peer : Peer} {prompt : Bytes}
    {messages : List StreamMessage} {chunks : List Bytes} (modelValid : Utf8.Valid chat.rkllmModelId)
    (requestValid : Utf8.Valid chat.requestId) (carries : Carries python chat peer prompt messages)
    (finished : ∃ last ∈ messages.getLast?, last.finish = true)
    (cut : chunks.flatten = (streamChatCompletion python chat peer prompt).events.flatten) :
    ∃ content progress, runChatCompletion python chat peer prompt = .ok content ∧
      Web.streamChatCompletion js ⟨true, some chunks⟩ = (progress, none) ∧
      progress.content = content ∧ progress.calls.map (·.1) = (spoken messages).map .string := by
  have finishes : ∃ message ∈ messages, message.finish = true := by
    obtain ⟨last, isLast, finish⟩ := finished
    exact ⟨last, List.mem_of_getLast? isLast, finish⟩
  obtain ⟨whole, events⟩ := chat_messages carries finishes
  have nonempty := spoken_nonempty messages
  rw [events_framed ⟨_, modelValid⟩ ⟨_, requestValid⟩ rfl rfl _ nonempty] at events
  rw [events, ← List.flatMap_def] at cut
  obtain ⟨progress, processed, content, calls⟩ :=
    processEvents_chatData js ⟨_, modelValid⟩ ⟨_, requestValid⟩ chat.created nonempty
  refine ⟨_, progress, whole, ?_, content, calls⟩
  rw [streamChatCompletion_framed js (chatData_carried _ _ _ _) cut]
  exact processed

/-! ## A short chat -/

def setupReply : Bytes :=
  ascii "\x7b\"work_id\":\"rkllm.0\",\"object\":\"None\",\"data\":\"None\",\"error\":\x7b\"code\":0,\"message\":\"\"\x7d\x7d"

def streamLine (delta : Bytes) (finish : String) : Bytes :=
  ascii "\x7b\"object\":\"rkllm.result.stream\",\"data\":\x7b\"delta\":\"" ++ delta ++
    ascii "\",\"index\":0,\"finish\":" ++
    ascii finish ++ ascii "\x7d,\"error\":\x7b\"code\":0,\"message\":\"\"\x7d\x7d"

/-- A Chinese character, as UTF-8. -/
def fu : Bytes := [0xE7, 0xA6, 0x8F]

def shortChat : Chat where
  rkllmModelId := ascii "rkllm-local"
  requestId := ascii "chatcmpl-1"
  created n := n
  setupId := ascii "rkllm_setup_0_1"
  inferenceId := ascii "rkllm_infer_0_2"

def shortPeer : Peer where
  accepts := true
  takes _ := true
  chunks := [setupReply ++ newline :: streamLine fu "false" ++ [newline], streamLine (ascii "") "false" ++ [newline],
    streamLine (ascii "!") "true" ++ [newline]]
  closes := true

def shortMessages : List StreamMessage :=
  [⟨⟨fu, by decide⟩, false⟩, ⟨⟨[], by decide⟩, false⟩, ⟨⟨ascii "!", by decide⟩, true⟩]

/-- The delta and `finish` of a line, where the delta is a text. -/
def messageOf (python : Python) (line : Bytes) : Except Exc (Option Bytes × Bool) := do
  let data ← UnitManagerClient.lineData python line
  let delta ← data.get "delta" (.str [])
  let finish ← data.get "finish" (.bool false)
  .ok (match delta with | .str s => some s | _ => none, finish.truthy)

theorem reads_of_messageOf {python : Python} {line : Bytes} {message : StreamMessage}
    (read : messageOf python line = .ok (some message.delta.bytes, message.finish)) : Reads python line message := by
  unfold messageOf at read
  cases data : UnitManagerClient.lineData python line with
  | error exc =>
    rw [data] at read
    cases read
  | ok dataField =>
    cases delta : dataField.get "delta" (.str []) with
    | error exc => simp [data, delta, bind, Except.bind] at read
    | ok deltaField =>
      cases finish : dataField.get "finish" (.bool false) with
      | error exc => simp [data, delta, finish, bind, Except.bind] at read
      | ok finishField =>
        simp only [data, delta, finish, bind, Except.bind, Except.ok.injEq, Prod.mk.injEq] at read
        obtain ⟨text, same⟩ := read
        refine ⟨dataField, finishField, data, ?_, finish, same⟩
        cases deltaField <;> cases text
        exact delta

/-- The response comes byte by byte. -/
theorem chats_agree_short : ∃ content progress,
    runChatCompletion plainPython shortChat shortPeer (ascii "User: fu") = .ok content ∧
      Web.streamChatCompletion ⟨fun _ => false, fun _ => []⟩ ⟨true, some
        ((streamChatCompletion plainPython shortChat shortPeer (ascii "User: fu")).events.flatten.map fun b => [b])⟩ =
          (progress, none) ∧
      progress.content = content ∧ progress.calls.map (·.1) = (spoken shortMessages).map .string := by
  have one_by_one (bytes : Bytes) : (bytes.map fun b => [b]).flatten = bytes := by
    induction bytes with
    | nil => rfl
    | cons b bytes ih => rw [List.map_cons, List.flatten_cons, ih, List.singleton_append]
  have carries : Carries plainPython shortChat shortPeer (ascii "User: fu") shortMessages := by
    refine ⟨rfl, ⟨by decide +kernel, rfl⟩, setupReply, [streamLine fu "false", streamLine [] "false",
      streamLine (ascii "!") "true"], [], ascii "rkllm.0", by decide +kernel, by decide +kernel,
      ⟨by decide +kernel, rfl⟩, ?_⟩
    refine .cons (reads_of_messageOf ?_) (.cons (reads_of_messageOf ?_) (.cons (reads_of_messageOf ?_) .nil)) <;>
      decide +kernel
  exact chats_agree (by decide) (by decide) carries ⟨_, rfl, rfl⟩ (one_by_one _)

end EdgeFlow.System
