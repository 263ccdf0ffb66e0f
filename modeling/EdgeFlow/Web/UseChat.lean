import EdgeFlow.Web.Sse

/-! `useChat.js`: the messages of the chat panel, and what of them goes into a request.

A call of `sendMessage` that waits for its response is named by its place among those that wait. What is said so
far and the answer under way are a `Conversation`, which knows nothing of messages and their ids.
-/

set_option autoImplicit false

namespace EdgeFlow.Web
open Library Library.Byte

/-- The content of a message: a string, or what a reply had in the place of one. -/
inductive Content where
  | string (text : Bytes)
  | parsed (value : Json)

inductive Role where
  | user
  | assistant
  | error
  deriving DecidableEq

structure Message where
  id : Nat
  role : Role
  content : Content
  transient : Bool
  pending : Bool

structure Request where
  messages : List (Role × Content)
  stream : Bool

namespace UseChat

/-- A call of `sendMessage` that waits. -/
structure Call where
  assistantId : Nat
  streamed : Bool

inductive Label where
  | sendMessage (text : Bytes)
  | onDelta (call : Nat) (delta : Json)
  | streamed (call : Nat)
  | replied (call : Nat) (payload : Json)
  | rejected (call : Nat) (message : Bytes)
  | clearMessages
  | setStreamEnabled (enabled : Bool)

end UseChat

open UseChat in
structure UseChat where
  nextMessageId : Nat
  messages : List Message
  streamEnabled : Bool
  isSending : Bool
  waiting : List Call
  /-- the requests that were sent, in order -/
  requests : List Request

namespace Content

section
variable (js : JavaScript)

def ofJson : Json → Content
  | .string s => .string s.bytes
  | value => .parsed value

def truthy : Content → Bool
  | .string text => !text.isEmpty
  | .parsed value => Web.truthy js value

def text : Content → Bytes
  | .string text => text
  | .parsed value => Web.text js value

/-- `+=` -/
def plus (content : Content) (delta : Json) : Content := .string (content.text js ++ Web.text js delta)

def orEmpty (content : Content) : Content := if content.truthy js then content else .string (ascii "(empty response)")

end

end Content

namespace UseChat

def greeting : Bytes := ascii "Hello! How can I help you? Send a message in the chat to get started."

def speaks (message : Message) : Bool :=
  (message.role == .user || message.role == .assistant) && !message.transient && !message.pending

def apiMessages (messages : List Message) : List (Role × Content) :=
  (messages.filter speaks).map fun message => (message.role, message.content)

/-- The first message with the id. -/
def updateMessage (id : Nat) (updater : Message → Message) : List Message → List Message
  | [] => []
  | message :: messages =>
    if message.id = id then updater message :: messages else message :: updateMessage id updater messages

section
variable (js : JavaScript) (chat : UseChat)

def createMessage (role : Role) (content : Bytes) (transient pending : Bool) : Message × UseChat :=
  (⟨chat.nextMessageId + 1, role, .string content, transient, pending⟩,
    { chat with nextMessageId := chat.nextMessageId + 1 })

def clearMessages : UseChat :=
  let (ready, chat) := chat.createMessage .assistant greeting true false
  { chat with messages := [ready] }

/-- As far as the request. -/
def sendMessage (text : Bytes) : UseChat :=
  let content := trim text
  if content = [] ∨ chat.isSending then chat
  else
    let (userMessage, chat) := chat.createMessage .user content false false
    let (assistantMessage, chat) := chat.createMessage .assistant [] false true
    let messages := chat.messages ++ [userMessage, assistantMessage]
    { chat with
      messages := messages
      isSending := true
      waiting := chat.waiting ++ [⟨assistantMessage.id, chat.streamEnabled⟩]
      requests := chat.requests ++ [⟨apiMessages messages, chat.streamEnabled⟩] }

def update (id : Nat) (updater : Message → Message) : UseChat :=
  { chat with messages := updateMessage id updater chat.messages }

/-- `finally`, behind which the call is over. -/
def leave (call : Nat) : UseChat := { chat with isSending := false, waiting := chat.waiting.eraseIdx call }

def conclude (assistantId : Nat) : UseChat :=
  chat.update assistantId fun message => { message with content := message.content.orEmpty js, pending := false }

def fail (assistantId : Nat) (error : Bytes) : UseChat :=
  let chat := { chat with messages := chat.messages.filter fun message => message.id ≠ assistantId }
  let (message, chat) := chat.createMessage .error error true false
  { chat with messages := chat.messages ++ [message] }

/-- `payload.choices?.[0]?.message?.content || ""`; nothing has a property of `null`. -/
def completeChat : Json → Option Content
  | .null => none
  | payload =>
    some (match property "choices" payload >>= first >>= property "message" >>= property "content" with
    | some content => if truthy js content then .ofJson content else .string []
    | none => .string [])

def step : Label → Option UseChat
  | .sendMessage text => some (chat.sendMessage text)
  | .onDelta call delta => do
    let waiting ← chat.waiting[call]?
    guard waiting.streamed
    some (chat.update waiting.assistantId fun message => { message with content := message.content.plus js delta })
  | .streamed call => do
    let waiting ← chat.waiting[call]?
    guard waiting.streamed
    some ((chat.conclude js waiting.assistantId).leave call)
  | .replied call payload => do
    let waiting ← chat.waiting[call]?
    guard !waiting.streamed
    let reply ← completeChat js payload
    let told := chat.update waiting.assistantId fun message => { message with content := reply }
    some ((told.conclude js waiting.assistantId).leave call)
  | .rejected call message => do
    let waiting ← chat.waiting[call]?
    some ((chat.fail waiting.assistantId message).leave call)
  | .clearMessages => some chat.clearMessages
  | .setStreamEnabled enabled => some { chat with streamEnabled := enabled }

end

def initial : UseChat :=
  clearMessages ⟨0, [], true, false, [], []⟩

end UseChat

/-! ## The conversation -/

/-- What is said, and the answer under way where it is still wanted. -/
structure Conversation where
  said : List (Role × Content)
  answer : Option Content
  /-- whether the answer that is waited for is streamed -/
  waits : Option Bool
  streamEnabled : Bool
  requests : List Request

namespace Conversation
open UseChat (Label completeChat)

def initial : Conversation := ⟨[], none, none, true, []⟩

section
variable (js : JavaScript) (conversation : Conversation)

def ask (text : Bytes) : Conversation :=
  let said := conversation.said ++ [(.user, .string text)]
  { conversation with
    said := said
    answer := some (.string [])
    waits := some conversation.streamEnabled
    requests := conversation.requests ++ [⟨said, conversation.streamEnabled⟩] }

def answered (answer : Option Content) : Conversation :=
  { conversation with
    said := conversation.said ++ (answer.map fun content => (Role.assistant, content.orEmpty js)).toList
    answer := none
    waits := none }

def step : Label → Option Conversation
  | .sendMessage text =>
    some (if trim text = [] ∨ conversation.waits.isSome then conversation else conversation.ask (trim text))
  | .onDelta 0 delta =>
    if conversation.waits = some true then
      some { conversation with answer := conversation.answer.map fun content => content.plus js delta }
    else none
  | .streamed 0 =>
    if conversation.waits = some true then some (conversation.answered js conversation.answer) else none
  | .replied 0 payload =>
    if conversation.waits = some false then
      (completeChat js payload).map fun reply =>
        conversation.answered js (conversation.answer.map fun _ => reply)
    else none
  | .rejected 0 _ =>
    if conversation.waits.isSome then some { conversation with answer := none, waits := none } else none
  | .clearMessages => some { conversation with said := [], answer := none }
  | .setStreamEnabled enabled => some { conversation with streamEnabled := enabled }
  | _ => none

end

end Conversation

/-! ## The messages show the conversation -/

namespace UseChat

/-- The conversation that the messages show. -/
def view (chat : UseChat) : Conversation where
  said := apiMessages chat.messages
  answer := (chat.messages.find? (·.pending)).map (·.content)
  waits := chat.waiting.head?.map (·.streamed)
  streamEnabled := chat.streamEnabled
  requests := chat.requests

/-- The message of an answer under way. -/
def bubble (id : Nat) (content : Content) : Message := ⟨id, .assistant, content, false, true⟩

/-- Messages that no answer under way is going to change. -/
def Settled (messages : List Message) (last : Nat) : Prop :=
  ∀ message ∈ messages, message.pending = false ∧ message.id ≤ last

structure Idle (chat : UseChat) : Prop where
  waiting : chat.waiting = []
  isSending : chat.isSending = false
  settled : Settled chat.messages chat.nextMessageId

/-- One call waits, and its message is the last, where it is still there. -/
structure Waiting (chat : UseChat) (call : Call) (before : List Message) (answer : Option Content) : Prop where
  waiting : chat.waiting = [call]
  isSending : chat.isSending = true
  messages : chat.messages = before ++ (answer.map (bubble call.assistantId)).toList
  settled : Settled before chat.nextMessageId
  others : ∀ message ∈ before, message.id ≠ call.assistantId
  made : call.assistantId ≤ chat.nextMessageId

def Orderly (chat : UseChat) : Prop := chat.Idle ∨ ∃ call before answer, chat.Waiting call before answer

/-! ### Lists of messages -/

theorem apiMessages_append (first second : List Message) :
    apiMessages (first ++ second) = apiMessages first ++ apiMessages second := by
  rw [apiMessages, List.filter_append, List.map_append]
  rfl

theorem apiMessages_bubble (id : Nat) (answer : Option Content) :
    apiMessages (answer.map (bubble id)).toList = [] := by
  cases answer <;> rfl

theorem find_settled {messages : List Message} {last : Nat} (settled : Settled messages last) :
    messages.find? (·.pending) = none :=
  List.find?_eq_none.mpr fun message mem pending => by
    rw [(settled message mem).1] at pending
    cases pending

theorem find_bubble {messages : List Message} {last : Nat} (settled : Settled messages last) (id : Nat)
    (answer : Option Content) :
    ((messages ++ (answer.map (bubble id)).toList).find? (·.pending)).map (·.content) = answer := by
  rw [List.find?_append, find_settled settled]
  cases answer <;> rfl

theorem updateMessage_others {id : Nat} {messages : List Message} (others : ∀ message ∈ messages, message.id ≠ id)
    (updater : Message → Message) (rest : List Message) :
    updateMessage id updater (messages ++ rest) = messages ++ updateMessage id updater rest := by
  induction messages with
  | nil => rfl
  | cons message messages ih =>
    obtain ⟨here, behind⟩ := List.forall_mem_cons.mp others
    rw [List.cons_append, updateMessage, if_neg here, ih behind]
    rfl

theorem updateMessage_bubble (id : Nat) (updater : Message → Message) (answer : Option Content) :
    updateMessage id updater (answer.map (bubble id)).toList =
      (answer.map fun content => updater (bubble id content)).toList := by
  cases answer with
  | none => rfl
  | some content => exact if_pos rfl

theorem filter_others {id : Nat} {messages : List Message} (others : ∀ message ∈ messages, message.id ≠ id)
    (answer : Option Content) :
    (messages ++ (answer.map (bubble id)).toList).filter (fun message => message.id ≠ id) = messages := by
  have kept : messages.filter (fun message => message.id ≠ id) = messages :=
    List.filter_eq_self.mpr fun message mem => decide_eq_true (others message mem)
  rw [List.filter_append, kept]
  cases answer with
  | none => exact List.append_nil messages
  | some content => simp [bubble]

theorem Settled.mono {messages : List Message} {last later : Nat} (settled : Settled messages last)
    (laterEnd : last ≤ later) : Settled messages later :=
  fun message mem => ⟨(settled message mem).1, (settled message mem).2.trans laterEnd⟩

theorem Settled.append {first second : List Message} {last : Nat} (settled : Settled first last)
    (more : Settled second last) : Settled (first ++ second) last :=
  fun message mem => (List.mem_append.mp mem).elim (settled message) (more message)

theorem settled_singleton {message : Message} {last : Nat} (done : message.pending = false) (made : message.id ≤ last) :
    Settled [message] last := by
  intro other mem
  rw [List.mem_singleton.mp mem]
  exact ⟨done, made⟩

/-! ### Each step -/

section
variable {js : JavaScript} {chat : UseChat} {call : Call} {before : List Message} {answer : Option Content}

theorem Waiting.view (waits : chat.Waiting call before answer) :
    chat.view = ⟨apiMessages before, answer, some call.streamed, chat.streamEnabled, chat.requests⟩ := by
  rw [UseChat.view, waits.messages, apiMessages_append, apiMessages_bubble, List.append_nil,
    find_bubble waits.settled, waits.waiting]
  rfl

theorem Idle.view (idle : chat.Idle) :
    chat.view = ⟨apiMessages chat.messages, none, none, chat.streamEnabled, chat.requests⟩ := by
  rw [UseChat.view, find_settled idle.settled, idle.waiting]
  rfl

theorem Waiting.view_waits (waits : chat.Waiting call before answer) : chat.view.waits = some call.streamed := by
  rw [waits.view]

/-- Only the answer under way is updated. -/
theorem Waiting.update (waits : chat.Waiting call before answer) (updater : Message → Message) :
    chat.update call.assistantId updater =
      { chat with
        messages := before ++ (answer.map fun content => updater (bubble call.assistantId content)).toList } := by
  rw [UseChat.update, waits.messages, updateMessage_others waits.others, updateMessage_bubble]

theorem Waiting.said (waits : chat.Waiting call before answer) (change : Content → Content) :
    (chat.update call.assistantId fun message => { message with content := change message.content }).Waiting call before
      (answer.map change) := by
  rw [waits.update]
  refine ⟨waits.waiting, waits.isSending, ?_, waits.settled, waits.others, waits.made⟩
  rw [Option.map_map]
  rfl

/-- A step of the chat is the step of the conversation that its messages show. -/
structure Follows (js : JavaScript) (chat : UseChat) (label : Label) : Prop where
  view : (chat.step js label).map UseChat.view = chat.view.step js label
  orderly : ∀ after, chat.step js label = some after → after.Orderly

variable {label : Label}

theorem follows_none (refused : chat.step js label = none) (nothing : chat.view.step js label = none) :
    chat.Follows js label :=
  ⟨by rw [refused, nothing]; rfl, fun _ taken => nomatch refused.symm.trans taken⟩

theorem follows_some {after : UseChat} (taken : chat.step js label = some after)
    (view : chat.view.step js label = some after.view) (orderly : after.Orderly) : chat.Follows js label :=
  ⟨by rw [taken, view]; rfl, fun _ same => Option.some.inj (taken.symm.trans same) ▸ orderly⟩

/-- What is said to the model, for the answer that is going to come. -/
def asked (chat : UseChat) (content : Bytes) : Message := ⟨chat.nextMessageId + 1, .user, .string content, false, false⟩

theorem sendMessage_eq {text : Bytes} (sends : ¬(trim text = [] ∨ chat.isSending = true)) :
    chat.sendMessage text =
      { chat with
        nextMessageId := chat.nextMessageId + 2
        messages := chat.messages ++ [chat.asked (trim text)] ++ [bubble (chat.nextMessageId + 2) (.string [])]
        isSending := true
        waiting := chat.waiting ++ [⟨chat.nextMessageId + 2, chat.streamEnabled⟩]
        requests := chat.requests ++
          [⟨apiMessages chat.messages ++ [(.user, .string (trim text))], chat.streamEnabled⟩] } := by
  have said : apiMessages (chat.messages ++
      [chat.asked (trim text), bubble (chat.nextMessageId + 2) (.string [])]) =
        apiMessages chat.messages ++ [(.user, .string (trim text))] := apiMessages_append _ _
  rw [sendMessage, if_neg sends, ← said, List.append_assoc]
  rfl

theorem Idle.asks (idle : chat.Idle) {text : Bytes} (sends : ¬(trim text = [] ∨ chat.isSending = true)) :
    (chat.sendMessage text).Waiting ⟨chat.nextMessageId + 2, chat.streamEnabled⟩
      (chat.messages ++ [chat.asked (trim text)]) (some (.string [])) := by
  rw [sendMessage_eq sends]
  refine ⟨?_, rfl, rfl, ?_, fun message mem => ?_, le_rfl⟩
  · show chat.waiting ++ _ = _
    rw [idle.waiting]
    rfl
  · exact (idle.settled.mono (Nat.le_add_right _ 2)).append (settled_singleton rfl (Nat.le_succ _))
  · obtain old | new := List.mem_append.mp mem
    · exact (Nat.lt_add_right 1 (Nat.lt_succ_of_le (idle.settled message old).2)).ne
    · rw [List.mem_singleton.mp new]
      exact (Nat.lt_succ_self _).ne

theorem follows_sendMessage (orderly : chat.Orderly) (text : Bytes) : chat.Follows js (.sendMessage text) := by
  by_cases blank : trim text = []
  · exact follows_some (congrArg some (if_pos (.inl blank))) (congrArg some (if_pos (.inl blank))) orderly
  · obtain idle | ⟨call, before, answer, waits⟩ := orderly
    · have sends : ¬(trim text = [] ∨ chat.isSending = true) := by
        rw [idle.isSending]
        simpa using blank
      have asks : ¬(trim text = [] ∨ chat.view.waits.isSome = true) := by
        rw [idle.view]
        simpa using blank
      refine follows_some rfl ?_ (.inr ⟨_, _, _, idle.asks sends⟩)
      rw [Conversation.step, if_neg asks, (idle.asks sends).view, apiMessages_append, idle.view, sendMessage_eq sends]
      rfl
    · have busy : chat.view.waits.isSome = true := by rw [waits.view]; rfl
      exact follows_some (congrArg some (if_pos (.inr waits.isSending))) (congrArg some (if_pos (.inr busy)))
        (.inr ⟨call, before, answer, waits⟩)

theorem Idle.get (idle : chat.Idle) (i : Nat) : chat.waiting[i]? = none := by rw [idle.waiting]; rfl

theorem Waiting.get (waits : chat.Waiting call before answer) (i : Nat) :
    chat.waiting[i]? = if i = 0 then some call else none := by
  rw [waits.waiting]
  cases i <;> rfl

/-- A call that is over leaves nothing that waits. -/
theorem Waiting.over (waits : chat.Waiting call before answer) (after : UseChat) (sent : after.waiting = chat.waiting)
    (settled : Settled after.messages after.nextMessageId) : (after.leave 0).Idle where
  waiting := by
    show after.waiting.eraseIdx 0 = []
    rw [sent, waits.waiting]
    rfl
  isSending := rfl
  settled := settled

variable (js) in
/-- The answer as it came, or the words for an answer that did not. -/
theorem Waiting.conclude (waits : chat.Waiting call before answer) :
    ((chat.conclude js call.assistantId).leave 0).Idle ∧
      ((chat.conclude js call.assistantId).leave 0).view = chat.view.answered js answer := by
  have said := waits.update fun message => { message with content := message.content.orEmpty js, pending := false }
  rw [UseChat.conclude, said]
  have idle := waits.over { chat with
      messages := before ++ (answer.map fun content =>
        (⟨call.assistantId, .assistant, content.orEmpty js, false, false⟩ : Message)).toList } rfl (by
    refine waits.settled.append ?_
    cases answer with
    | none => exact nofun
    | some content => exact settled_singleton rfl waits.made)
  refine ⟨idle, idle.view.trans ?_⟩
  rw [waits.view]
  show Conversation.mk (apiMessages (before ++ _)) _ _ _ _ = _
  rw [apiMessages_append]
  cases answer <;> rfl

theorem Waiting.fail (waits : chat.Waiting call before answer) (error : Bytes) :
    ((chat.fail call.assistantId error).leave 0).Idle ∧
      ((chat.fail call.assistantId error).leave 0).view = { chat.view with answer := none, waits := none } := by
  have kept : (chat.messages.filter fun message => message.id ≠ call.assistantId) = before := by
    rw [waits.messages, filter_others waits.others]
  have failed : chat.fail call.assistantId error =
      { chat with
        nextMessageId := chat.nextMessageId + 1
        messages := before ++ [⟨chat.nextMessageId + 1, .error, .string error, true, false⟩] } := by
    rw [UseChat.fail, kept]
    rfl
  rw [failed]
  have idle := waits.over { chat with
      nextMessageId := chat.nextMessageId + 1
      messages := before ++ [⟨chat.nextMessageId + 1, .error, .string error, true, false⟩] } rfl
    ((waits.settled.mono (Nat.le_succ _)).append (settled_singleton rfl le_rfl))
  refine ⟨idle, idle.view.trans ?_⟩
  rw [waits.view]
  show Conversation.mk (apiMessages (before ++ _)) _ _ _ _ = _
  rw [apiMessages_append]
  exact congrArg (fun said => Conversation.mk said _ _ _ _) (List.append_nil _)

theorem follows_clearMessages (orderly : chat.Orderly) : chat.Follows js .clearMessages := by
  have ready (last : Nat) (made : chat.nextMessageId + 1 ≤ last) :
      Settled [⟨chat.nextMessageId + 1, .assistant, .string greeting, true, false⟩] last := settled_singleton rfl made
  obtain idle | ⟨call, before, answer, waits⟩ := orderly
  · have cleared : chat.clearMessages.Idle := ⟨idle.waiting, idle.isSending, ready _ le_rfl⟩
    refine follows_some rfl ?_ (.inl cleared)
    rw [cleared.view, idle.view]
    rfl
  · -- the answer that is on its way has no message to go to
    have cleared : chat.clearMessages.Waiting call
        [⟨chat.nextMessageId + 1, .assistant, .string greeting, true, false⟩] none := by
      refine ⟨waits.waiting, waits.isSending, rfl, ready _ le_rfl, fun message mem => ?_, ?_⟩
      · rw [List.mem_singleton.mp mem]
        exact (Nat.lt_succ_of_le waits.made).ne'
      · exact waits.made.trans (Nat.le_succ _)
    refine follows_some rfl ?_ (.inr ⟨_, _, _, cleared⟩)
    rw [cleared.view, waits.view]
    rfl

theorem follows_setStreamEnabled (orderly : chat.Orderly) (enabled : Bool) :
    chat.Follows js (.setStreamEnabled enabled) := by
  refine follows_some rfl rfl ?_
  obtain idle | ⟨call, before, answer, waits⟩ := orderly
  · exact .inl ⟨idle.waiting, idle.isSending, idle.settled⟩
  · exact .inr ⟨call, before, answer, waits.waiting, waits.isSending, waits.messages, waits.settled, waits.others,
      waits.made⟩

/-- Where no call waits, nothing comes of one. -/
theorem Idle.follows (idle : chat.Idle) (i : Nat) (delta payload : Json) (message : Bytes) :
    chat.Follows js (.onDelta i delta) ∧ chat.Follows js (.streamed i) ∧ chat.Follows js (.replied i payload) ∧
      chat.Follows js (.rejected i message) := by
  have refused : chat.waiting[i]? = none := idle.get i
  have nothing : chat.view.waits = none := by rw [idle.view]
  refine ⟨follows_none ?_ ?_, follows_none ?_ ?_, follows_none ?_ ?_, follows_none ?_ ?_⟩
  case refine_1 | refine_3 | refine_5 | refine_7 => rw [step, refused]; rfl
  all_goals cases i <;> simp [Conversation.step, nothing]

/-- A label of one kind of response is refused where it names another call, or the call waits for the other kind. -/
theorem Waiting.follows_kind (waits : chat.Waiting call before answer) {i : Nat} (kind : Call → Bool)
    {rest : Call → Option UseChat}
    (steps : chat.step js label =
      chat.waiting[i]? >>= fun waiting => guard (kind waiting = true) >>= fun _ => rest waiting)
    (refused : ¬(i = 0 ∧ kind call = true) → chat.view.step js label = none)
    (follows : i = 0 → kind call = true → chat.step js label = rest call → chat.Follows js label) :
    chat.Follows js label := by
  by_cases named : i = 0 ∧ kind call = true
  · refine follows named.1 named.2 ?_
    rw [steps, waits.get, if_pos named.1, Option.bind_eq_bind, Option.bind_some, named.2]
    rfl
  · refine follows_none ?_ (refused named)
    rw [steps, waits.get]
    by_cases first : i = 0
    · have other : kind call = false := by simpa [first] using named
      rw [if_pos first, Option.bind_eq_bind, Option.bind_some, other]
      rfl
    · rw [if_neg first]
      rfl

theorem Waiting.follows_onDelta (waits : chat.Waiting call before answer) (i : Nat) (delta : Json) :
    chat.Follows js (.onDelta i delta) := by
  refine waits.follows_kind Call.streamed rfl (fun refused => ?_) ?_
  · cases i with
    | zero => exact if_neg (by simpa [waits.view_waits] using refused)
    | succ i => rfl
  · rintro rfl streamed taken
    have said := waits.said fun content => content.plus js delta
    refine follows_some taken ?_ (.inr ⟨call, before, _, said⟩)
    rw [Conversation.step, if_pos (waits.view_waits.trans (congrArg some streamed)), said.view, waits.view]
    rfl

theorem Waiting.follows_streamed (waits : chat.Waiting call before answer) (i : Nat) :
    chat.Follows js (.streamed i) := by
  refine waits.follows_kind Call.streamed rfl (fun refused => ?_) ?_
  · cases i with
    | zero => exact if_neg (by simpa [waits.view_waits] using refused)
    | succ i => rfl
  · rintro rfl streamed taken
    obtain ⟨idle, view⟩ := waits.conclude js
    refine follows_some taken ?_ (.inl idle)
    rw [Conversation.step, if_pos (waits.view_waits.trans (congrArg some streamed)), view, waits.view]

theorem Waiting.follows_replied (waits : chat.Waiting call before answer) (i : Nat) (payload : Json) :
    chat.Follows js (.replied i payload) := by
  refine waits.follows_kind (fun waiting => !waiting.streamed) rfl (fun refused => ?_) ?_
  · cases i with
    | zero => exact if_neg (by simpa [waits.view_waits] using refused)
    | succ i => rfl
  · rintro rfl plain taken
    have streamed : call.streamed = false := Bool.not_eq_eq_eq_not.mp plain
    cases reply : completeChat js payload with
    | none =>
      rw [reply] at taken
      exact follows_none taken (by rw [Conversation.step, reply, Option.map_none, ite_self])
    | some content =>
      rw [reply] at taken
      obtain ⟨idle, view⟩ := (waits.said fun _ => content).conclude js
      refine follows_some taken ?_ (.inl idle)
      rw [Conversation.step, if_pos (waits.view_waits.trans (congrArg some streamed)), reply, view,
        (waits.said fun _ => content).view, waits.view]
      rfl

theorem Waiting.follows_rejected (waits : chat.Waiting call before answer) (i : Nat) (message : Bytes) :
    chat.Follows js (.rejected i message) := by
  cases i with
  | succ i => exact follows_none (by rw [step, waits.get]; rfl) rfl
  | zero =>
    obtain ⟨idle, view⟩ := waits.fail message
    refine follows_some ?_ ?_ (.inl idle)
    · rw [step, waits.get]
      rfl
    · rw [view]
      exact if_pos (by rw [waits.view_waits]; rfl)

theorem Orderly.follows (orderly : chat.Orderly) (label : Label) : chat.Follows js label := by
  cases label with
  | sendMessage text => exact follows_sendMessage orderly text
  | clearMessages => exact follows_clearMessages orderly
  | setStreamEnabled enabled => exact follows_setStreamEnabled orderly enabled
  | onDelta i delta =>
    obtain idle | ⟨call, before, answer, waits⟩ := orderly
    · exact (idle.follows i delta .null []).1
    · exact waits.follows_onDelta i delta
  | streamed i =>
    obtain idle | ⟨call, before, answer, waits⟩ := orderly
    · exact (idle.follows i .null .null []).2.1
    · exact waits.follows_streamed i
  | replied i payload =>
    obtain idle | ⟨call, before, answer, waits⟩ := orderly
    · exact (idle.follows i .null payload []).2.2.1
    · exact waits.follows_replied i payload
  | rejected i message =>
    obtain idle | ⟨call, before, answer, waits⟩ := orderly
    · exact (idle.follows i .null .null message).2.2.2
    · exact waits.follows_rejected i message

theorem orderly_initial : initial.Orderly :=
  .inl ⟨rfl, rfl, settled_singleton rfl le_rfl⟩

theorem Orderly.follow_map_view (orderly : chat.Orderly) (labels : List Label) :
    (follow (step js) chat labels).map UseChat.view = follow (Conversation.step js) chat.view labels :=
  follow_map UseChat.view Orderly (fun _ label after orderly taken => (orderly.follows label).orderly after taken)
    (fun _ label orderly => (orderly.follows label).view) orderly labels

theorem view_initial : initial.view = Conversation.initial := rfl

variable (js) in
/-- Whatever the user does and whatever the responses are, the messages show the conversation, and the requests are
those of the conversation. -/
theorem shows_conversation (labels : List Label) :
    (follow (step js) initial labels).map UseChat.view = follow (Conversation.step js) Conversation.initial labels :=
  orderly_initial.follow_map_view labels

theorem view_of_run {labels : List Label} (run : follow (step js) initial labels = some chat) :
    follow (Conversation.step js) Conversation.initial labels = some chat.view := by
  rw [← view_initial, ← orderly_initial.follow_map_view, run]
  rfl

theorem Orderly.of_follow (orderly : chat.Orderly) {labels : List Label} {after : UseChat}
    (run : follow (step js) chat labels = some after) : after.Orderly :=
  (Reaches.of_follow run).invariant Orderly orderly
    fun _ label after orderly _ taken => (orderly.follows label).orderly after taken

theorem orderly_of_run {labels : List Label} (run : follow (step js) initial labels = some chat) : chat.Orderly :=
  orderly_initial.of_follow run

/-- Where the conversation gets, the chat gets. -/
theorem Orderly.follow_view (orderly : chat.Orderly) {labels : List Label} {conversation : Conversation}
    (run : follow (Conversation.step js) chat.view labels = some conversation) :
    ∃ after, follow (step js) chat labels = some after ∧ after.view = conversation := by
  rw [← orderly.follow_map_view] at run
  exact Option.map_eq_some_iff.mp run

theorem Orderly.waits_none (orderly : chat.Orderly) (notSending : chat.isSending = false) : chat.view.waits = none := by
  obtain idle | ⟨call, before, answer, waits⟩ := orderly
  · rw [idle.view]
  · rw [waits.isSending] at notSending
    cases notSending

end

end UseChat

end EdgeFlow.Web
