import EdgeFlow.Web.UseChat

/-! The calls of `sendMessage` in a run of the chat panel, with what each of them brought.

They are read off the labels alone: a delta, a reply or a failure is that of the call which the label names by its
place among those that wait.
-/

set_option autoImplicit false

namespace EdgeFlow.Web.UseChat
open Library Library.Byte

/-- A call that sent what was typed. -/
structure Asking where
  text : Bytes
  /-- the labels that are its own -/
  heard : List Label
  /-- the messages have been cleared since -/
  cleared : Bool

def ends : Label → Bool
  | .streamed _ | .replied _ _ | .rejected _ _ => true
  | _ => false

def gives : Label → Bool
  | .streamed _ | .replied _ _ => true
  | _ => false

namespace Asking

section
variable (js : JavaScript) (call : Asking)

def isOver : Bool := call.heard.any ends

/-- What an answer comes to with one label more. -/
def extend (content : Content) : Label → Content
  | .onDelta _ delta => content.plus js delta
  | .replied _ payload => (completeChat js payload).getD content
  | _ => content

def soFar : Content := call.heard.foldl (extend js) (.string [])

/-- The answer of the call, where it came to its end. -/
def answer : Option Content := if call.heard.any gives then some ((call.soFar js).orEmpty js) else none

/-- What is said in the call: the answer stands right behind its question. -/
def said : List (Role × Content) :=
  if call.cleared then []
  else (.user, .string (trim call.text)) :: ((call.answer js).map fun content => (Role.assistant, content)).toList

def hear (label : Label) : Asking := { call with heard := call.heard ++ [label] }

def clear : Asking := { call with cleared := true }

end

end Asking

/-- The label goes to the call that has its place among those that are not over. -/
def hearAt (label : Label) : Nat → List Asking → List Asking
  | _, [] => []
  | place, call :: calls =>
    if call.isOver then call :: hearAt label place calls
    else
      match place with
      | 0 => call.hear label :: calls
      | place + 1 => call :: hearAt label place calls

/-- A text that is blank, or comes while a call waits, is not sent. -/
def note (calls : List Asking) (label : Label) : List Asking :=
  match label with
  | .sendMessage text =>
    if trim text = [] ∨ calls.all Asking.isOver = false then calls else calls ++ [⟨text, [], false⟩]
  | .onDelta place _ | .streamed place | .replied place _ | .rejected place _ => hearAt label place calls
  | .clearMessages => calls.map Asking.clear
  | .setStreamEnabled _ => calls

def callsOf (labels : List Label) : List Asking := labels.foldl note []

/-- The request is that of the call with the number: it ends with what was typed there, behind what is said in the calls
before. -/
def SentBy (js : JavaScript) (labels : List Label) (number : Nat) (request : Request) : Prop :=
  ∃ before text after, labels = before ++ .sendMessage text :: after ∧ (callsOf before).length = number ∧
    trim text ≠ [] ∧ (callsOf before).all Asking.isOver = true ∧
    request.messages = (callsOf before).flatMap (Asking.said js) ++ [(.user, .string (trim text))]

section
variable {js : JavaScript} {call : Asking} {calls earlier : List Asking} {labels : List Label} {label : Label}

@[simp] theorem callsOf_snoc (labels : List Label) (label : Label) :
    callsOf (labels ++ [label]) = note (callsOf labels) label := by
  rw [callsOf, List.foldl_append]
  rfl

theorem truthy_orEmpty (content : Content) : (content.orEmpty js).truthy js = true := by
  rw [Content.orEmpty]
  split
  · assumption
  · rfl

/-! ## What is typed -/

theorem mem_hearAt {place : Nat} (mem : call ∈ hearAt label place calls) : ∃ other ∈ calls, other.text = call.text := by
  induction calls generalizing place with
  | nil => cases mem
  | cons first calls ih =>
    have behind {place : Nat} (mem : call ∈ first :: hearAt label place calls) :
        ∃ other ∈ first :: calls, other.text = call.text := by
      obtain rfl | mem := List.mem_cons.mp mem
      · exact ⟨call, List.mem_cons_self, rfl⟩
      · obtain ⟨other, found, same⟩ := ih mem
        exact ⟨other, List.mem_cons_of_mem _ found, same⟩
    unfold hearAt at mem
    split at mem
    · exact behind mem
    · cases place with
      | zero =>
        obtain rfl | mem := List.mem_cons.mp mem
        · exact ⟨first, List.mem_cons_self, rfl⟩
        · exact ⟨call, List.mem_cons_of_mem _ mem, rfl⟩
      | succ place => exact behind mem

/-- No call is made with a blank text. -/
theorem spoken_note (spoken : ∀ call ∈ calls, trim call.text ≠ []) (label : Label) :
    ∀ call ∈ note calls label, trim call.text ≠ [] := by
  intro call mem
  have heard {place : Nat} (mem : call ∈ hearAt label place calls) : trim call.text ≠ [] := by
    obtain ⟨other, found, same⟩ := mem_hearAt mem
    exact same ▸ spoken other found
  cases label with
  | sendMessage text =>
    rw [note] at mem
    split at mem
    · exact spoken call mem
    · next sends =>
      obtain old | new := List.mem_append.mp mem
      · exact spoken call old
      · rw [List.mem_singleton.mp new]
        exact fun blank => sends (.inl blank)
  | clearMessages =>
    obtain ⟨other, found, rfl⟩ := List.mem_map.mp mem
    exact spoken other found
  | setStreamEnabled enabled => exact spoken call mem
  | onDelta | streamed | replied | rejected => exact heard mem

theorem spoken_callsOf (labels : List Label) : ∀ call ∈ callsOf labels, trim call.text ≠ [] := by
  induction labels using List.reverseRecOn with
  | nil => exact nofun
  | append_singleton labels label ih =>
    rw [callsOf_snoc]
    exact spoken_note ih label

/-- Nothing that is said is empty. -/
theorem truthy_said (spoken : trim call.text ≠ []) : ∀ entry ∈ call.said js, entry.2.truthy js = true := by
  intro entry mem
  rw [Asking.said] at mem
  split at mem
  · cases mem
  · obtain rfl | mem := List.mem_cons.mp mem
    · simpa [Content.truthy] using spoken
    · obtain ⟨content, shown, rfl⟩ := Option.map_eq_some_iff.mp (Option.mem_toList.mp mem)
      obtain ⟨-, same⟩ := Option.ite_none_right_eq_some.mp shown
      rw [← Option.some.inj same]
      exact truthy_orEmpty _

theorem SentBy.truthy {number : Nat} {request : Request} (sent : SentBy js labels number request) :
    ∀ entry ∈ request.messages, entry.2.truthy js = true := by
  obtain ⟨before, text, -, -, -, spoken, -, messages⟩ := sent
  rw [messages]
  intro entry mem
  obtain old | new := List.mem_append.mp mem
  · obtain ⟨call, made, mem⟩ := List.mem_flatMap.mp old
    exact truthy_said (spoken_callsOf before call made) entry mem
  · rw [List.mem_singleton.mp new]
    simpa [Content.truthy] using spoken

/-! ## A call that hears more -/

theorem gives_of_ends {label : Label} (goesOn : ends label = false) : gives label = false := by
  cases label <;> first | rfl | cases goesOn

theorem isOver_hear (call : Asking) (label : Label) : (call.hear label).isOver = (call.isOver || ends label) := by
  simp [Asking.hear, Asking.isOver]

theorem soFar_hear (call : Asking) (label : Label) :
    (call.hear label).soFar js = Asking.extend js (call.soFar js) label := by
  rw [Asking.soFar, Asking.hear, List.foldl_append]
  rfl

theorem any_gives (waits : call.isOver = false) : call.heard.any gives = false :=
  List.any_eq_false.mpr fun label mem given =>
    absurd (gives_of_ends (Bool.eq_false_iff.mpr (List.any_eq_false.mp waits label mem))) (by simp [given])

theorem said_waiting (waits : call.isOver = false) :
    call.said js = if call.cleared then [] else [(.user, .string (trim call.text))] := by
  have nothing : call.answer js = none := if_neg (by simp [any_gives waits])
  rw [Asking.said, nothing]
  rfl

theorem said_hear (waits : call.isOver = false) (label : Label) : (call.hear label).said js = call.said js ++
    if call.cleared ∨ gives label = false then [] else
      [(.assistant, (Asking.extend js (call.soFar js) label).orEmpty js)] := by
  have answer : (call.hear label).answer js =
      if gives label then some ((Asking.extend js (call.soFar js) label).orEmpty js) else none := by
    rw [Asking.answer, soFar_hear]
    simp [Asking.hear, any_gives waits]
  rw [said_waiting waits, Asking.said, answer]
  show (if call.cleared then _ else (Role.user, Content.string (trim call.text)) :: _) = _
  cases call.cleared <;> cases gives label <;> rfl

/-- The last call is the first of those that are not over. -/
theorem hearAt_last (finished : earlier.all Asking.isOver = true) (waits : call.isOver = false) (label : Label) :
    hearAt label 0 (earlier ++ [call]) = earlier ++ [call.hear label] := by
  induction earlier with
  | nil =>
    rw [List.nil_append, hearAt, waits]
    rfl
  | cons first earlier ih =>
    obtain ⟨here, behind⟩ := (Bool.and_eq_true _ _).mp (List.all_cons.symm.trans finished)
    rw [List.cons_append, hearAt, if_pos here, ih behind]
    rfl

/-! ## The conversation is what is said in the calls -/

/-- Whether a call waits, and what has come of its answer where that is still wanted. -/
inductive Awaits (js : JavaScript) : List Asking → Conversation → Prop where
  | nothing {calls : List Asking} {conversation : Conversation} : calls.all Asking.isOver = true →
      conversation.waits = none → conversation.answer = none → Awaits js calls conversation
  | answer {earlier : List Asking} {call : Asking} {conversation : Conversation} :
      earlier.all Asking.isOver = true → call.isOver = false → conversation.waits.isSome = true →
      conversation.answer = (if call.cleared then none else some (call.soFar js)) →
      Awaits js (earlier ++ [call]) conversation

structure Told (js : JavaScript) (labels : List Label) (conversation : Conversation) : Prop where
  said : conversation.said = (callsOf labels).flatMap (Asking.said js)
  awaits : Awaits js (callsOf labels) conversation
  count : conversation.requests.length = (callsOf labels).length
  requests : ∀ number request, conversation.requests[number]? = some request → SentBy js labels number request

variable {conversation after : Conversation}

theorem told_initial : Told js [] .initial := ⟨rfl, .nothing rfl rfl rfl, rfl, nofun⟩

theorem SentBy.snoc {number : Nat} {request : Request} (sent : SentBy js labels number request) (label : Label) :
    SentBy js (labels ++ [label]) number request := by
  obtain ⟨before, text, after, rfl, rest⟩ := sent
  exact ⟨before, text, after ++ [label], by rw [List.append_assoc]; rfl, rest⟩

/-- A label that sends nothing. -/
theorem Told.next (told : Told js labels conversation) (requests : after.requests = conversation.requests)
    (count : (note (callsOf labels) label).length = (callsOf labels).length)
    (said : after.said = (note (callsOf labels) label).flatMap (Asking.said js))
    (awaits : Awaits js (note (callsOf labels) label) after) : Told js (labels ++ [label]) after where
  said := by rw [callsOf_snoc, said]
  awaits := by rw [callsOf_snoc]; exact awaits
  count := by rw [callsOf_snoc, requests, told.count, count]
  requests number request sent := (told.requests number request (requests ▸ sent)).snoc label

/-- A label of the call that waits: what it adds to what is said, and what waits behind it. -/
theorem Told.hear (told : Told js labels conversation) (same : callsOf labels = earlier ++ [call])
    (finished : earlier.all Asking.isOver = true) (waits : call.isOver = false)
    (noted : note (callsOf labels) label = hearAt label 0 (callsOf labels))
    (requests : after.requests = conversation.requests)
    (said : after.said = conversation.said ++ if call.cleared ∨ gives label = false then [] else
      [(.assistant, (Asking.extend js (call.soFar js) label).orEmpty js)])
    (awaits : Awaits js (earlier ++ [call.hear label]) after) : Told js (labels ++ [label]) after := by
  rw [same, hearAt_last finished waits] at noted
  refine told.next requests ?_ ?_ ?_
  · rw [same, noted]
    simp
  · rw [same, noted, said, told.said, same, List.flatMap_append, List.flatMap_append, List.append_assoc,
      List.flatMap_singleton, List.flatMap_singleton, said_hear waits]
  · rw [same, noted]
    exact awaits

theorem Awaits.all_isOver (awaits : Awaits js calls conversation) (idle : conversation.waits = none) :
    calls.all Asking.isOver = true := by
  obtain ⟨finished, -, -⟩ | ⟨-, -, waits, -⟩ := awaits
  · exact finished
  · rw [idle] at waits
    cases waits

theorem Awaits.waiting (awaits : Awaits js calls conversation) (waits : conversation.waits.isSome = true) :
    ∃ earlier call, calls = earlier ++ [call] ∧ earlier.all Asking.isOver = true ∧ call.isOver = false ∧
      conversation.answer = if call.cleared then none else some (call.soFar js) := by
  obtain ⟨-, idle, -⟩ | ⟨finished, goesOn, -, answer⟩ := awaits
  · rw [idle] at waits
    cases waits
  · exact ⟨_, _, rfl, finished, goesOn, answer⟩

theorem Awaits.busy (awaits : Awaits js calls conversation) (waits : conversation.waits.isSome = true) :
    calls.all Asking.isOver = false := by
  obtain ⟨earlier, call, rfl, -, goesOn, -⟩ := awaits.waiting waits
  rw [List.all_append, List.all_cons, goesOn]
  exact Bool.and_false _

theorem Awaits.congr (awaits : Awaits js calls conversation) (waits : after.waits = conversation.waits)
    (answer : after.answer = conversation.answer) : Awaits js calls after := by
  obtain ⟨finished, idle, nothing⟩ | ⟨finished, goesOn, busy, soFar⟩ := awaits
  · exact .nothing finished (waits.trans idle) (answer.trans nothing)
  · exact .answer finished goesOn (waits ▸ busy) (answer.trans soFar)

/-- An answer on its way is not wanted any more. -/
theorem Awaits.clear (awaits : Awaits js calls conversation) :
    Awaits js (calls.map Asking.clear) { conversation with said := [], answer := none } := by
  have same (calls : List Asking) : (calls.map Asking.clear).all Asking.isOver = calls.all Asking.isOver := by
    rw [List.all_map]
    rfl
  obtain ⟨finished, idle, -⟩ | ⟨finished, goesOn, busy, -⟩ := awaits
  · exact .nothing ((same _).trans finished) idle rfl
  · rw [List.map_append]
    exact .answer ((same _).trans finished) goesOn busy rfl

theorem all_over (finished : earlier.all Asking.isOver = true) (ended : ends label = true) :
    (earlier ++ [call.hear label]).all Asking.isOver = true := by
  rw [List.all_append, finished, List.all_cons, isOver_hear, ended, Bool.or_true]
  rfl

theorem Told.ask (told : Told js labels conversation) {text : Bytes} (spoken : trim text ≠ [])
    (idle : conversation.waits = none) : Told js (labels ++ [.sendMessage text]) (conversation.ask (trim text)) := by
  have finished := told.awaits.all_isOver idle
  have noted : callsOf (labels ++ [.sendMessage text]) = callsOf labels ++ [⟨text, [], false⟩] := by
    rw [callsOf_snoc, note, if_neg (by simp [spoken, finished])]
  refine ⟨?_, ?_, ?_, fun number request sent => ?_⟩
  · rw [noted, List.flatMap_append, ← told.said]
    rfl
  · rw [noted]
    exact .answer finished rfl rfl rfl
  · rw [noted, List.length_append, ← told.count]
    exact List.length_append
  · rw [Conversation.ask, List.getElem?_append] at sent
    split at sent
    · exact (told.requests number request sent).snoc _
    · next beyond =>
      have last := (List.getElem?_eq_some_iff.mp sent).1
      rw [List.length_singleton] at last
      refine ⟨labels, text, [], rfl, ?_, spoken, finished, ?_⟩
      · rw [← told.count]
        omega
      · rw [← told.said, List.mem_singleton.mp (List.mem_of_getElem? sent)]

/-- What is refused is noted by neither. -/
theorem Told.step (told : Told js labels conversation) (taken : conversation.step js label = some after) :
    Told js (labels ++ [label]) after := by
  unfold Conversation.step at taken
  split at taken
  case h_1 text =>
    cases taken
    split
    · next refused =>
      have noted : note (callsOf labels) (.sendMessage text) = callsOf labels :=
        if_pos (refused.imp_right fun waits => told.awaits.busy waits)
      exact told.next rfl (by rw [noted]) (by rw [noted, told.said]) (by rw [noted]; exact told.awaits)
    · next sends =>
      obtain ⟨spoken, idle⟩ := not_or.mp sends
      exact told.ask spoken (by simpa using idle)
  case h_2 delta =>
    obtain ⟨streams, rfl⟩ := Option.ite_some_none_eq_some.mp taken
    obtain ⟨earlier, call, same, finished, waits, answer⟩ := told.awaits.waiting (by rw [streams]; rfl)
    refine told.hear same finished waits rfl rfl (by simp [gives]) ?_
    refine .answer finished ?_ (by rw [streams]; rfl) ?_
    · rw [isOver_hear, waits]
      rfl
    · rw [answer, soFar_hear]
      show _ = if call.cleared then none else _
      cases call.cleared <;> rfl
  case h_3 =>
    obtain ⟨streams, rfl⟩ := Option.ite_some_none_eq_some.mp taken
    obtain ⟨earlier, call, same, finished, waits, answer⟩ := told.awaits.waiting (by rw [streams]; rfl)
    refine told.hear same finished waits rfl rfl ?_ ?_
    · rw [Conversation.answered, answer]
      cases call.cleared <;> rfl
    · exact .nothing (all_over finished rfl) rfl rfl
  case h_4 payload =>
    obtain ⟨replies, replied⟩ := Option.ite_none_right_eq_some.mp taken
    obtain ⟨reply, completed, rfl⟩ := Option.map_eq_some_iff.mp replied
    obtain ⟨earlier, call, same, finished, waits, answer⟩ := told.awaits.waiting (by rw [replies]; rfl)
    refine told.hear same finished waits rfl rfl ?_ ?_
    · rw [Conversation.answered, answer, Asking.extend, completed]
      cases call.cleared <;> rfl
    · exact .nothing (all_over finished rfl) rfl rfl
  case h_5 message =>
    obtain ⟨waiting, rfl⟩ := Option.ite_some_none_eq_some.mp taken
    obtain ⟨earlier, call, same, finished, waits, answer⟩ := told.awaits.waiting waiting
    exact told.hear same finished waits rfl rfl (by simp [gives]) (.nothing (all_over finished rfl) rfl rfl)
  case h_6 =>
    cases taken
    refine told.next rfl (List.length_map _) ?_ told.awaits.clear
    have nothing (call : Asking) : call.clear.said js = [] := rfl
    rw [note, List.flatMap_map, List.flatMap_eq_nil_iff.mpr fun call _ => nothing call]
  case h_7 enabled =>
    cases taken
    exact told.next rfl rfl told.said (told.awaits.congr rfl rfl)
  case h_8 => cases taken

theorem told_of_run {chat : UseChat} (run : follow (step js) initial labels = some chat) : Told js labels chat.view :=
  follow_history (Told js) told_initial (fun _ _ _ _ told taken => told.step taken) (view_of_run run)

/-- There is one request for each call. It ends with what was typed in the call, trimmed, and before that is what was
said in the calls before it and not cleared: each question, and right behind it the answer that its own call brought. -/
theorem requests_proper {chat : UseChat} (run : follow (step js) initial labels = some chat) :
    chat.requests.length = (callsOf labels).length ∧
    ∀ number request, chat.requests[number]? = some request →
      SentBy js labels number request ∧ ∀ entry ∈ request.messages, entry.2.truthy js = true :=
  ⟨(told_of_run run).count, fun number request sent =>
    have sentBy := (told_of_run run).requests number request sent
    ⟨sentBy, sentBy.truthy⟩⟩

/-- The messages are cleared while an answer is on its way, the next is kept, and then a request fails. -/
def clearedLabels : List Label :=
  [.sendMessage (ascii " Hi\n"), .clearMessages, .streamed 0, .sendMessage (ascii "And?"),
    .onDelta 0 (.string ⟨ascii "Yes", rfl⟩), .streamed 0, .sendMessage (ascii "Why?"), .rejected 0 [],
    .sendMessage (ascii "Well?")]

def plainScript : JavaScript := ⟨fun _ => false, fun _ => []⟩

def written (request : Request) : List (Role × Bytes) :=
  request.messages.map fun entry => (entry.1, entry.2.text plainScript)

theorem requests_proper_cleared : ∃ chat, follow (step plainScript) initial clearedLabels = some chat ∧
    chat.requests.map written = [[(.user, ascii "Hi")], [(.user, ascii "And?")],
      [(.user, ascii "And?"), (.assistant, ascii "Yes"), (.user, ascii "Why?")],
      [(.user, ascii "And?"), (.assistant, ascii "Yes"), (.user, ascii "Why?"), (.user, ascii "Well?")]] ∧
    chat.requests.length = (callsOf clearedLabels).length ∧
    ∀ number request, chat.requests[number]? = some request → SentBy plainScript clearedLabels number request ∧
      ∀ entry ∈ request.messages, entry.2.truthy plainScript = true := by
  have ran : (follow (step plainScript) initial clearedLabels).any (fun chat => chat.requests.map written =
      [[(.user, ascii "Hi")], [(.user, ascii "And?")],
        [(.user, ascii "And?"), (.assistant, ascii "Yes"), (.user, ascii "Why?")],
        [(.user, ascii "And?"), (.assistant, ascii "Yes"), (.user, ascii "Why?"), (.user, ascii "Well?")]]) = true := by
    decide +kernel
  obtain ⟨chat, run, told⟩ := (Option.any_eq_true _ _).mp ran
  exact ⟨chat, run, of_decide_eq_true told, requests_proper run⟩

end

end EdgeFlow.Web.UseChat
