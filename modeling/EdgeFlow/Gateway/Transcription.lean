import EdgeFlow.Gateway.UnitManagerClient

/-! `asr_transcribe`: the chunks of a file, sent one by one, and the transcript that is made of the responses.

The node closes a segment with every response that is final, be it to a chunk or to the
finish request.
-/

set_option autoImplicit false

namespace EdgeFlow.Gateway
open Library Library.Byte

/-! ## White space -/

/-- The characters that `str.strip` takes away. -/
def whitespace : List Bytes :=
  [[9], [10], [11], [12], [13], [28], [29], [30], [31], [32], [0xC2, 0x85], [0xC2, 0xA0], [0xE1, 0x9A, 0x80],
    [0xE2, 0x80, 0x80], [0xE2, 0x80, 0x81], [0xE2, 0x80, 0x82], [0xE2, 0x80, 0x83], [0xE2, 0x80, 0x84], [0xE2, 0x80, 0x85],
    [0xE2, 0x80, 0x86], [0xE2, 0x80, 0x87], [0xE2, 0x80, 0x88], [0xE2, 0x80, 0x89], [0xE2, 0x80, 0x8A], [0xE2, 0x80, 0xA8],
    [0xE2, 0x80, 0xA9], [0xE2, 0x80, 0xAF], [0xE2, 0x81, 0x9F], [0xE3, 0x80, 0x80]]

/-- The text behind the gaps that it begins with; every turn takes a byte at least. -/
def trimFront (gaps : List Bytes) : (fuel : Nat) → Bytes → Bytes
  | 0, text => text
  | fuel + 1, text =>
    match gaps.find? (·.isPrefixOf text) with
    | some gap => trimFront gaps fuel (text.drop gap.length)
    | none => text

/-- `str.strip` -/
def strip (text : Bytes) : Bytes :=
  let front := trimFront whitespace text.length text
  (trimFront (whitespace.map List.reverse) front.length front.reverse).reverse

theorem trimFront_suffix (gaps : List Bytes) (fuel : Nat) (text : Bytes) : trimFront gaps fuel text <:+ text := by
  induction fuel generalizing text with
  | zero => exact List.suffix_refl text
  | succ fuel ih =>
    rw [trimFront]
    split
    · exact (ih _).trans (List.drop_suffix _ text)
    · exact List.suffix_refl text

theorem strip_within (text : Bytes) : strip text <:+: text := by
  have back := trimFront_suffix (whitespace.map List.reverse) (trimFront whitespace text.length text).length
    (trimFront whitespace text.length text).reverse
  have inFront : strip text <+: trimFront whitespace text.length text := by
    rw [← List.reverse_suffix, strip, List.reverse_reverse]
    exact back
  exact inFront.isInfix.trans (trimFront_suffix whitespace text.length text).isInfix

/-! ## The loop -/

/-- A connection behind the setup of a session, and what the requests on it are called. -/
structure Transcriber where
  peer : Peer
  workId : Bytes
  /-- `_request_id` of a prefix, at each request -/
  requestId : (namePrefix : String) → Nat → Json.Text

/-- `f"asr_chunk_{index:06d}"` -/
def chunkName (index : Nat) : String :=
  "asr_chunk_" ++ "".pushn '0' (6 - (toString index).length) ++ toString index

/-- The running text behind a response: its own text, unless there is none. -/
def heard (finalText : Bytes) : (text : Value) → Bytes
  | .str (first :: rest) => first :: rest
  | _ => finalText

namespace Transcriber
variable (python : Python) (transcriber : Transcriber)

/-- A request of `_asr_inference`, where one for the setup was before it. -/
def message (index : Nat) (name : String) (data : Value) : Value :=
  UnitManagerClient.inferenceOnceMessage (transcriber.requestId name (index + 1)).bytes transcriber.workId
    "asr.audio" data

def chunkMessage (index : Nat) (samples : List Int) : Value :=
  transcriber.message index (chunkName index) (dict [("samples", .list (samples.map .int)), ("finish", .bool false)])

def finishMessage (index : Nat) : Value := transcriber.message index "asr_finish" (dict [("finish", .bool true)])

/-- `_asr_inference` -/
def asrInference (index : Nat) (name : String) (message : Value) (client : JsonLineClient) :
    List Value × Except Exc (Value × JsonLineClient) :=
  UnitManagerClient.inferenceOnce python (transcriber.peer.takes (index + 1)) transcriber.peer.closes message
    "asr.result.stream" name client

/-- `asr_transcribe` from a chunk on: the requests that got out, and what it returns. -/
def asrTranscribe : (index : Nat) → (finalText : Bytes) → (chunks : List (List Int)) → JsonLineClient →
    List Value × Except Exc Bytes
  | index, finalText, samples :: chunks, client =>
    match transcriber.asrInference python index (chunkName index) (transcriber.chunkMessage index samples) client with
    | (sent, .error exc) => (sent, .error exc)
    | (sent, .ok (data, client)) =>
      match (do .ok (heard finalText (← data.get "text" (.str [])), ← data.get "final" (.bool false))) with
      | .error exc => (sent, .error exc)
      | .ok (finalText, final) =>
        if final.truthy then (sent, .ok (strip finalText))
        else
          let (more, outcome) := asrTranscribe (index + 1) finalText chunks client
          (sent ++ more, outcome)
  | index, finalText, [], client =>
    match transcriber.asrInference python index "asr_finish" (transcriber.finishMessage index) client with
    | (sent, .error exc) => (sent, .error exc)
    | (sent, .ok (data, _)) => (sent, do .ok (strip (heard finalText (← data.get "text" (.str [])))))

/-- Every chunk once and in order, and one finish request behind them. -/
def requests : (index : Nat) → (chunks : List (List Int)) → List Value
  | index, samples :: chunks => transcriber.chunkMessage index samples :: requests (index + 1) chunks
  | index, [] => [transcriber.finishMessage index]

end Transcriber

/-! ## What the node says -/

/-- A successful response of the node; an empty text is none. -/
structure AsrReply where
  text : Bytes
  final : Bool
  deriving DecidableEq

/-- The reply that a line is. -/
def replyOf (python : Python) (line : Bytes) : Except Exc AsrReply := do
  let data ← JsonLineClient.decode python line >>= UnitManagerClient.responseData python
    "asr.result.stream" "asr_finish"
  .ok ⟨heard [] (← data.get "text" (.str [])), (← data.get "final" (.bool false)).truthy⟩

/-- The node has a line for each chunk, and one for the finish request. -/
structure Answered (python : Python) (client : JsonLineClient) (chunks : List (List Int)) (replies : List AsrReply)
    (last : AsrReply) : Prop where
  each : replies.length = chunks.length
  lines : ∃ lines line rest, client.lines = lines ++ line :: rest ∧
    List.Forall₂ (fun line reply => replyOf python line = .ok reply) lines replies ∧ replyOf python line = .ok last

/-- The segments that are closed; each ends with the first final reply. -/
def closedSegments : List AsrReply → List (List AsrReply)
  | [] => []
  | reply :: replies =>
    if reply.final then [reply] :: closedSegments replies
    else
      match closedSegments replies with
      | [] => []
      | segment :: segments => (reply :: segment) :: segments

/-- The last text of a segment. -/
def lastText (segment : List AsrReply) : Option Bytes := ((segment.map (·.text)).filter (!·.isEmpty)).getLast?

/-- The texts stand in the transcript, in order. -/
def InOrder : (texts : List Bytes) → (transcript : Bytes) → Prop
  | [], _ => True
  | text :: texts, transcript => ∃ before after, transcript = before ++ (text ++ after) ∧ InOrder texts after

/-- All of the file is sent, and the last text of every closed segment is, as it is `shown`, in the transcript. -/
def Covers (shown : Bytes → Bytes) (requests : List Value) (replies : List AsrReply)
    (run : List Value × Except Exc Bytes) : Prop :=
  run.1 = requests ∧ ∃ transcript, run.2 = .ok transcript ∧
    InOrder (((closedSegments replies).filterMap lastText).map shown) transcript

/-! ## A run -/

section
variable {python : Python} {transcriber : Transcriber}

theorem dumpsItems_int (samples : List Int) : Value.dumpsItems (samples.map .int) =
    Json.dumpsItems (samples.map fun n => .number (.ofInt n)) := by
  have more : ∀ samples : List Int, Value.dumpsMoreItems (samples.map .int) =
      Json.dumpsMoreItems (samples.map fun n => .number (.ofInt n)) := by
    intro samples
    induction samples with
    | nil => rfl
    | cons n samples ih =>
      rw [List.map_cons, List.map_cons, Value.dumpsMoreItems, Json.dumpsMoreItems, ih]
      rfl
  cases samples with
  | nil => rfl
  | cons n samples =>
    rw [List.map_cons, List.map_cons, Value.dumpsItems, Json.dumpsItems, more]
    rfl

theorem sends_chunkMessage (valid : Utf8.Valid transcriber.workId) (index : Nat) (samples : List Int) :
    JsonLineClient.Sends true (transcriber.chunkMessage index samples) := by
  have data : (dict [("samples", .list (samples.map .int)), ("finish", .bool false)]).dumps =
      Json.dumps (.object [(.ofAscii "samples", .array (samples.map fun n => .number (.ofInt n))),
        (.ofAscii "finish", .bool false)]) := by
    simp [dict, Value.dumps, Value.dumpsMembers, Value.dumpsMoreMembers, Value.dumpsMember, Json.dumps,
      Json.dumpsMembers,
      Json.dumpsMoreMembers, Json.dumpsMember, Json.dumpsString, Json.Text.ofAscii, dumpsItems_int]
  exact UnitManagerClient.sends_inferenceOnceMessage _ ⟨transcriber.workId, valid⟩ (by decide +kernel) data

theorem sends_finishMessage (valid : Utf8.Valid transcriber.workId) (index : Nat) :
    JsonLineClient.Sends true (transcriber.finishMessage index) := by
  have data : (dict [("finish", .bool true)]).dumps = Json.dumps (.object [(.ofAscii "finish", .bool true)]) := by
    decide +kernel
  exact UnitManagerClient.sends_inferenceOnceMessage _ ⟨transcriber.workId, valid⟩ (by decide +kernel) data

/-- The running text behind some replies. -/
def AsrReply.running (finalText : Bytes) (reply : AsrReply) : Bytes := if reply.text = [] then finalText else reply.text

theorem heard_eq (finalText : Bytes) (text : Value) :
    heard finalText text = if heard [] text = [] then finalText else heard [] text := by
  unfold heard
  split <;> simp

/-- A call that is answered, and the fields of its response. -/
theorem asrInference_ok (takes : ∀ n, transcriber.peer.takes n = true) {client : JsonLineClient} {line : Bytes}
    {lines : List Bytes} (waiting : client.lines = line :: lines) {reply : AsrReply}
    (read : replyOf python line = .ok reply) {message : Value} (sends : JsonLineClient.Sends true message) (index : Nat)
    (name : String) : ∃ data text final after,
      transcriber.asrInference python index name message client = ([message], .ok (data, after)) ∧
        after.lines = lines ∧ data.get "text" (.str []) = .ok text ∧ data.get "final" (.bool false) = .ok final ∧
          (∀ finalText, heard finalText text = reply.running finalText) ∧ final.truthy = reply.final := by
  unfold replyOf at read
  cases answered : JsonLineClient.decode python line >>=
      UnitManagerClient.responseData python "asr.result.stream" "asr_finish" with
  | error exc =>
    rw [answered] at read
    cases read
  | ok data =>
    rw [answered] at read
    simp only [bind, Except.bind] at read
    cases readText : data.get "text" (.str []) with
    | error exc =>
      rw [readText] at read
      cases read
    | ok text =>
      cases readFinal : data.get "final" (.bool false) with
      | error exc =>
        rw [readText, readFinal] at read
        cases read
      | ok final =>
        rw [readText, readFinal] at read
        cases read
        have taken : JsonLineClient.Sends (transcriber.peer.takes (index + 1)) message := by
          rw [takes]
          exact sends
        obtain ⟨after, left, called⟩ := UnitManagerClient.inferenceOnce_ok python taken waiting answered name
        exact ⟨data, text, final, after, called, left, readText, readFinal,
          fun finalText => heard_eq finalText text, rfl⟩

theorem Answered.cons {client : JsonLineClient} {samples : List Int} {chunks : List (List Int)}
    {replies : List AsrReply}
    {last : AsrReply} (answered : Answered python client (samples :: chunks) replies last) :
    ∃ line lines reply later, client.lines = line :: lines ∧ replyOf python line = .ok reply ∧
      replies = reply :: later ∧
      ∀ after : JsonLineClient, after.lines = lines → Answered python after chunks later last := by
  obtain ⟨each, lines, final, rest, waiting, read, readLast⟩ := answered
  cases read with
  | nil => cases each
  | @cons line reply lines later here read =>
    refine ⟨line, lines ++ final :: rest, reply, later, waiting, here, rfl, fun after left => ?_⟩
    exact ⟨Nat.succ.inj each, lines, final, rest, left, read, readLast⟩

theorem Answered.nil {client : JsonLineClient} {replies : List AsrReply} {last : AsrReply}
    (answered : Answered python client [] replies last) :
    ∃ line lines, client.lines = line :: lines ∧ replyOf python line = .ok last ∧ replies = [] := by
  obtain ⟨each, lines, final, rest, waiting, read, readLast⟩ := answered
  cases read with
  | nil => exact ⟨final, rest, waiting, readLast, rfl⟩
  | cons here read => cases each

/-- Where no reply to a chunk is final, all is sent, and the last text of all replies is returned. -/
theorem asrTranscribe_open (valid : Utf8.Valid transcriber.workId) (takes : ∀ n, transcriber.peer.takes n = true)
    {chunks : List (List Int)} {replies : List AsrReply} {last : AsrReply}
    (unclosed : ∀ reply ∈ replies, reply.final = false) (index : Nat)
    (finalText : Bytes) {client : JsonLineClient} (answered : Answered python client chunks replies last) :
    transcriber.asrTranscribe python index finalText chunks client = (transcriber.requests index chunks,
      .ok (strip ((replies ++ [last]).foldl AsrReply.running finalText))) := by
  induction chunks generalizing replies index finalText client with
  | nil =>
    obtain ⟨line, lines, waiting, read, rfl⟩ := answered.nil
    obtain ⟨data, text, final, after, called, left, readText, readFinal, running, -⟩ :=
      asrInference_ok takes waiting read (sends_finishMessage valid index) index "asr_finish"
    simp only [Transcriber.asrTranscribe, called, readText, bind, Except.bind, running]
    rfl
  | cons samples chunks ih =>
    obtain ⟨line, lines, reply, later, waiting, read, rfl, rest⟩ := answered.cons
    obtain ⟨data, text, final, after, called, left, readText, readFinal, running, same⟩ :=
      asrInference_ok takes waiting read (sends_chunkMessage valid index samples) index (chunkName index)
    rw [unclosed reply List.mem_cons_self] at same
    have more := ih (fun reply member => unclosed reply (List.mem_cons_of_mem _ member)) (index + 1)
      (reply.running finalText) (rest after left)
    simp only [Transcriber.asrTranscribe, called, readText, readFinal, bind, Except.bind, running, same, more]
    rfl

/-- A final reply ends the run before the finish request. -/
theorem asrTranscribe_closed (valid : Utf8.Valid transcriber.workId) (takes : ∀ n, transcriber.peer.takes n = true)
    {chunks : List (List Int)} {replies : List AsrReply} {last : AsrReply}
    (closed : ∃ reply ∈ replies, reply.final = true) (index : Nat)
    (finalText : Bytes) {client : JsonLineClient} (answered : Answered python client chunks replies last) :
    (transcriber.asrTranscribe python index finalText chunks client).1.length ≤ chunks.length := by
  induction chunks generalizing replies index finalText client with
  | nil =>
    obtain ⟨line, lines, waiting, read, rfl⟩ := answered.nil
    obtain ⟨reply, member, -⟩ := closed
    cases member
  | cons samples chunks ih =>
    obtain ⟨line, lines, reply, later, waiting, read, rfl, rest⟩ := answered.cons
    obtain ⟨data, text, final, after, called, left, readText, readFinal, running, same⟩ :=
      asrInference_ok takes waiting read (sends_chunkMessage valid index samples) index (chunkName index)
    cases ends : reply.final with
    | true =>
      rw [ends] at same
      simp only [Transcriber.asrTranscribe, called, readText, readFinal, bind, Except.bind, running, same, if_true,
        List.length_cons, List.length_nil]
      omega
    | false =>
      rw [ends] at same
      have later : ∃ reply ∈ later, reply.final = true := by
        obtain ⟨other, member, isFinal⟩ := closed
        rcases List.mem_cons.mp member with rfl | member
        · cases ends.symm.trans isFinal
        · exact ⟨other, member, isFinal⟩
      have more := ih later (index + 1) (reply.running finalText) (rest after left)
      simp only [Transcriber.asrTranscribe, called, readText, readFinal, bind, Except.bind, running, same,
        Bool.false_eq_true, if_false, List.length_append, List.length_cons, List.length_nil]
      omega

theorem length_requests (index : Nat) (chunks : List (List Int)) :
    (transcriber.requests index chunks).length = chunks.length + 1 := by
  induction chunks generalizing index with
  | nil => rfl
  | cons samples chunks ih => exact congrArg (· + 1) (ih (index + 1))

end

/-! ## The transcript -/

theorem closedSegments_open {replies : List AsrReply} (unclosed : ∀ reply ∈ replies, reply.final = false)
    (last : AsrReply) : closedSegments (replies ++ [last]) = if last.final then [replies ++ [last]] else [] := by
  induction replies with
  | nil => rfl
  | cons reply replies ih =>
    have notFinal := unclosed reply List.mem_cons_self
    have rest := ih fun other member => unclosed other (List.mem_cons_of_mem _ member)
    rw [List.cons_append, closedSegments, notFinal, rest]
    cases last.final <;> rfl

/-- The running text is the last one there is. -/
theorem foldl_running (replies : List AsrReply) (finalText : Bytes) :
    replies.foldl AsrReply.running finalText = (lastText replies).getD finalText := by
  induction replies generalizing finalText with
  | nil => rfl
  | cons reply replies ih =>
    rw [List.foldl_cons, ih]
    unfold lastText AsrReply.running
    cases spoken : reply.text with
    | nil => simp [spoken]
    | cons first rest => simp [spoken, List.getLast?_cons]

/-- A text stands in what is left of it only when nothing was taken away. -/
theorem inOrder_strip_iff (text : Bytes) : InOrder [text] (strip text) ↔ strip text = text := by
  constructor
  · rintro ⟨before, after, whole, -⟩
    have shorter : text.length ≤ (strip text).length := by
      rw [whole]
      simp only [List.length_append]
      omega
    exact (strip_within text).eq_of_length_le shorter
  · intro same
    exact ⟨[], [], by rw [same, List.append_nil, List.nil_append], trivial⟩

theorem inOrder_self (text : Bytes) : InOrder [text] text := ⟨[], [], by rw [List.append_nil, List.nil_append], trivial⟩

/-- All of the file is sent and heard exactly when no reply to a chunk is final; and the last text is in the transcript
as it was, where the finish request closes its segment, when it has no white space around it. -/
theorem covers_iff {python : Python} {transcriber : Transcriber} (valid : Utf8.Valid transcriber.workId)
    (takes : ∀ n, transcriber.peer.takes n = true) {chunks : List (List Int)} {replies : List AsrReply}
    {last : AsrReply} {client : JsonLineClient} (answered : Answered python client chunks replies last) :
    (Covers strip (transcriber.requests 0 chunks) (replies ++ [last])
      (transcriber.asrTranscribe python 0 [] chunks client) ↔
        ∀ reply ∈ replies, reply.final = false) ∧
      (Covers id (transcriber.requests 0 chunks) (replies ++ [last])
        (transcriber.asrTranscribe python 0 [] chunks client) ↔
        (∀ reply ∈ replies, reply.final = false) ∧
          (last.final = true → ∀ text ∈ lastText (replies ++ [last]), strip text = text)) := by
  by_cases unclosed : ∀ reply ∈ replies, reply.final = false
  · have run := asrTranscribe_open valid takes unclosed 0 [] answered
    have segments := closedSegments_open unclosed last
    rw [foldl_running] at run
    rw [and_iff_right unclosed, iff_true_right unclosed]
    simp only [Covers, run, segments, true_and, Except.ok.injEq, exists_eq_left']
    cases lastFinal : last.final with
    | false => simp [InOrder]
    | true =>
      cases spoken : lastText (replies ++ [last]) with
      | none => simp [spoken, InOrder]
      | some text => simp [spoken, inOrder_self, inOrder_strip_iff]
  · have closed : ∃ reply ∈ replies, reply.final = true := by
      by_contra noneFinal
      exact unclosed fun reply member => Bool.eq_false_iff.mpr fun isFinal => noneFinal ⟨reply, member, isFinal⟩
    have short := asrTranscribe_closed valid takes closed 0 [] answered
    have cut : (transcriber.asrTranscribe python 0 [] chunks client).1 ≠ transcriber.requests 0 chunks := by
      intro same
      rw [same, length_requests] at short
      omega
    exact ⟨iff_of_false (fun covers => cut covers.1) unclosed,
      iff_of_false (fun covers => cut covers.1) fun both => unclosed both.1⟩

/-! ## Two files -/

/-- The line of a reply that has no white space in its text. -/
def asrLine (reply : AsrReply) : Bytes :=
  ascii "\x7b\"object\":\"asr.result.stream\",\"data\":\x7b\"text\":\"" ++ reply.text ++ ascii "\",\"final\":" ++
    ascii (if reply.final then "true" else "false") ++ ascii "\x7d,\"error\":\x7b\"code\":0,\"message\":\"\"\x7d\x7d"

/-- A connection that takes everything. -/
def openTranscriber : Transcriber where
  peer := ⟨true, fun _ => true, [], true⟩
  workId := ascii "asr.1001"
  requestId _ _ := .ofAscii "asr_1"

def waitingFor (replies : List AsrReply) : JsonLineClient :=
    ⟨replies.flatMap fun reply => asrLine reply ++ [newline], []⟩

theorem covers_goodMorning : Covers id (openTranscriber.requests 0 [[0, 1], [2]])
    [⟨ascii "good", false⟩, ⟨[], false⟩, ⟨ascii "good morning", true⟩]
    (openTranscriber.asrTranscribe plainPython 0 [] [[0, 1], [2]]
      (waitingFor [⟨ascii "good", false⟩, ⟨[], false⟩, ⟨ascii "good morning", true⟩])) := by
  have answered : Answered plainPython (waitingFor [⟨ascii "good", false⟩, ⟨[], false⟩, ⟨ascii "good morning", true⟩])
      [[0, 1], [2]] [⟨ascii "good", false⟩, ⟨[], false⟩] ⟨ascii "good morning", true⟩ := by
    refine ⟨rfl, [asrLine ⟨ascii "good", false⟩, asrLine ⟨[], false⟩], asrLine ⟨ascii "good morning", true⟩,
      [], ?_, ?_, ?_⟩
    · decide +kernel
    · exact .cons (by decide +kernel) (.cons (by decide +kernel) .nil)
    · decide +kernel
  refine (@covers_iff plainPython openTranscriber (by decide +kernel) (fun _ => rfl) _ _ _ _ answered).2.mpr ⟨?_, ?_⟩
  · decide
  · decide +kernel

/-- The node closes a segment with the first of two chunks; the second one and the finish request are not sent. -/
theorem covers_cut : ¬ ∀ (python : Python) (transcriber : Transcriber) (chunks : List (List Int))
    (replies : List AsrReply)
    (last : AsrReply) (client : JsonLineClient), Utf8.Valid transcriber.workId →
      (∀ n, transcriber.peer.takes n = true) →
      Answered python client chunks replies last →
        Covers strip (transcriber.requests 0 chunks) (replies ++ [last])
          (transcriber.asrTranscribe python 0 [] chunks client) := by
  intro covers
  have answered : Answered plainPython (waitingFor [⟨ascii "good", true⟩, ⟨ascii "morning", false⟩,
      ⟨ascii "morning", true⟩])
      [[0, 1], [2]] [⟨ascii "good", true⟩, ⟨ascii "morning", false⟩] ⟨ascii "morning", true⟩ := by
    refine ⟨rfl, [asrLine ⟨ascii "good", true⟩, asrLine ⟨ascii "morning", false⟩],
      asrLine ⟨ascii "morning", true⟩, [], ?_, ?_,
      ?_⟩
    · decide +kernel
    · exact .cons (by decide +kernel) (.cons (by decide +kernel) .nil)
    · decide +kernel
  have all := (covers plainPython openTranscriber _ _ _ _ (by decide +kernel) (fun _ => rfl) answered).1
  have short : (openTranscriber.asrTranscribe plainPython 0 [] [[0, 1], [2]] (waitingFor [⟨ascii "good", true⟩,
      ⟨ascii "morning", false⟩, ⟨ascii "morning", true⟩])).1.length ≤ 2 :=
    asrTranscribe_closed (by decide +kernel) (fun _ => rfl)
      ⟨⟨ascii "good", true⟩, List.mem_cons_self, rfl⟩ 0 [] answered
  rw [all, length_requests] at short
  exact absurd short (by decide)

end EdgeFlow.Gateway
