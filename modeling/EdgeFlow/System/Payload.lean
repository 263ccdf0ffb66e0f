import EdgeFlow.Gateway.UnitManagerClient
import EdgeFlow.Node.Braces
import EdgeFlow.System.Envelope

/-! The data of an inference request on its way to the callback of a node: which texts
get there as the object they spell, and which prompts of the gateway do.
-/

set_option autoImplicit false

namespace EdgeFlow.System
open Library Library.Byte Library.Printf Library.Decimal Manager Node Gateway

/-- `"data"` first stands, behind the opening brace, where an object follows that the scanner gets whole. -/
def ReadsData (jsonStr : Bytes) (members : List (Json.Text × Json)) : Prop :=
  ∃ before after, Search.FirstAt (quoted (ascii "data")) (jsonStr.drop 1) before after ∧ ReadsObject members after

/-- The request is JSON text with this object for its `data`. -/
def DataOf (jsonStr : Bytes) (members : List (Json.Text × Json)) : Prop :=
  ∃ fields key, Json.parse jsonStr = some (.object fields) ∧ (key, .object members) ∈ fields ∧ key.bytes = ascii "data"

/-- The text is `data`, or ends in it behind a quote. -/
def NamesData (text : Bytes) : Prop := text = ascii "data" ∨ quote :: ascii "data" <:+ text

instance (text : Bytes) : Decidable (NamesData text) := inferInstanceAs (Decidable (_ ∨ _))

def promptError : Bytes := ascii "\x7b\"code\":-2,\"message\":\"data.prompt must be a string\"\x7d"

/-- `prompt` in `inference_stream`, or the error it returns with when it cannot read one. -/
def streamPrompt (data : Bytes) : Except Bytes Bytes :=
  match Json.parse data with
  | some (.object members) =>
    -- of the members of one name the parser keeps the last
    match members.reverse.find? fun member => member.1.bytes == ascii "prompt" with
    | some (_, .string prompt) => .ok prompt.bytes
    | _ => .error promptError
  | _ => .error promptError

/-! ## Through the envelope -/

/-- The reply address is not taken for the key. -/
theorem pushUrl_ne_data (format : IntFormat) (comId : Int) : zmqPushUrl format comId ≠ ascii "data" := by
  intro same
  rw [pushUrl_eq, IntFormat.render] at same
  obtain ⟨b, rest, number⟩ := List.exists_cons_of_ne_nil (ofInt_ne_nil comId)
  have inNumber : b ∈ ofInt comId := number ▸ List.mem_cons_self
  have inData : b ∈ ascii "data" := by
    rw [← same]
    exact List.mem_append_left _ (List.mem_append_right _ inNumber)
  have letters : ∀ c ∈ ascii "data", ¬ (isDigit c = true ∨ c = minus) := by decide +kernel
  exact letters b inData (mem_ofInt inNumber)

theorem occursAt_envelope {format : IntFormat} (addressable : Addressable format) (comId : Int) (jsonStr : Bytes)
    {before after : Bytes}
    (occurs : Search.OccursAt (quoted (ascii "data")) (inferenceRawData format comId jsonStr) before after) :
    ∃ later, before = inferenceRawData format comId [] ++ later ∧
      Search.OccursAt (quoted (ascii "data")) (jsonStr.drop 1) later after := by
  have cut (text : Bytes) : inferenceRawData format comId text =
      Lines.stream quote [[openBrace], ascii "zmq_com", [colon], zmqPushUrl format comId] ++ comma :: text.drop 1 := by
    rw [inferenceRawData_eq]
    simp [inferenceRest, quoted]
  rw [cut] at occurs
  have absent : ∀ part ∈ [[openBrace], ascii "zmq_com", [colon], zmqPushUrl format comId], quote ∉ part := by
    have plain := addressable.plain comId
    simp only [List.forall_mem_cons]
    refine ⟨by decide, by decide, by decide, fun inUrl => (plain quote inUrl).1 rfl, List.forall_mem_nil _⟩
  have others : ∀ part ∈ [ascii "zmq_com", [colon], zmqPushUrl format comId], part ≠ ascii "data" := by
    simp only [List.forall_mem_cons]
    exact ⟨by decide, by decide, pushUrl_ne_data format comId, List.forall_mem_nil _⟩
  rcases Search.occursAt_stream (by decide) absent others occurs with ⟨-, atTail⟩ | ⟨later, rfl, inTail⟩
  · have heads : comma = 100 := (List.cons.inj atTail).1
    exact absurd heads (by decide)
  · cases later with
    | nil =>
      have heads : comma = quote := (List.cons.inj inTail).1
      exact absurd heads (by decide)
    | cons b later =>
      obtain ⟨rfl, inRequest⟩ := List.cons.inj inTail
      exact ⟨later, by rw [cut]; simp, inRequest⟩

theorem parse_data_iff {format : IntFormat} (addressable : Addressable format) (comId : Int) (jsonStr : Bytes)
    (members : List (Json.Text × Json)) (channel : Channel) :
    Json.parse (channel.subscriberEventCall (inferenceRawData format comId jsonStr)).1.2 = some (.object members) ↔
      ReadsData jsonStr members := by
  have whole : inferenceRawData format comId [] ++ jsonStr.drop 1 = inferenceRawData format comId jsonStr := by
    simp [inferenceRawData]
  have through (after : Bytes) :
      (∃ before, Search.FirstAt (quoted (ascii "data")) (inferenceRawData format comId jsonStr) before after) ↔
        ∃ before, Search.FirstAt (quoted (ascii "data")) (jsonStr.drop 1) before after := by
    rw [← whole]
    refine Search.firstAt_behind_iff ?_
    rw [whole]
    exact fun before after => occursAt_envelope addressable comId jsonStr
  show Json.parse (sampleJsonStrGet (inferenceRawData format comId jsonStr) (ascii "data")) = _ ↔ _
  constructor
  · intro parsed
    cases found : Search.find (quoted (ascii "data")) (inferenceRawData format comId jsonStr) with
    | none =>
      rw [sampleJsonStrGet_of_none found] at parsed
      exact absurd parsed parse_nil_ne
    | some position =>
      obtain ⟨before, after, -, first⟩ := Search.find_some found
      rw [sampleJsonStrGet_of_first first] at parsed
      obtain ⟨before', first'⟩ := (through after).mp ⟨before, first⟩
      exact ⟨before', after, first', parse_result_iff.mp parsed⟩
  · rintro ⟨before, after, first, reads⟩
    obtain ⟨before', first'⟩ := (through after).mpr ⟨before, first⟩
    rw [sampleJsonStrGet_of_first first']
    exact parse_result_iff.mpr reads

/-! ## The messages of the gateway -/

/-- Parts between quotes among which the key is not. -/
def OtherParts (parts : List Bytes) : Prop := ∀ part ∈ parts, quote ∉ part ∧ part ≠ ascii "data"

instance (parts : List Bytes) : Decidable (OtherParts parts) := inferInstanceAs (Decidable (∀ part ∈ parts, _))

theorem OtherParts.append {parts more : List Bytes} (others : OtherParts parts) (othersMore : OtherParts more) :
    OtherParts (parts ++ more) := fun part member =>
  (List.mem_append.mp member).elim (others part) (othersMore part)

theorem namesData_stream_iff {parts : List Bytes} {last : Bytes} (noQuote : quote ∉ last) :
    NamesData (Lines.stream quote parts ++ last) ↔ last = ascii "data" := by
  have noQuoteData : quote ∉ ascii "data" := by decide
  cases parts with
  | nil =>
    refine or_iff_left fun isSuffix => noQuote ?_
    exact isSuffix.subset List.mem_cons_self
  | cons part parts =>
    obtain ⟨before, cut⟩ := Lines.stream_cons_last quote part parts
    rw [cut, List.append_assoc, List.singleton_append]
    constructor
    · rintro (whole | ⟨front, ends⟩)
      · exact absurd (whole ▸ List.mem_append_right before List.mem_cons_self) noQuoteData
      · exact (Lines.last_part_inj noQuote noQuoteData ends.symm).2
    · rintro rfl
      exact .inr ⟨before, rfl⟩

/-- An escaped text between quotes: each of its own quotes ends a part that stands before a backslash. -/
theorem escape_cut (text : Bytes) : ∃ parts last, Json.escape text = Lines.stream quote parts ++ last ∧
    OtherParts parts ∧ quote ∉ last ∧ (last = ascii "data" ↔ NamesData text) := by
  obtain ⟨lines, rest, rfl, absent, absentRest⟩ := Lines.stream_cut quote text
  refine ⟨lines.map (Json.escape · ++ [backslash]), Json.escape rest, ?_, ?_, Json.quote_notMem_escape absentRest, ?_⟩
  · rw [Json.escape_append]
    congr 1
    clear absent
    induction lines with
    | nil => rfl
    | cons line lines ih =>
      have isEscape : Json.escapeByte quote = [backslash, quote] := rfl
      rw [Lines.stream_cons, Json.escape_append, List.map_cons, Lines.stream_cons, ← ih]
      simp [Json.escape, isEscape]
  · intro part member
    obtain ⟨line, inLines, rfl⟩ := List.mem_map.mp member
    refine ⟨fun inPart => ?_, fun isData => ?_⟩
    · rcases List.mem_append.mp inPart with inLine | isQuote
      · exact Json.quote_notMem_escape (absent line inLines) inLine
      · exact absurd isQuote (by decide)
    · have last : some backslash = (ascii "data").getLast? := by
        rw [← isData, List.getLast?_append]
        rfl
      exact absurd last (by decide)
  · rw [namesData_stream_iff absentRest]
    constructor
    · intro isData
      have read := Json.unescape_escape rest
      rw [isData] at read
      exact Json.unescape_plain (by decide) read
    · rintro rfl
      exact Json.escape_verbatim (by decide +kernel)

/-- The one member of `data`. -/
def promptMember (prompt : Bytes) : Bytes := quoted (ascii "prompt") ++ (colon :: space :: quoted (Json.escape prompt))

/-- From the key of the data on. -/
def dataMember (prompt : Bytes) : Bytes :=
  ascii "data" ++ quote :: ([colon, space] ++ openBrace :: (promptMember prompt ++ closeBrace :: [closeBrace]))

/-- The parts between the work id and the data. -/
def fixedParts : List Bytes :=
  [[comma, space], ascii "action", [colon, space], ascii "inference", [comma, space], ascii "object", [colon, space],
    ascii "rkllm.input", [comma, space]]

def behindWorkId (prompt : Bytes) : Bytes := Lines.stream quote fixedParts ++ dataMember prompt

def behindRequestId (workId prompt : Bytes) : Bytes :=
  Lines.stream quote [[comma, space], ascii "work_id", [colon, space]] ++
    (Json.escape workId ++ quote :: behindWorkId prompt)

theorem inferenceMessage_cut (requestId workId prompt : Bytes) :
    (UnitManagerClient.inferenceMessage requestId workId prompt).dumps.drop 1 =
      Lines.stream quote [[], ascii "request_id", [colon, space]] ++
        (Json.escape requestId ++ quote :: behindRequestId workId prompt) := by
  have verbatim : ∀ word ∈ [ascii "request_id", ascii "work_id", ascii "action", ascii "inference", ascii "object",
      ascii "rkllm.input", ascii "data", ascii "prompt"], Json.escape word = word := by
    decide +kernel
  simp only [List.forall_mem_cons] at verbatim
  obtain ⟨requestKey, workKey, actionKey, action, objectKey, object, dataKey, promptKey, -⟩ := verbatim
  simp only [UnitManagerClient.inferenceMessage, dict, List.map_cons, List.map_nil, Value.dumps, Value.dumpsMembers,
    Value.dumpsMoreMembers, Value.dumpsMember, requestKey, workKey, actionKey, action, objectKey, object, dataKey,
    promptKey, List.drop_succ_cons, List.drop_zero]
  simp [quoted, promptMember, dataMember, fixedParts, behindWorkId, behindRequestId, Json.separator]

/-- Where parts that are not the key are followed by it, it is found there. -/
theorem firstAt_data {first : Bytes} {parts : List Bytes} (noQuote : quote ∉ first) (others : OtherParts parts)
    (after : Bytes) : ∃ before, Search.FirstAt (quoted (ascii "data"))
      (Lines.stream quote (first :: parts) ++ ascii "data" ++ quote :: after) before after := by
  obtain ⟨before, cut⟩ := Lines.stream_cons_last quote first parts
  have absent : ∀ part ∈ first :: parts, quote ∉ part :=
    List.forall_mem_cons.mpr ⟨noQuote, fun part member => (others part member).1⟩
  exact ⟨before, Search.firstAt_of_parts (by decide) absent (fun part member => (others part member).2) cut after⟩

/-- The first `"data"` of a message is in one of the ids, and then no object follows, or is the key. -/
theorem firstAt_message (requestId workId prompt : Bytes) : ∃ before after, Search.FirstAt (quoted (ascii "data"))
    ((UnitManagerClient.inferenceMessage requestId workId prompt).dumps.drop 1) before after ∧
      ((NamesData requestId ∨ NamesData workId) ∧ after.head? = some comma ∨
        (¬ NamesData requestId ∧ ¬ NamesData workId) ∧
          after = [colon, space] ++ openBrace :: (promptMember prompt ++ closeBrace :: [closeBrace])) := by
  obtain ⟨requestParts, requestLast, requestCut, requestOthers, requestPlain, requestNames⟩ := escape_cut requestId
  obtain ⟨workParts, workLast, workCut, workOthers, workPlain, workNames⟩ := escape_cut workId
  have noQuote : quote ∉ ([] : Bytes) := List.not_mem_nil
  have requestKey : OtherParts ([ascii "request_id", [colon, space]] ++ requestParts) :=
    OtherParts.append (by decide +kernel) requestOthers
  rw [inferenceMessage_cut, requestCut]
  by_cases requestData : NamesData requestId
  · obtain ⟨before, first⟩ := firstAt_data noQuote requestKey (behindRequestId workId prompt)
    refine ⟨before, behindRequestId workId prompt, ?_, .inl ⟨.inl requestData, rfl⟩⟩
    rw [requestNames.mpr requestData]
    convert first using 1
    simp
  · have requestOther : OtherParts [requestLast] :=
      List.forall_mem_singleton.mpr ⟨requestPlain, fun isData => requestData (requestNames.mp isData)⟩
    have workKey : OtherParts ([ascii "request_id", [colon, space]] ++ requestParts ++ ([requestLast] ++
        ([[comma, space], ascii "work_id", [colon, space]] ++ workParts))) :=
      requestKey.append (requestOther.append (OtherParts.append (by decide +kernel) workOthers))
    rw [behindRequestId, workCut]
    by_cases workData : NamesData workId
    · obtain ⟨before, first⟩ := firstAt_data noQuote workKey (behindWorkId prompt)
      refine ⟨before, behindWorkId prompt, ?_, .inl ⟨.inr workData, rfl⟩⟩
      rw [workNames.mpr workData]
      convert first using 1
      simp [Lines.stream_append]
    · have workOther : OtherParts [workLast] :=
        List.forall_mem_singleton.mpr ⟨workPlain, fun isData => workData (workNames.mp isData)⟩
      have fixed : OtherParts fixedParts := by decide +kernel
      obtain ⟨before, first⟩ := firstAt_data noQuote (workKey.append (workOther.append fixed)) _
      refine ⟨before, _, ?_, .inr ⟨⟨requestData, workData⟩, rfl⟩⟩
      convert first using 1
      simp [Lines.stream_append, behindWorkId, dataMember]

section
variable {prompt : Bytes}

theorem matched_promptMember_iff : Matched (promptMember prompt) ↔ Matched prompt := by
  have cut : promptMember prompt = quoted (ascii "prompt") ++ [colon, space, quote] ++
      (Json.escape prompt ++ [quote]) := by
    simp [promptMember, quoted]
  rw [cut, matched_between_iff (by decide +kernel) (by decide +kernel), matched_escape_iff]

/-- What the data of a message spells. -/
def promptData (valid : Utf8.Valid prompt) : List (Json.Text × Json) := [(.ofAscii "prompt", .string ⟨prompt, valid⟩)]

theorem parse_promptMember (valid : Utf8.Valid prompt) :
    Json.parse (openBrace :: (promptMember prompt ++ [closeBrace])) = some (.object (promptData valid)) := by
  have key : Json.escape (ascii "prompt") = ascii "prompt" := by decide +kernel
  have spelled : openBrace :: (promptMember prompt ++ [closeBrace]) = Json.dumps (.object (promptData valid)) := by
    simp [promptMember, promptData, Json.dumps, Json.dumpsMembers, Json.dumpsMoreMembers, Json.dumpsMember,
      Json.dumpsString, Json.Text.ofAscii, key]
  rw [spelled, Json.parse_dumps]

variable (requestId workId : Bytes)

/-- The data of a message gets through where the ids do not get in the way, and the braces of the prompt match. -/
theorem readsData_message_iff (valid : Utf8.Valid prompt) {members : List (Json.Text × Json)} :
    ReadsData (UnitManagerClient.inferenceMessage requestId workId prompt).dumps members ↔
      members = promptData valid ∧ ¬ NamesData requestId ∧ ¬ NamesData workId ∧ Matched prompt := by
  obtain ⟨before, after, first, behind⟩ := firstAt_message requestId workId prompt
  have here : ReadsData (UnitManagerClient.inferenceMessage requestId workId prompt).dumps members ↔
      ReadsObject members after := by
    refine ⟨?_, fun reads => ⟨before, after, first, reads⟩⟩
    rintro ⟨before', after', first', reads⟩
    rwa [(first.unique first').2]
  rw [here]
  rcases behind with ⟨named, isComma⟩ | ⟨unnamed, rfl⟩
  · obtain ⟨rest, rfl⟩ := List.head?_eq_some_iff.mp isComma
    refine iff_of_false (not_readsObject_comma rest) ?_
    rintro ⟨-, notRequest, notWork, -⟩
    exact named.elim notRequest notWork
  · rw [readsObject_braced_iff (by decide +kernel) (by decide +kernel) (parse_promptMember valid),
      matched_promptMember_iff]
    exact and_congr_right fun _ => ⟨fun matched => ⟨unnamed.1, unnamed.2, matched⟩, fun clear => clear.2.2⟩

/-- A message that is JSON text has a prompt of whole characters. -/
theorem valid_of_message (valid : Utf8.Valid (UnitManagerClient.inferenceMessage requestId workId prompt).dumps) :
    Utf8.Valid prompt := by
  have cut : (UnitManagerClient.inferenceMessage requestId workId prompt).dumps =
      openBrace :: (Lines.stream quote [[], ascii "request_id", [colon, space]] ++ (Json.escape requestId ++ quote ::
        (Lines.stream quote [[comma, space], ascii "work_id", [colon, space]] ++ (Json.escape workId ++ quote ::
          (Lines.stream quote fixedParts ++ (ascii "data" ++ quote :: ([colon, space] ++ openBrace ::
            (quoted (ascii "prompt") ++ [colon, space])))))))) ++ quote :: (Json.escape prompt ++ quote ::
              (closeBrace :: [closeBrace])) := by
    have whole : (UnitManagerClient.inferenceMessage requestId workId prompt).dumps =
        openBrace :: (UnitManagerClient.inferenceMessage requestId workId prompt).dumps.drop 1 := rfl
    rw [whole, inferenceMessage_cut]
    simp [behindRequestId, behindWorkId, dataMember, promptMember, quoted]
  rw [cut] at valid
  have behind := (valid.split (show Utf8.IsAscii quote by decide)).2
  exact Json.escape_valid_iff.mp (behind.split (show Utf8.IsAscii quote by decide)).1

theorem streamPrompt_eq {data : Bytes} {valid : Utf8.Valid prompt}
    (parsed : Json.parse data = some (.object (promptData valid))) : streamPrompt data = .ok prompt := by
  have found : (promptData valid).reverse.find? (fun member => member.1.bytes == ascii "prompt") =
      some (.ofAscii "prompt", .string ⟨prompt, valid⟩) := rfl
  rw [streamPrompt, parsed]
  simp only [found]

theorem streamPrompt_object {data : Bytes} (read : streamPrompt data = .ok prompt) :
    ∃ members, Json.parse data = some (.object members) := by
  unfold streamPrompt at read
  split at read
  · next members parsed => exact ⟨members, parsed⟩
  · cases read

/-- The node reads the prompt back that the gateway sent. -/
theorem streamPrompt_message_iff {format : IntFormat} (addressable : Addressable format) (comId : Int)
    (valid : Utf8.Valid prompt) (channel : Channel) :
    streamPrompt (channel.subscriberEventCall (inferenceRawData format comId
        (UnitManagerClient.inferenceMessage requestId workId prompt).dumps)).1.2 = .ok prompt ↔
      ¬ NamesData requestId ∧ ¬ NamesData workId ∧ Matched prompt := by
  constructor
  · intro read
    obtain ⟨members, parsed⟩ := streamPrompt_object read
    have reads := (parse_data_iff addressable comId _ members channel).mp parsed
    exact ((readsData_message_iff requestId workId valid).mp reads).2
  · intro clear
    have reads := (readsData_message_iff requestId workId valid).mpr ⟨rfl, clear⟩
    exact streamPrompt_eq ((parse_data_iff addressable comId _ _ channel).mpr reads)

end

/-- The data of an inference request reaches the callback of a node where the scanner gets it whole from the request;
that of the gateway's requests does, when no id names `data` and the braces of the prompt match. -/
theorem data_reaches_iff {bus : Bus} (addressable : Addressable bus.zmqCFormat) {comId : Int} {jsonStr : Bytes}
    {sent : List Sent} (returned : unitActionMatch bus comId jsonStr = .ok sent) {unit : UnitData} {raw : Bytes}
    (published : .published unit raw ∈ sent) (channel : Channel) :
    (∀ members, Json.parse (channel.subscriberEventCall raw).1.2 = some (.object members) ↔ ReadsData jsonStr members) ∧
      ∀ requestId workId prompt, jsonStr = (UnitManagerClient.inferenceMessage requestId workId prompt).dumps →
        (streamPrompt (channel.subscriberEventCall raw).1.2 = .ok prompt ↔
          ¬ NamesData requestId ∧ ¬ NamesData workId ∧ Matched prompt) := by
  obtain ⟨header, read, -, -, rfl⟩ := unitActionMatch_published returned published
  refine ⟨fun members => parse_data_iff addressable comId jsonStr members channel, ?_⟩
  rintro requestId workId prompt rfl
  have valid := valid_of_message requestId workId (bus.simdjson.utf8 _ (readHeader_accepts read))
  exact streamPrompt_message_iff requestId workId addressable comId valid channel

/-- A session of the language model. -/
def conversation : UnitData :=
  ⟨0, ascii "rkllm.0", ascii "ipc:///tmp/llm/5010.sock.rkllm.output_url",
    ascii "ipc:///tmp/llm/5011.sock.rkllm.inference_url"⟩

def Bus.conversing : Bus :=
  { Bus.unattended with
    registry := ⟨1, 5010, [true, true], fun key => if key = ascii "rkllm.0" then some (.unit conversation) else none⟩ }

def promptMessage (prompt : String) : Bytes :=
  (UnitManagerClient.inferenceMessage (ascii "2") (ascii "rkllm.0") (ascii prompt)).dumps

theorem data_reaches_hello : streamPrompt (someChannel.subscriberEventCall
    (inferenceRawData zmqCFormat 8000 (promptMessage "hello"))).1.2 = .ok (ascii "hello") := by
  have returned : unitActionMatch Bus.conversing 8000 (promptMessage "hello") =
      .ok [.published conversation (inferenceRawData zmqCFormat 8000 (promptMessage "hello"))] := by
    decide +kernel
  have reaches := data_reaches_iff zmqCFormat_addressable returned (List.mem_singleton_self _) someChannel
  exact (reaches.2 (ascii "2") (ascii "rkllm.0") (ascii "hello") rfl).mpr (by decide +kernel)

/-- The brace of this prompt ends the data. -/
theorem data_cut_at_brace : ¬ ∀ (bus : Bus) (comId : Int) (jsonStr : Bytes) (sent : List Sent) (unit : UnitData)
    (raw : Bytes) (channel : Channel) (members : List (Json.Text × Json)),
      unitActionMatch bus comId jsonStr = .ok sent → .published unit raw ∈ sent → DataOf jsonStr members →
        Json.parse (channel.subscriberEventCall raw).1.2 = some (.object members) := by
  intro integrity
  have returned : unitActionMatch Bus.conversing 8000 (promptMessage "\x7d") =
      .ok [.published conversation (inferenceRawData zmqCFormat 8000 (promptMessage "\x7d"))] := by
    decide +kernel
  let data : List (Json.Text × Json) := [(.ofAscii "prompt", .string (.ofAscii "\x7d"))]
  have spelled : promptMessage "\x7d" = Json.dumps (.object [(.ofAscii "request_id", .string (.ofAscii "2")),
      (.ofAscii "work_id", .string (.ofAscii "rkllm.0")), (.ofAscii "action", .string (.ofAscii "inference")),
      (.ofAscii "object", .string (.ofAscii "rkllm.input")), (.ofAscii "data", .object data)]) := by
    decide +kernel
  have dataOf : DataOf (promptMessage "\x7d") data :=
    ⟨_, .ofAscii "data", by rw [spelled, Json.parse_dumps], by simp, rfl⟩
  have whole := integrity _ _ _ _ _ _ someChannel data returned (List.mem_singleton_self _) dataOf
  have cut : (Json.parse (someChannel.subscriberEventCall
      (inferenceRawData zmqCFormat 8000 (promptMessage "\x7d"))).1.2).isNone = true := by
    decide +kernel
  rw [whole] at cut
  cases cut

end EdgeFlow.System
