import EdgeFlow.Gateway.UnitManagerClient
import EdgeFlow.Node.Replies

/-! The lines of the nodes as the gateway reads them. -/

set_option autoImplicit false

namespace EdgeFlow.System
open Library Library.Byte Node Gateway

/-! ## The JSON reader of Python -/

mutual

/-- What every reader takes: the numbers are in range, the names in an object distinct, and there are no more levels
than these. -/
def plain (inRange : Json.Number → Bool) : (levels : Nat) → Json → Bool
  | _, .number n => inRange n
  | levels + 1, .array items => plainItems inRange levels items
  | levels + 1, .object members => (members.map (·.1)).Nodup && plainMembers inRange levels members
  | 0, .array _ | 0, .object _ => false
  | _, .null | _, .bool _ | _, .string _ => true

def plainItems (inRange : Json.Number → Bool) : (levels : Nat) → List Json → Bool
  | _, [] => true
  | levels, item :: items => plain inRange levels item && plainItems inRange levels items

def plainMembers (inRange : Json.Number → Bool) : (levels : Nat) → List (Json.Text × Json) → Bool
  | _, [] => true
  | levels, (_, value) :: members => plain inRange levels value && plainMembers inRange levels members

end

mutual

/-- The Python value that a JSON value is read as. -/
def valueOf (number : Json.Number → Value) : Json → Value
  | .null => .none
  | .bool b => .bool b
  | .number n => number n
  | .string s => .str s.bytes
  | .array items => .list (valuesOf number items)
  | .object members => .dict (membersOf number members)

def valuesOf (number : Json.Number → Value) : List Json → List Value
  | [] => []
  | item :: items => valueOf number item :: valuesOf number items

def membersOf (number : Json.Number → Value) : List (Json.Text × Json) → List (Bytes × Value)
  | [] => []
  | (name, value) :: members => (name.bytes, valueOf number value) :: membersOf number members

end

/-- `json.loads` reads JSON, where numbers are not too long and values not too deep; a whole number of 64 bits is read
as it is. -/
structure LoadsJson (python : Python) (number : Json.Number → Value) (inRange : Json.Number → Bool) : Prop where
  loads : ∀ text json, Json.parse text = some json → plain inRange 8 json = true →
    python.loads text = .ok (valueOf number json)
  int : ∀ n : Int, -2 ^ 63 ≤ n → n < 2 ^ 63 → inRange (.ofInt n) = true ∧ number (.ofInt n) = .int n

/-! ## The numbers of a reply -/

/-- A whole number of 64 bits. -/
def IsLong (n : Int) : Prop := -2 ^ 63 ≤ n ∧ n < 2 ^ 63

instance (n : Int) : Decidable (IsLong n) := inferInstanceAs (Decidable (_ ∧ _))

/-- The whole numbers that go into a reply are of 64 bits. -/
def Long : ResultData → Prop
  | .none | .result (.asr ..) | .result (.rkllm _) => True
  | .result (.tts _ samples speakerId _) => IsLong samples ∧ IsLong speakerId
  | .chunk index _ _ => IsLong index

/-- The values around a reply: when it was made, and its length scale. -/
structure Stamped (inRange : Json.Number → Bool) (created : Int) (lengthScale : Json) (data : ResultData) : Prop where
  created : IsLong created
  lengthScale : plain inRange 0 lengthScale = true
  data : Long data

section
variable {inRange : Json.Number → Bool} {levels : Nat}

theorem plainMembers_iff {members : List (Json.Text × Json)} :
    plainMembers inRange levels members = true ↔ ∀ member ∈ members, plain inRange levels member.2 = true := by
  induction members with
  | nil => simp [plainMembers]
  | cons member members ih => simp [plainMembers, ih]

theorem plain_object {members : List (Json.Text × Json)} (names : (members.map (·.1)).Nodup)
    (values : ∀ member ∈ members, plain inRange levels member.2 = true) :
    plain inRange (levels + 1) (.object members) = true := by
  rw [plain, plainMembers_iff.mpr values, decide_eq_true names]
  rfl

/-- The scalars are plain at any level. -/
theorem plain_of_scalar {json : Json} (isPlain : plain inRange 0 json = true) : plain inRange levels json = true := by
  cases json with
  | null | bool | string => cases levels <;> rfl
  | number n => cases levels <;> simpa [plain] using isPlain
  | array | object => cases isPlain

theorem plain_string (text : Json.Text) : plain inRange levels (.string text) = true := plain_of_scalar rfl

theorem plain_bool (b : Bool) : plain inRange levels (.bool b) = true := plain_of_scalar rfl

end

section
variable {python : Python} {number : Json.Number → Value} {inRange : Json.Number → Bool}
  (loads : LoadsJson python number inRange)
include loads

theorem LoadsJson.decode_dump {json : Json} (isPlain : plain inRange 8 json = true) :
    JsonLineClient.decode python json.dump = .ok (valueOf number json) := by
  rw [JsonLineClient.decode, if_pos json.dump_valid, loads.loads _ json json.parse_dump isPlain]
  rfl

theorem LoadsJson.plain_int {n : Int} (isLong : IsLong n) {levels : Nat} :
    plain inRange levels (.number (.ofInt n)) = true :=
  plain_of_scalar (loads.int n isLong.1 isLong.2).1

theorem LoadsJson.number_ofInt {n : Int} (isLong : IsLong n) : number (.ofInt n) = .int n :=
  (loads.int n isLong.1 isLong.2).2

theorem plain_data {created : Int} {lengthScale : Json} {data : ResultData}
    (stamped : Stamped inRange created lengthScale data) {json : Json} (written : data.json lengthScale = some json) :
    plain inRange 7 json = true := by
  obtain ⟨-, scale, long⟩ := stamped
  cases data with
  | none =>
    cases written
    rfl
  | chunk index delta finish =>
    obtain ⟨delta, -, same⟩ := Option.bind_eq_some_iff.mp written
    cases same
    refine plain_object (by simp only [List.map_cons, List.map_nil]; decide +kernel) ?_
    simp only [List.forall_mem_cons, plain_string, plain_bool, loads.plain_int long, true_and]
    exact nofun
  | result made =>
    cases made with
    | asr text endpoint final =>
      obtain ⟨text, -, same⟩ := Option.bind_eq_some_iff.mp written
      cases same
      refine plain_object (by simp only [List.map_cons, List.map_nil]; decide +kernel) ?_
      simp only [List.forall_mem_cons, plain_string, plain_bool, true_and]
      exact nofun
    | rkllm text =>
      obtain ⟨text, -, same⟩ := Option.bind_eq_some_iff.mp written
      cases same
      refine plain_object (by simp only [List.map_cons, List.map_nil]; decide +kernel) ?_
      simp only [List.forall_mem_cons, plain_string, true_and]
      exact nofun
    | tts text samples speakerId audio =>
      have rate : IsLong sampleRate := by decide
      cases audio with
      | none =>
        obtain ⟨text, -, same⟩ := Option.bind_eq_some_iff.mp written
        cases same
        refine plain_object (by simp only [List.map_cons, List.map_nil]; decide +kernel) ?_
        simp only [List.forall_mem_cons, plain_string, plain_bool, plain_of_scalar scale, loads.plain_int rate,
          loads.plain_int long.1, loads.plain_int long.2, true_and]
        exact nofun
      | some audio =>
        obtain ⟨text, -, same⟩ := Option.bind_eq_some_iff.mp written
        obtain ⟨audio, -, same⟩ := Option.bind_eq_some_iff.mp same
        cases same
        refine plain_object (by simp only [List.map_cons, List.map_nil]; decide +kernel) ?_
        simp only [List.forall_mem_cons, plain_string, plain_bool, plain_of_scalar scale, loads.plain_int rate,
          loads.plain_int long.1, loads.plain_int long.2, true_and]
        exact nofun

theorem plain_error {errorMsg : Bytes} {json : Json} (written : errorJson errorMsg = some json) :
    plain inRange 7 json = true := by
  unfold errorJson at written
  split at written
  · cases written
    refine plain_object (by simp only [List.map_cons, List.map_nil]; decide +kernel) ?_
    simp only [List.forall_mem_cons, plain_string, loads.plain_int (show IsLong 0 by decide), true_and]
    exact nofun
  · obtain ⟨text, -, rfl⟩ := Option.map_eq_some_iff.mp written
    exact plain_string text

end

/-! ## A reply -/

/-- The data of a message as the gateway holds them. -/
def dataValue (lengthScale : Value) : ResultData → Value
  | .none => .str (ascii "None")
  | .chunk index delta finish => dict [("delta", .str delta), ("finish", .bool finish), ("index", .int index)]
  | .result (.asr text endpoint final) => dict [("endpoint", .bool endpoint), ("final", .bool final), ("text", .str text)]
  | .result (.rkllm text) => dict [("text", .str text)]
  | .result (.tts text samples speakerId (some audio)) =>
    dict [("audio_base64", .str audio), ("format", .str (ascii "wav")), ("length_scale", lengthScale),
      ("played", .bool false), ("sample_rate", .int sampleRate), ("samples", .int samples),
      ("speaker_id", .int speakerId), ("text", .str text)]
  | .result (.tts text samples speakerId none) =>
    dict [("format", .str (ascii "pcm")), ("length_scale", lengthScale), ("played", .bool true),
      ("sample_rate", .int sampleRate), ("samples", .int samples), ("speaker_id", .int speakerId), ("text", .str text)]

/-- A message as the gateway holds it. -/
def replyValue (created : Int) (data error : Value) (object requestId workId : Bytes) : Value :=
  dict [("created", .int created), ("data", data), ("error", error), ("object", .str object),
    ("request_id", .str requestId), ("work_id", .str workId)]

section
variable {python : Python} {number : Json.Number → Value} {inRange : Json.Number → Bool}
  (loads : LoadsJson python number inRange)
include loads

theorem valueOf_data {created : Int} {lengthScale : Json} {data : ResultData}
    (stamped : Stamped inRange created lengthScale data) {json : Json} (written : data.json lengthScale = some json) :
    valueOf number json = dataValue (valueOf number lengthScale) data := by
  obtain ⟨-, -, long⟩ := stamped
  cases data with
  | none =>
    cases written
    rfl
  | chunk index delta finish =>
    obtain ⟨delta, isText, same⟩ := Option.bind_eq_some_iff.mp written
    cases same
    simp only [valueOf, membersOf, loads.number_ofInt long, ← textOf_eq_some.mp isText]
    rfl
  | result made =>
    cases made with
    | asr text endpoint final =>
      obtain ⟨text, isText, same⟩ := Option.bind_eq_some_iff.mp written
      cases same
      simp only [valueOf, membersOf, ← textOf_eq_some.mp isText]
      rfl
    | rkllm text =>
      obtain ⟨text, isText, same⟩ := Option.bind_eq_some_iff.mp written
      cases same
      simp only [valueOf, membersOf, ← textOf_eq_some.mp isText]
      rfl
    | tts text samples speakerId audio =>
      have rate : IsLong sampleRate := by decide
      cases audio with
      | none =>
        obtain ⟨text, isText, same⟩ := Option.bind_eq_some_iff.mp written
        cases same
        simp only [valueOf, membersOf, loads.number_ofInt rate, loads.number_ofInt long.1, loads.number_ofInt long.2,
          ← textOf_eq_some.mp isText]
        rfl
      | some audio =>
        obtain ⟨text, isText, same⟩ := Option.bind_eq_some_iff.mp written
        obtain ⟨audio, isAudio, same⟩ := Option.bind_eq_some_iff.mp same
        cases same
        simp only [valueOf, membersOf, loads.number_ofInt rate, loads.number_ofInt long.1, loads.number_ofInt long.2,
          ← textOf_eq_some.mp isText, ← textOf_eq_some.mp isAudio]
        rfl

theorem decode_line {created : Int} {lengthScale : Json} {message : Message ResultData}
    (stamped : Stamped inRange created lengthScale message.data) {line : Bytes}
    (written : message.line lengthScale created = some line) :
    ∃ error, errorJson message.error = some error ∧
      JsonLineClient.decode python line = .ok (replyValue created (dataValue (valueOf number lengthScale) message.data)
        (valueOf number error) message.object message.requestId message.workId) := by
  obtain ⟨json, made, rfl⟩ := Option.map_eq_some_iff.mp written
  obtain ⟨data, isData, made⟩ := Option.bind_eq_some_iff.mp made
  obtain ⟨error, isError, made⟩ := Option.bind_eq_some_iff.mp made
  obtain ⟨object, isObject, made⟩ := Option.bind_eq_some_iff.mp made
  obtain ⟨requestId, isRequestId, made⟩ := Option.bind_eq_some_iff.mp made
  obtain ⟨workId, isWorkId, made⟩ := Option.bind_eq_some_iff.mp made
  cases made
  refine ⟨error, isError, ?_⟩
  rw [loads.decode_dump, ← valueOf_data loads stamped isData]
  · rw [← textOf_eq_some.mp isObject, ← textOf_eq_some.mp isRequestId, ← textOf_eq_some.mp isWorkId]
    simp only [valueOf, membersOf, loads.number_ofInt stamped.created]
    rfl
  · refine plain_object (by simp only [List.map_cons, List.map_nil]; decide +kernel) ?_
    simp only [List.forall_mem_cons, plain_string, loads.plain_int stamped.created, plain_data loads stamped isData,
      plain_error loads isError, true_and]
    exact nofun

end

theorem dataValue_truthy (lengthScale : Value) (data : ResultData) : (dataValue lengthScale data).truthy = true := by
  cases data with
  | none => rfl
  | chunk => rfl
  | result made =>
    cases made with
    | asr | rkllm => rfl
    | tts text samples speakerId audio => cases audio <;> rfl

/-! ## What the gateway makes of it -/

/-- An error text of the nodes. -/
structure Reports (errorMsg : Bytes) (code : Int) (message : Json.Text) : Prop where
  parsed : Json.parse errorMsg = some (errorObject code message)
  failure : code ≠ 0
  long : IsLong code

/-- An error text that has been dumped. -/
theorem Reports.of_dump {errorMsg : Bytes} {code : Int} {message : Json.Text}
    (spelled : errorMsg = Json.dump (errorObject code message)) (failure : code ≠ 0) (long : IsLong code) :
    Reports errorMsg code message :=
  ⟨by rw [spelled, Json.parse_dump], failure, long⟩

theorem Reports.ne_noError {errorMsg : Bytes} {code : Int} {message : Json.Text}
    (reports : Reports errorMsg code message) : errorMsg ≠ noError := by
  rintro rfl
  have nothing : Json.parse noError = none := rfl
  rw [reports.parsed] at nothing
  cases nothing

/-- What a call raises for an error of a node. -/
def raised (action : String) (code : Int) (message : Json.Text) : Exc :=
  .unitManagerError (ascii action ++ ascii " failed: " ++ message.bytes) code

section
variable {python : Python} {number : Json.Number → Value} {inRange : Json.Number → Bool}
  (loads : LoadsJson python number inRange)
include loads

theorem ensureSuccess_success (created : Int) (data : Value) (object requestId workId : Bytes) (action : String) :
    ensureSuccess python (replyValue created data (valueOf number successJson) object requestId workId) action =
      .ok () := by
  have success : valueOf number successJson = dict [("code", .int 0), ("message", .str [])] := by
    simp only [successJson, errorObject, valueOf, membersOf, loads.number_ofInt (show IsLong 0 by decide)]
    rfl
  rw [success]
  rfl

theorem ensureSuccess_reports {errorMsg : Bytes} {code : Int} {message : Json.Text}
    (reports : Reports errorMsg code message) (created : Int) (data : Value) (object requestId workId : Bytes)
    (action : String) :
    ensureSuccess python (replyValue created data (.str errorMsg) object requestId workId) action =
      .error (raised action code message) := by
  have isPlain : plain inRange 8 (errorObject code message) = true := by
    refine plain_object (by simp only [List.map_cons, List.map_nil]; decide +kernel) ?_
    simp only [List.forall_mem_cons, plain_string, loads.plain_int reports.long, true_and]
    exact nofun
  have loaded := loads.loads errorMsg _ reports.parsed isPlain
  simp only [errorObject, valueOf, membersOf, loads.number_ofInt reports.long] at loaded
  have normalized : normalizeError python (.str errorMsg) =
      .ok (dict [("code", .int code), ("message", .str message.bytes)]) := by
    simp only [normalizeError, loaded]
    rfl
  have found : (replyValue created data (.str errorMsg) object requestId workId).get "error" .none =
      .ok (.str errorMsg) := rfl
  have readCode : ∀ default, (dict [("code", .int code), ("message", .str message.bytes)]).get "code" default =
      .ok (.int code) := fun _ => rfl
  have readMessage : ∀ default, (dict [("code", .int code), ("message", .str message.bytes)]).get "message" default =
      .ok (.str message.bytes) := fun _ => rfl
  have notZero : ¬ (Value.int code).isZero = true := by simpa [Value.isZero] using reports.failure
  simp only [ensureSuccess, found, normalized, readCode, readMessage, bind, Except.bind, if_neg notZero]
  rfl

theorem streamData_success (created : Int) {data : Value} (truthy : data.truthy = true) (requestId workId : Bytes) :
    UnitManagerClient.streamData python (replyValue created data (valueOf number successJson)
      (ascii "rkllm.result.stream") requestId workId) = .ok data := by
  have checked := ensureSuccess_success loads created data (ascii "rkllm.result.stream") requestId workId
    "rkllm inference"
  have object : (replyValue created data (valueOf number successJson) (ascii "rkllm.result.stream") requestId
    workId).get "object" .none = .ok (.str (ascii "rkllm.result.stream")) := rfl
  have found : (replyValue created data (valueOf number successJson) (ascii "rkllm.result.stream") requestId
    workId).get "data" .none = .ok data := rfl
  simp only [UnitManagerClient.streamData, checked, object, found, bind, Except.bind, ne_eq, not_true, if_false, truthy,
    if_true]

theorem responseData_success (created : Int) {data : Value} (truthy : data.truthy = true) (requestId workId : Bytes)
    (object actionName : String) :
    UnitManagerClient.responseData python object actionName (replyValue created data (valueOf number successJson)
      (ascii object) requestId workId) = .ok data := by
  have checked := ensureSuccess_success loads created data (ascii object) requestId workId actionName
  have isObject : (replyValue created data (valueOf number successJson) (ascii object) requestId workId).get
    "object" .none = .ok (.str (ascii object)) := rfl
  have found : (replyValue created data (valueOf number successJson) (ascii object) requestId workId).get "data" .none =
    .ok data := rfl
  simp only [UnitManagerClient.responseData, checked, isObject, found, bind, Except.bind, ne_eq, not_true, if_false,
    truthy, if_true]

variable {created : Int} {lengthScale : Json} {message : Message ResultData}
  (stamped : Stamped inRange created lengthScale message.data) {line : Bytes}
  (written : message.line lengthScale created = some line)
include stamped written

/-- The message of a success. -/
theorem decode_success (success : message.error = noError) :
    JsonLineClient.decode python line = .ok (replyValue created (dataValue (valueOf number lengthScale) message.data)
      (valueOf number successJson) message.object message.requestId message.workId) := by
  obtain ⟨error, isError, decoded⟩ := decode_line loads stamped written
  rw [success, errorJson, if_pos rfl] at isError
  cases isError
  exact decoded

/-- The message of an error. -/
theorem decode_failure (failure : message.error ≠ noError) :
    JsonLineClient.decode python line = .ok (replyValue created (dataValue (valueOf number lengthScale) message.data)
      (.str message.error) message.object message.requestId message.workId) := by
  obtain ⟨error, isError, decoded⟩ := decode_line loads stamped written
  rw [errorJson, if_neg failure] at isError
  obtain ⟨text, isText, rfl⟩ := Option.map_eq_some_iff.mp isError
  rw [decoded, ← textOf_eq_some.mp isText]
  rfl

/-- What a stream yields for a success. -/
theorem lineData_success (success : message.error = noError)
    (isObject : message.object = ascii "rkllm.result.stream") :
    UnitManagerClient.lineData python line = .ok (dataValue (valueOf number lengthScale) message.data) := by
  rw [UnitManagerClient.lineData, decode_success loads stamped written success, isObject]
  exact streamData_success loads created (dataValue_truthy _ _) message.requestId message.workId

/-- What a call returns for a success. -/
theorem inferenceData_success (success : message.error = noError) {object : String}
    (isObject : message.object = ascii object) (actionName : String) :
    (JsonLineClient.decode python line >>= UnitManagerClient.responseData python object actionName) =
      .ok (dataValue (valueOf number lengthScale) message.data) := by
  rw [decode_success loads stamped written success, isObject]
  exact responseData_success loads created (dataValue_truthy _ _) message.requestId message.workId object actionName

section
variable {code : Int} {text : Json.Text} (reports : Reports message.error code text)
include reports

/-- What they raise for an error. -/
theorem lineData_failure : UnitManagerClient.lineData python line = .error (raised "rkllm inference" code text) := by
  rw [UnitManagerClient.lineData, decode_failure loads stamped written reports.ne_noError]
  simp only [bind, Except.bind, UnitManagerClient.streamData, ensureSuccess_reports loads reports]

theorem inferenceData_failure (object actionName : String) :
    (JsonLineClient.decode python line >>= UnitManagerClient.responseData python object actionName) =
      .error (raised actionName code text) := by
  rw [decode_failure loads stamped written reports.ne_noError]
  simp only [bind, Except.bind, UnitManagerClient.responseData, ensureSuccess_reports loads reports]

end

end

/-! ## A reader -/

/-- The numbers as if all of them were whole. -/
def wholeNumber (n : Json.Number) : Value :=
  match n.lexeme with
  | b :: digits => .int (if b = minus then -Decimal.value 10 digits else Decimal.value 10 (b :: digits))
  | [] => .int 0

def jsonPython : Python where
  loads text := (Json.parse text).elim (.error .jsonDecodeError) fun json => .ok (valueOf wholeNumber json)
  repr _ := []
  parseInt _ := none
  truncate _ := none

theorem wholeNumber_ofInt (n : Int) : wholeNumber (.ofInt n) = .int n := by
  have unsigned : ∀ k : Nat, wholeNumber (.ofInt k) = .int k := by
    intro k
    have value := Decimal.value_ofNat k
    have noMinus := Decimal.minus_notMem_ofNat k
    have lexeme : (Json.Number.ofInt k).lexeme = Decimal.ofNat k := rfl
    unfold wholeNumber
    rw [lexeme]
    cases spelled : Decimal.ofNat k with
    | nil => exact absurd spelled (Decimal.ofNat_ne_nil k)
    | cons b digits =>
      rw [spelled] at value noMinus
      have notMinus : ¬ b = minus := fun same => noMinus (same ▸ List.mem_cons_self)
      simp only [if_neg notMinus, value]
  cases n with
  | ofNat k => exact unsigned k
  | negSucc k =>
    have lexeme : (Json.Number.ofInt (.negSucc k)).lexeme = minus :: Decimal.ofNat (k + 1) := rfl
    simp only [wholeNumber, lexeme, if_true, Decimal.value_ofNat]
    rfl

theorem jsonPython_loads : LoadsJson jsonPython wholeNumber fun _ => true where
  loads text json parsed _ := by
    simp only [jsonPython, parsed]
    rfl
  int n _ _ := ⟨rfl, wholeNumber_ofInt n⟩

end EdgeFlow.System
