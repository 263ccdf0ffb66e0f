import EdgeFlow.Gateway.Python
import EdgeFlow.Library.Lines
import Mathlib.Data.List.TakeWhile

/-! `unit_manager_client.py`: the gateway's side of a connection to unit-manager. -/

set_option autoImplicit false

namespace EdgeFlow.Gateway
open Library Library.Byte

/-- What the calls on a connection come to. -/
structure Peer where
  /-- `create_connection` gets one -/
  accepts : Bool
  /-- the `n`th `sendall` gets through -/
  takes : Nat → Bool
  /-- what `recv` returns, call by call -/
  chunks : List Bytes
  /-- after that `recv` returns nothing; else it times out or fails -/
  closes : Bool

/-- `JsonLineClient`: what has been received but not read, and what `recv` is going to return. -/
structure JsonLineClient where
  buffer : Bytes
  chunks : List Bytes
  deriving DecidableEq

def dict (members : List (String × Value)) : Value := .dict (members.map fun (key, value) => (ascii key, value))

section
variable (python : Python)

def normalizeError : Value → Except Exc Value
  | .str error =>
    match python.loads error with
    | .ok value => .ok value
    | .error .jsonDecodeError => .ok (dict [("code", .int (-1)), ("message", .str error)])
    | .error other => .error (.builtin other)
  | error => .ok (if error.truthy then error else dict [("code", .int 0), ("message", .str [])])

/-- `_ensure_success` -/
def ensureSuccess (response : Value) (action : String) : Except Exc Unit := do
  let error ← normalizeError python (← response.get "error" .none)
  let code ← error.get "code" (.int 0)
  if code.isZero then .ok ()
  else
    let message ← error.get "message" error
    let code ← error.get "code" (.int (-1))
    .error (.unitManagerError (ascii action ++ ascii " failed: " ++ python.str message) (← python.int code))

/-- What a call is named shows in the error only. -/
theorem ensureSuccess_ok {response : Value} {action : String} (succeeds : ensureSuccess python response action = .ok ())
    (other : String) : ensureSuccess python response other = .ok () := by
  unfold ensureSuccess at succeeds ⊢
  simp only [bind, Except.bind] at succeeds ⊢
  split at succeeds
  · cases succeeds
  · split at succeeds
    · cases succeeds
    · split at succeeds
      · cases succeeds
      · next code _ =>
        by_cases isZero : code.isZero = true
        · simp only [*, if_true]
        · rw [if_neg isZero] at succeeds
          repeat' split at succeeds
          all_goals cases succeeds

def closedConnection : Exc := .unitManagerError (ascii "unit-manager closed the connection") (-1)

namespace JsonLineClient

/-- The bytes of `send`, as far as the text has any. -/
def payload (message : Value) : Except Exc Bytes :=
  let text := message.dumps ++ [newline]
  if Utf8.Valid text then .ok text else .error (.builtin .unicodeError)

def send (takes : Bool) (message : Value) : Except Exc Unit := do
  let _ ← payload message
  if takes then .ok () else .error (.builtin .osError)

/-- The message has bytes, and they get through. -/
def Sends (takes : Bool) (message : Value) : Prop := Utf8.Valid (message.dumps ++ [newline]) ∧ takes = true

theorem send_cases (takes : Bool) (message : Value) :
    (Sends takes message ∧ send takes message = .ok ()) ∨
      (¬ Sends takes message ∧ ∃ error, send takes message = .error (.builtin error)) := by
  by_cases valid : Utf8.Valid (message.dumps ++ [newline])
  · have encoded : payload message = .ok (message.dumps ++ [newline]) := if_pos valid
    cases takes with
    | true => exact .inl ⟨⟨valid, rfl⟩, by simp only [send, encoded]; rfl⟩
    | false => exact .inr ⟨fun sends => Bool.noConfusion sends.2, .osError, by simp only [send, encoded]; rfl⟩
  · have failed : payload message = .error (.builtin .unicodeError) := if_neg valid
    exact .inr ⟨fun sends => valid sends.1, .unicodeError, by simp only [send, failed]; rfl⟩

/-- `split(b"\n", 1)` where there is a line to split off. -/
def splitLine (buffer : Bytes) : Option (Bytes × Bytes) :=
  match buffer.dropWhile (· ≠ newline) with
  | [] => none
  | _ :: rest => some (buffer.takeWhile (· ≠ newline), rest)

/-- The loop of `receive`. -/
def readLine (closes : Bool) : (buffer : Bytes) → (chunks : List Bytes) → Except Exc (Bytes × JsonLineClient)
  | buffer, chunks =>
    match splitLine buffer with
    | some (line, rest) => .ok (line, ⟨rest, chunks⟩)
    | none =>
      match chunks with
      | [] => .error (if closes then closedConnection else .builtin .osError)
      | chunk :: chunks => if chunk.isEmpty then .error closedConnection else readLine closes (buffer ++ chunk) chunks

/-- The value of a line. -/
def decode (line : Bytes) : Except Exc Value :=
  if Utf8.Valid line then (python.loads line).mapError .builtin else .error (.builtin .unicodeError)

def receive (closes : Bool) (client : JsonLineClient) : Except Exc (Value × JsonLineClient) := do
  let (line, client) ← readLine closes client.buffer client.chunks
  .ok (← decode python line, client)

/-- What comes in before `recv` first returns nothing. -/
def incoming (client : JsonLineClient) : Bytes := client.buffer ++ (client.chunks.takeWhile (!·.isEmpty)).flatten

/-- What a read past the last line raises. -/
def runsOut (closes : Bool) (client : JsonLineClient) : Exc :=
  if closes || client.chunks.any (·.isEmpty) then closedConnection else .builtin .osError

theorem splitLine_eq_some {buffer line rest : Bytes} :
    splitLine buffer = some (line, rest) ↔ buffer = line ++ newline :: rest ∧ newline ∉ line := by
  have cut := List.takeWhile_append_dropWhile (p := (· ≠ newline)) (l := buffer)
  have absent : newline ∉ buffer.takeWhile (· ≠ newline) := fun member => by
    have := List.mem_takeWhile_imp member
    simp at this
  unfold splitLine
  cases dropped : buffer.dropWhile (· ≠ newline) with
  | nil =>
    rw [dropped, List.append_nil] at cut
    simp only [reduceCtorEq, false_iff, not_and]
    rintro rfl
    rw [cut] at absent
    simp at absent
  | cons first more =>
    have isNewline : first = newline := by
      have := List.head?_dropWhile_not (· ≠ newline) buffer
      rw [dropped] at this
      simpa using this
    subst isNewline
    rw [dropped] at cut
    simp only [Option.some.injEq, Prod.mk.injEq]
    constructor
    · rintro ⟨rfl, rfl⟩
      exact ⟨cut.symm, absent⟩
    · rintro ⟨same, absent'⟩
      exact Lines.terminated_inj absent absent' (cut.trans same)

theorem splitLine_eq_none {buffer : Bytes} : splitLine buffer = none ↔ newline ∉ buffer := by
  constructor
  · intro noLine member
    obtain ⟨line, rest, same, absent⟩ := List.eq_append_cons_of_mem member
    rw [splitLine_eq_some.mpr ⟨same, absent⟩] at noLine
    cases noLine
  · intro absent
    cases found : splitLine buffer with
    | none => rfl
    | some pair =>
      obtain ⟨line, rest⟩ := pair
      rw [(splitLine_eq_some.mp found).1] at absent
      simp at absent

/-- A line that is in the buffer is there whatever comes after it. -/
theorem splitLine_append {buffer line rest : Bytes} (found : splitLine buffer = some (line, rest)) (more : Bytes) :
    splitLine (buffer ++ more) = some (line, rest ++ more) := by
  obtain ⟨rfl, absent⟩ := splitLine_eq_some.mp found
  exact splitLine_eq_some.mpr ⟨by simp, absent⟩

/-- However the bytes are cut into chunks, a read takes the next line off what comes in. -/
theorem readLine_eq (closes : Bool) (buffer : Bytes) (chunks : List Bytes) :
    match splitLine (incoming ⟨buffer, chunks⟩) with
    | some (line, rest) => ∃ after, readLine closes buffer chunks = .ok (line, after) ∧ after.incoming = rest ∧
        after.runsOut closes = runsOut closes ⟨buffer, chunks⟩
    | none => readLine closes buffer chunks = .error (runsOut closes ⟨buffer, chunks⟩) := by
  induction chunks generalizing buffer with
  | nil =>
    rw [readLine, show incoming ⟨buffer, []⟩ = buffer by simp [incoming]]
    cases splitLine buffer with
    | none => simp [runsOut]
    | some pair => exact ⟨⟨pair.2, []⟩, rfl, by simp [incoming], rfl⟩
  | cons chunk chunks ih =>
    cases found : splitLine buffer with
    | some pair =>
      obtain ⟨line, rest⟩ := pair
      rw [incoming, splitLine_append found]
      exact ⟨⟨rest, chunk :: chunks⟩, by rw [readLine, found], rfl, rfl⟩
    | none =>
      cases chunk with
      | nil =>
        rw [show incoming ⟨buffer, [] :: chunks⟩ = buffer by simp [incoming], found, readLine, found]
        simp [runsOut]
      | cons b chunk =>
        have later := ih (buffer ++ b :: chunk)
        have same : incoming ⟨buffer, (b :: chunk) :: chunks⟩ = incoming ⟨buffer ++ b :: chunk, chunks⟩ := by
          simp [incoming]
        have out : runsOut closes ⟨buffer, (b :: chunk) :: chunks⟩ = runsOut closes ⟨buffer ++ b :: chunk, chunks⟩ := by
          simp [runsOut]
        rw [same, out, readLine, found]
        exact later

/-- The lines that are going to be read. -/
def lines (client : JsonLineClient) : List Bytes := Lines.complete newline client.incoming

theorem receive_eq (closes : Bool) (client : JsonLineClient) :
    match client.lines with
    | line :: lines => ∃ after, client.receive python closes = (decode python line).map (·, after) ∧
        after.lines = lines ∧ after.runsOut closes = client.runsOut closes ∧
        after.incoming.length < client.incoming.length
    | [] => client.receive python closes = .error (client.runsOut closes) := by
  have spec := readLine_eq closes client.buffer client.chunks
  cases found : splitLine client.incoming with
  | none =>
    rw [show incoming ⟨client.buffer, client.chunks⟩ = client.incoming from rfl, found] at spec
    rw [lines, Lines.complete_of_notMem (splitLine_eq_none.mp found)]
    simp only [receive, spec, bind, Except.bind]
  | some pair =>
    obtain ⟨line, rest⟩ := pair
    rw [show incoming ⟨client.buffer, client.chunks⟩ = client.incoming from rfl, found] at spec
    obtain ⟨after, read, left, out⟩ := spec
    obtain ⟨shape, absent⟩ := splitLine_eq_some.mp found
    rw [lines, shape, Lines.complete_cons absent]
    refine ⟨after, ?_, by rw [lines, left], out, ?_⟩
    · simp only [receive, read, bind, Except.bind]
      cases decode python line <;> rfl
    · rw [left, List.length_append, List.length_cons]
      omega

theorem receive_shrinks {closes : Bool} {client after : JsonLineClient} {response : Value}
    (received : client.receive python closes = .ok (response, after)) :
    after.incoming.length < client.incoming.length := by
  have spec := receive_eq python closes client
  split at spec
  · obtain ⟨after', read, -, -, shorter⟩ := spec
    rw [received] at read
    cases value : decode python _ with
    | error exc =>
      rw [value] at read
      cases read
    | ok response' =>
      rw [value] at read
      cases read
      exact shorter
  · rw [spec] at received
    cases received

end JsonLineClient

namespace UnitManagerClient

def setupMessage (requestId : Bytes) (unitName : String) : Value :=
  dict [("request_id", .str requestId), ("work_id", .str (ascii unitName)), ("action", .str (ascii "setup")),
    ("object", .str (ascii (unitName ++ ".setup"))), ("data", .dict [])]

def inferenceMessage (requestId workId prompt : Bytes) : Value :=
  dict [("request_id", .str requestId), ("work_id", .str workId), ("action", .str (ascii "inference")),
    ("object", .str (ascii "rkllm.input")), ("data", dict [("prompt", .str prompt)])]

/-- The work id in a response to `setup`. -/
def workIdOf (unitName : String) (response : Value) : Except Exc Bytes := do
  match ← response.get "work_id" .none with
  | .str (first :: rest) => .ok (first :: rest)
  | _ => .error (.unitManagerError (ascii unitName ++ ascii " setup returned no work_id") (-1))

def setup (peer : Peer) (requestId : Bytes) (unitName : String) (client : JsonLineClient) :
    Except Exc (Bytes × JsonLineClient) := do
  JsonLineClient.send (peer.takes 0) (setupMessage requestId unitName)
  let (response, client) ← client.receive python peer.closes
  ensureSuccess python response (unitName ++ " setup")
  .ok (← workIdOf unitName response, client)

/-- What the setup comes to, once a line is there. -/
def setupResult (unitName : String) (line : Bytes) : Except Exc Bytes := do
  let response ← JsonLineClient.decode python line
  ensureSuccess python response (unitName ++ " setup")
  workIdOf unitName response

def exitMessage (requestId workId : Bytes) (unitName : String) : Value :=
  dict [("request_id", .str requestId), ("work_id", .str workId), ("action", .str (ascii "exit")),
    ("object", .str (ascii (unitName ++ ".exit"))), ("data", .dict [])]

/-- `exit`: the request, if it gets out, and what is raised. -/
def exit (peer : Peer) (requestId workId : Bytes) (unitName : String) (client : JsonLineClient) :
    List Value × Except Exc Unit :=
  match JsonLineClient.send (peer.takes 0) (exitMessage requestId workId unitName) with
  | .error exc => ([], .error exc)
  | .ok () => ([exitMessage requestId workId unitName], do
      let (response, _) ← client.receive python peer.closes
      ensureSuccess python response (unitName ++ " exit"))

/-- The message of `inference_once`. -/
def inferenceOnceMessage (requestId workId : Bytes) (objectName : String) (data : Value) : Value :=
  dict [("request_id", .str requestId), ("work_id", .str workId), ("action", .str (ascii "inference")),
    ("object", .str (ascii objectName)), ("data", data)]

/-- What `rkllm_stream` makes of a response before it yields. -/
def streamData (response : Value) : Except Exc Value := do
  ensureSuccess python response "rkllm inference"
  let object ← response.get "object" .none
  match object with
  | .str name =>
    if name ≠ ascii "rkllm.result.stream" then .error (unexpectedObject object)
  | _ => .error (unexpectedObject object)
  let data ← response.get "data" .none
  .ok (if data.truthy then data else .dict [])
where
  unexpectedObject (object : Value) : Exc :=
    .unitManagerError (ascii "unexpected rkllm response object: " ++ python.str object) (-1)

/-- What `inference_once` returns of a response. -/
def responseData (expectedObject actionName : String) (response : Value) : Except Exc Value := do
  ensureSuccess python response actionName
  let object ← response.get "object" .none
  match object with
  | .str name =>
    if name ≠ ascii expectedObject then .error (unexpectedObject object)
  | _ => .error (unexpectedObject object)
  let data ← response.get "data" .none
  .ok (if data.truthy then data else .dict [])
where
  unexpectedObject (object : Value) : Exc :=
    .unitManagerError (ascii "unexpected " ++ ascii actionName ++ ascii " response object: " ++ python.str object) (-1)

/-- `inference_once`: the messages that got out, and what comes of the call. -/
def inferenceOnce (takes closes : Bool) (message : Value) (expectedObject actionName : String)
    (client : JsonLineClient) : List Value × Except Exc (Value × JsonLineClient) :=
  match JsonLineClient.send takes message with
  | .error exc => ([], .error exc)
  | .ok () => ([message], do
      let (response, client) ← client.receive python closes
      .ok (← responseData python expectedObject actionName response, client))

/-- The loop of `rkllm_stream`: what it yields, and the exception that it ends with. -/
def streamLoop (closes : Bool) (client : JsonLineClient) : List Value × Option Exc :=
  match _ : client.receive python closes with
  | .error exc => ([], some exc)
  | .ok (response, after) =>
    match streamData python response with
    | .error exc => ([], some exc)
    | .ok data =>
      match data.get "finish" (.bool false) with
      | .error exc => ([data], some exc)
      | .ok finish =>
        if finish.truthy then ([data], none)
        else
          let (more, ended) := streamLoop closes after
          (data :: more, ended)
termination_by client.incoming.length
decreasing_by exact JsonLineClient.receive_shrinks python ‹_›

/-- What a line of the stream brings. -/
def lineData (line : Bytes) : Except Exc Value := JsonLineClient.decode python line >>= streamData python

/-- The same over the lines that come in; `out` is what a read past the last one raises. -/
def streamLines (out : Exc) : List Bytes → List Value × Option Exc
  | [] => ([], some out)
  | line :: lines =>
    match lineData python line with
    | .error exc => ([], some exc)
    | .ok data =>
      match data.get "finish" (.bool false) with
      | .error exc => ([data], some exc)
      | .ok finish =>
        if finish.truthy then ([data], none)
        else
          let (more, ended) := streamLines out lines
          (data :: more, ended)

theorem streamLoop_eq (closes : Bool) (client : JsonLineClient) :
    streamLoop python closes client = streamLines python (client.runsOut closes) client.lines := by
  -- every line that is received leaves fewer bytes behind it
  induction size : client.incoming.length using Nat.strong_induction_on generalizing client with
  | _ n ih =>
    have spec := JsonLineClient.receive_eq python closes client
    cases found : client.lines with
    | nil =>
      rw [found] at spec
      rw [streamLoop]
      split
      · next exc failed =>
        cases spec.symm.trans failed
        rfl
      · next received =>
        cases spec.symm.trans received
    | cons line lines =>
      rw [found] at spec
      obtain ⟨following, read, left, out, shorter⟩ := spec
      have later := ih following.incoming.length (size ▸ shorter) following rfl
      rw [left, out] at later
      rw [streamLoop, streamLines]
      split
      · next exc failed =>
        rw [read] at failed
        cases value : JsonLineClient.decode python line with
        | error exc' =>
          rw [value] at failed
          cases failed
          rw [lineData, value]
          rfl
        | ok response =>
          rw [value] at failed
          cases failed
      · next response after received =>
        rw [read] at received
        cases value : JsonLineClient.decode python line with
        | error exc' =>
          rw [value] at received
          cases received
        | ok response' =>
          rw [value] at received
          cases received
          have brings : lineData python line = streamData python response := by
            rw [lineData, value]
            rfl
          simp only [brings, later]

/-- With JSON data the message is a JSON object. -/
theorem dumps_inferenceOnceMessage (requestId workId : Json.Text) {objectName : String}
    (isAscii : ∀ b ∈ ascii objectName, Utf8.IsAscii b) {data : Value} {json : Json} (same : data.dumps = json.dumps) :
    ∃ members, (inferenceOnceMessage requestId.bytes workId.bytes objectName data).dumps =
      Json.dumps (.object members) := by
  refine ⟨[(.ofAscii "request_id", .string requestId), (.ofAscii "work_id", .string workId),
    (.ofAscii "action", .string (.ofAscii "inference")), (.ofAscii "object", .string (.ofAscii objectName isAscii)),
    (.ofAscii "data", json)], ?_⟩
  simp [inferenceOnceMessage, dict, Value.dumps, Value.dumpsMembers, Value.dumpsMoreMembers, Value.dumpsMember,
    Json.dumps, Json.dumpsMembers, Json.dumpsMoreMembers, Json.dumpsMember, Json.dumpsString, Json.Text.ofAscii, same]

/-- It goes out where the connection takes it. -/
theorem sends_inferenceOnceMessage (requestId workId : Json.Text) {objectName : String}
    (isAscii : ∀ b ∈ ascii objectName, Utf8.IsAscii b) {data : Value} {json : Json} (same : data.dumps = json.dumps) :
    JsonLineClient.Sends true (inferenceOnceMessage requestId.bytes workId.bytes objectName data) := by
  obtain ⟨members, whole⟩ := dumps_inferenceOnceMessage requestId workId isAscii same
  refine ⟨?_, rfl⟩
  rw [whole]
  exact (Json.dumps_valid _).append (by decide)

/-- The name of a call is in the errors only. -/
theorem responseData_ok {expectedObject actionName : String} {response data : Value}
    (returned : responseData python expectedObject actionName response = .ok data) (other : String) :
    responseData python expectedObject other response = .ok data := by
  have succeeds : ensureSuccess python response actionName = .ok () := by
    cases checked : ensureSuccess python response actionName with
    | ok done => rfl
    | error exc =>
      rw [responseData, checked] at returned
      cases returned
  rw [responseData, succeeds] at returned
  rw [responseData, ensureSuccess_ok python succeeds other]
  cases object : response.get "object" .none with
  | error exc =>
    rw [object] at returned
    cases returned
  | ok value =>
    rw [object] at returned
    cases value with
    | str name =>
      by_cases expected : name = ascii expectedObject
      · simpa [expected, bind, Except.bind] using returned
      · simp [expected, bind, Except.bind] at returned
    | none | bool | int | float | list | dict => cases returned

/-- A call takes the next line. -/
theorem inferenceOnce_ok {takes closes : Bool} {message : Value} (sends : JsonLineClient.Sends takes message)
    {expectedObject actionName : String} {client : JsonLineClient} {line : Bytes} {lines : List Bytes}
    (waiting : client.lines = line :: lines) {data : Value}
    (answered : JsonLineClient.decode python line >>= responseData python expectedObject actionName = .ok data)
    (other : String) : ∃ after, after.lines = lines ∧
      inferenceOnce python takes closes message expectedObject other client = ([message], .ok (data, after)) := by
  have spec := JsonLineClient.receive_eq python closes client
  rw [waiting] at spec
  obtain ⟨after, received, left, -, -⟩ := spec
  refine ⟨after, left, ?_⟩
  rcases JsonLineClient.send_cases takes message with ⟨-, sent⟩ | ⟨fails, -⟩
  · simp only [inferenceOnce, sent, received]
    cases decoded : JsonLineClient.decode python line with
    | error exc =>
      rw [decoded] at answered
      cases answered
    | ok response =>
      rw [decoded] at answered
      have returned := responseData_ok python answered other
      simp only [Except.map, bind, Except.bind, returned]
  · exact absurd sends fails

end UnitManagerClient

end

end EdgeFlow.Gateway
