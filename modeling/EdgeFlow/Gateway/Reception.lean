import EdgeFlow.Gateway.UnitManagerClient

/-! `receive` of a `JsonLineClient` that is called again after a timeout.

What has been received stays in the buffer when `recv` times out; however the bytes come
in, the calls that return give the messages of the stream.
-/

set_option autoImplicit false

namespace EdgeFlow.Gateway
open Library Library.Byte

/-- What a call of `recv` comes to. -/
inductive Recv where
  | chunk (bytes : Bytes)
  | timeout
  deriving DecidableEq

namespace Recv

def bytes : Recv → Bytes
  | .chunk bytes => bytes
  | .timeout => []

/-- The bytes that are going to come in. -/
def incoming (recvs : List Recv) : Bytes := recvs.flatMap bytes

@[simp] theorem incoming_nil : incoming [] = [] := rfl

@[simp] theorem incoming_chunk (bytes : Bytes) (recvs : List Recv) :
    incoming (.chunk bytes :: recvs) = bytes ++ incoming recvs := rfl

@[simp] theorem incoming_timeout (recvs : List Recv) : incoming (.timeout :: recvs) = incoming recvs := rfl

end Recv

/-- A client: its buffer, and what `recv` comes to at each call; behind the last one it times out. -/
structure Reception where
  buffer : Bytes
  recvs : List Recv

namespace Reception

/-- `TimeoutError` -/
def timedOut : Exc := .builtin .osError

/-- The loop of `receive`; the exceptions leave the client behind. -/
def readLine : (buffer : Bytes) → (recvs : List Recv) → Except Exc Bytes × Reception
  | buffer, recvs =>
    match JsonLineClient.splitLine buffer with
    | some (line, rest) => (.ok line, ⟨rest, recvs⟩)
    | none =>
      match recvs with
      | [] => (.error timedOut, ⟨buffer, []⟩)
      | .timeout :: recvs => (.error timedOut, ⟨buffer, recvs⟩)
      | .chunk chunk :: recvs =>
        if chunk.isEmpty then (.error closedConnection, ⟨buffer, recvs⟩) else readLine (buffer ++ chunk) recvs

section
variable {buffer : Bytes}

theorem readLine_line {line rest : Bytes} (found : JsonLineClient.splitLine buffer = some (line, rest))
    (recvs : List Recv) : readLine buffer recvs = (.ok line, ⟨rest, recvs⟩) := by
  unfold readLine
  rw [found]

theorem readLine_nil (unfinished : JsonLineClient.splitLine buffer = none) :
    readLine buffer [] = (.error timedOut, ⟨buffer, []⟩) := by
  unfold readLine
  rw [unfinished]

theorem readLine_timeout (unfinished : JsonLineClient.splitLine buffer = none) (recvs : List Recv) :
    readLine buffer (.timeout :: recvs) = (.error timedOut, ⟨buffer, recvs⟩) := by
  unfold readLine
  rw [unfinished]

theorem readLine_chunk (unfinished : JsonLineClient.splitLine buffer = none) (chunk : Bytes) (recvs : List Recv) :
    readLine buffer (.chunk chunk :: recvs) =
      if chunk.isEmpty then (.error closedConnection, ⟨buffer, recvs⟩) else readLine (buffer ++ chunk) recvs := by
  rw [readLine]
  rw [unfinished]

end

/-- Where `recv` does not time out before the end, this is the loop over the chunks. -/
theorem readLine_uninterrupted (closes : Bool) (buffer : Bytes) (chunks : List Bytes) :
    let ending : List Recv := if closes then [.chunk []] else []
    let read := readLine buffer (chunks.map .chunk ++ ending)
    match JsonLineClient.readLine closes buffer chunks with
    | .ok (line, client) => read = (.ok line, ⟨client.buffer, client.chunks.map .chunk ++ ending⟩)
    | .error exc => read.1 = .error exc := by
  intro ending
  induction chunks generalizing buffer with
  | nil =>
    rw [JsonLineClient.readLine, List.map_nil, List.nil_append]
    cases found : JsonLineClient.splitLine buffer with
    | some pair => exact readLine_line found ending
    | none =>
      cases closes with
      | false => exact congrArg Prod.fst (readLine_nil found)
      | true => exact congrArg Prod.fst (readLine_chunk found [] [])
  | cons chunk chunks ih =>
    rw [JsonLineClient.readLine, List.map_cons, List.cons_append]
    cases found : JsonLineClient.splitLine buffer with
    | some pair => exact readLine_line found (.chunk chunk :: (chunks.map .chunk ++ ending))
    | none =>
      simp only [readLine_chunk found]
      cases chunk with
      | nil => rfl
      | cons b chunk => exact ih _

section
variable (python : Python)

def receive (client : Reception) : Except Exc Value × Reception :=
  let (line, client) := readLine client.buffer client.recvs
  (line >>= JsonLineClient.decode python, client)

/-- So many calls of `receive`, one behind the other, whatever comes of them. -/
def receiveAll : (calls : Nat) → Reception → List (Except Exc Value) × Reception
  | 0, client => ([], client)
  | calls + 1, client =>
    let (outcome, client) := client.receive python
    let (outcomes, client) := receiveAll calls client
    (outcome :: outcomes, client)

/-- What the calls have returned. -/
def returned (outcomes : List (Except Exc Value)) : List Value := outcomes.filterMap Except.toOption

/-- A message and the line that it is sent as. -/
structure Message where
  line : Bytes
  value : Value

def Message.Spelled (message : Message) : Prop :=
  newline ∉ message.line ∧ JsonLineClient.decode python message.line = .ok message.value

/-- The connection stays open, and what is in the buffer or still to come in are the lines of some messages and a rest
that is no line yet. -/
structure Holds (client : Reception) (messages : List Message) (rest : Bytes) : Prop where
  spelled : ∀ message ∈ messages, message.Spelled python
  unfinished : newline ∉ rest
  stays : Recv.chunk [] ∉ client.recvs
  stream : client.buffer ++ Recv.incoming client.recvs = Lines.stream newline (messages.map Message.line) ++ rest

end

def timeouts (client : Reception) : Nat := client.recvs.count .timeout

/-! ## One call -/

section
variable {python : Python} {messages : List Message} {rest : Bytes}

/-- A line of the buffer is that of the next message. -/
theorem Holds.line {buffer line behind : Bytes} {recvs : List Recv} (holds : Holds python ⟨buffer, recvs⟩ messages rest)
    (found : JsonLineClient.splitLine buffer = some (line, behind)) :
    ∃ message later, messages = message :: later ∧ line = message.line ∧ Holds python ⟨behind, recvs⟩ later rest := by
  obtain ⟨rfl, absent⟩ := JsonLineClient.splitLine_eq_some.mp found
  have stream : line ++ newline :: behind ++ Recv.incoming recvs = _ := holds.stream
  cases messages with
  | nil =>
    have inside : newline ∈ rest := by
      rw [List.map_nil, Lines.stream_nil, List.nil_append] at stream
      rw [← stream]
      simp
    exact absurd inside holds.unfinished
  | cons message later =>
    obtain ⟨spelled, remaining⟩ := List.forall_mem_cons.mp holds.spelled
    simp only [List.map_cons, Lines.stream_cons, List.append_assoc, List.cons_append] at stream
    obtain ⟨same, left⟩ := Lines.terminated_inj absent spelled.1 stream
    exact ⟨message, later, rfl, same, remaining, holds.unfinished, holds.stays, left⟩

/-- The loop ends with the line of the next message, or it times out; then one timeout is behind it, or nothing is left
to come. -/
theorem readLine_cases {buffer : Bytes} {recvs : List Recv} (holds : Holds python ⟨buffer, recvs⟩ messages rest) :
    (∃ message later after, messages = message :: later ∧ readLine buffer recvs = (.ok message.line, after) ∧
        Holds python after later rest ∧ after.timeouts ≤ timeouts ⟨buffer, recvs⟩) ∨
      ∃ after, readLine buffer recvs = (.error timedOut, after) ∧ Holds python after messages rest ∧
        (after.timeouts < timeouts ⟨buffer, recvs⟩ ∨ messages = [] ∧ after = ⟨rest, []⟩) := by
  induction recvs generalizing buffer with
  | nil =>
    cases found : JsonLineClient.splitLine buffer with
    | some pair =>
      obtain ⟨line, behind⟩ := pair
      obtain ⟨message, later, isNext, rfl, left⟩ := holds.line found
      exact .inl ⟨message, later, _, isNext, readLine_line found [], left, le_refl _⟩
    | none =>
      have unfinished := JsonLineClient.splitLine_eq_none.mp found
      have stream : buffer = Lines.stream newline (messages.map Message.line) ++ rest := by simpa using holds.stream
      refine .inr ⟨_, readLine_nil found, holds, .inr ?_⟩
      cases messages with
      | nil => exact ⟨rfl, by rw [stream]; rfl⟩
      | cons message later =>
        -- a message that is there in full brings its newline with it
        rw [stream] at unfinished
        simp at unfinished
  | cons recv recvs ih =>
    cases found : JsonLineClient.splitLine buffer with
    | some pair =>
      obtain ⟨line, behind⟩ := pair
      obtain ⟨message, later, isNext, rfl, left⟩ := holds.line found
      exact .inl ⟨message, later, _, isNext, readLine_line found _, left, le_refl _⟩
    | none =>
      obtain ⟨notEmpty, stays⟩ := not_or.mp (List.mem_cons.not.mp holds.stays)
      cases recv with
      | timeout =>
        -- the bytes stay for the next call
        have fewer : timeouts ⟨buffer, recvs⟩ < timeouts ⟨buffer, .timeout :: recvs⟩ := by simp [timeouts]
        exact .inr ⟨_, readLine_timeout found recvs, ⟨holds.spelled, holds.unfinished, stays, holds.stream⟩, .inl fewer⟩
      | chunk chunk =>
        have same : timeouts ⟨buffer ++ chunk, recvs⟩ = timeouts ⟨buffer, .chunk chunk :: recvs⟩ := by simp [timeouts]
        have nonempty : ¬ chunk.isEmpty = true := by
          rw [List.isEmpty_iff]
          rintro rfl
          exact notEmpty rfl
        have stream : buffer ++ chunk ++ Recv.incoming recvs =
            Lines.stream newline (messages.map Message.line) ++ rest := by
          rw [List.append_assoc]
          exact holds.stream
        rw [readLine_chunk found, if_neg nonempty, ← same]
        exact ih ⟨holds.spelled, holds.unfinished, stays, stream⟩

/-- A call returns the next message, or it times out. -/
theorem receive_cases {client : Reception} (holds : Holds python client messages rest) :
    (∃ message later after, messages = message :: later ∧ client.receive python = (.ok message.value, after) ∧
        Holds python after later rest ∧ after.timeouts ≤ client.timeouts) ∨
      ∃ after, client.receive python = (.error timedOut, after) ∧ Holds python after messages rest ∧
        (after.timeouts < client.timeouts ∨ messages = [] ∧ after = ⟨rest, []⟩) := by
  rcases readLine_cases holds with ⟨message, later, after, isNext, read, left, fewer⟩ | ⟨after, read, left, progress⟩
  · have decoded := (holds.spelled message (by simp [isNext])).2
    refine .inl ⟨message, later, after, isNext, ?_, left, fewer⟩
    simp only [receive, read, bind, Except.bind, decoded]
  · refine .inr ⟨after, ?_, left, progress⟩
    simp only [receive, read, bind, Except.bind]

/-! ## All calls -/

/-- Where nothing more comes in, the rest stays as it is. -/
theorem receiveAll_rest (unfinished : newline ∉ rest) (calls : Nat) :
    (receiveAll python calls ⟨rest, []⟩).2 = ⟨rest, []⟩ := by
  induction calls with
  | zero => rfl
  | succ calls ih =>
    have read := readLine_nil (JsonLineClient.splitLine_eq_none.mpr unfinished)
    simp only [receiveAll, receive, read]
    exact ih

/-- However the bytes are cut and wherever `recv` times out, the calls that return give the messages in order and the
others time out; with each message and each timeout behind it, what is left of the stream is in the buffer. -/
theorem receiveAll_messages {client : Reception} (holds : Holds python client messages rest) (calls : Nat) :
    ∃ later, messages.map Message.value =
        returned (client.receiveAll python calls).1 ++ later.map Message.value ∧
      (∀ exc, .error exc ∈ (client.receiveAll python calls).1 → exc = timedOut) ∧
      Holds python (client.receiveAll python calls).2 later rest ∧
      (messages.length + client.timeouts ≤ calls → later = []) ∧
      (messages.length + client.timeouts < calls → (client.receiveAll python calls).2 = ⟨rest, []⟩) := by
  induction calls generalizing client messages with
  | zero =>
    refine ⟨messages, rfl, by simp [receiveAll], holds, fun noneLeft => ?_, fun few => absurd few (Nat.not_lt_zero _)⟩
    exact List.eq_nil_of_length_eq_zero (by omega)
  | succ calls ih =>
    rcases receive_cases holds with ⟨message, next, after, rfl, read, left, fewer⟩ | ⟨after, read, left, progress⟩
    · obtain ⟨later, values, errors, held, enough, more⟩ := ih left
      simp only [receiveAll, read, List.map_cons, List.length_cons]
      refine ⟨later, by rw [values]; rfl, ?_, held, fun few => enough (by omega), fun few => more (by omega)⟩
      simpa using errors
    · obtain ⟨later, values, errors, held, enough, more⟩ := ih left
      simp only [receiveAll, read]
      refine ⟨later, by rw [values]; rfl, ?_, held, fun few => ?_, fun few => ?_⟩
      · simpa using errors
      · rcases progress with fewer | ⟨rfl, -⟩
        · exact enough (by omega)
        · have noneLeft : returned (after.receiveAll python calls).1 = [] ∧ later = [] := by simpa using values
          exact noneLeft.2
      · rcases progress with fewer | ⟨rfl, rfl⟩
        · exact more (by omega)
        · exact receiveAll_rest holds.unfinished calls

end

/-! ## A cut inside a character -/

/-- What `json.dumps` writes is a line. -/
theorem spelled_dumps (json : Json) : Message.Spelled plainPython ⟨json.dumps, loaded json⟩ := by
  refine ⟨fun member => ?_, ?_⟩
  · have printable := json.dumps_printable newline member
    revert printable
    decide
  · simp only [JsonLineClient.decode, if_pos json.dumps_valid, plainPython, Json.parse_dumps]
    rfl

/-- A letter of two bytes, and a number. -/
def cutMessages : List Message :=
  [.string ⟨[0xC3, 0xA9], by decide⟩, .number (.ofInt 1)].map fun json => ⟨Json.dumps json, loaded json⟩

/-- They come in with two timeouts, the first of them inside the letter. -/
def cutClient : Reception where
  buffer := []
  recvs := [.chunk [34, 0xC3], .timeout, .chunk [0xA9, 34, 10, 49], .timeout, .chunk [10]]

theorem receiveAll_cut : returned (cutClient.receiveAll plainPython 5).1 = cutMessages.map Message.value ∧
    (cutClient.receiveAll plainPython 5).2 = ⟨[], []⟩ := by
  have holds : Holds plainPython cutClient cutMessages [] := by
    refine ⟨?_, List.not_mem_nil, by decide, by decide +kernel⟩
    intro message member
    obtain ⟨json, -, rfl⟩ := List.mem_map.mp member
    exact spelled_dumps json
  obtain ⟨later, values, -, -, enough, more⟩ := receiveAll_messages holds 5
  rw [enough (by decide), List.map_nil, List.append_nil] at values
  exact ⟨values.symm, more (by decide)⟩

end Reception

end EdgeFlow.Gateway
