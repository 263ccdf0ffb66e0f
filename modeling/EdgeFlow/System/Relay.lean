import EdgeFlow.Gateway.UnitManagerClient
import EdgeFlow.Network.OutputStream

/-! The way of the replies to a client of unit-manager.

A session pulls them from its socket in a thread of its own, and `send_data` sends each on the connection,
whose loop runs in another. The client cuts what comes in into lines.
-/

set_option autoImplicit false

namespace EdgeFlow.Network
open Library

/-- The bytes that a task brings. -/
def Task.bytes : Task → Bytes
  | .sendInLoop message => message
  | .shutdownInLoop | .startReadInLoop | .stopReadInLoop => []

/-! ## The state of a connection under its own steps -/

namespace TcpConnection
variable {c after : TcpConnection}

theorem sendInLoop_state {message : Bytes} {result : WriteResult} (done : c.sendInLoop message result = .ok after) :
    after.state = c.state := by
  simp only [sendInLoop] at done
  repeat' split at done
  -- the kernel takes all of it, or the rest waits
  all_goals first
    | cases done
      rfl
    | obtain ⟨channel, -, same⟩ := ok_of_bind done
      cases same
      rfl

theorem shutdownInLoop_state : c.shutdownInLoop.state = c.state := by
  unfold shutdownInLoop
  split <;> rfl

theorem startReadInLoop_state (done : c.startReadInLoop = .ok after) : after.state = c.state := by
  unfold startReadInLoop at done
  split at done
  · obtain ⟨channel, -, same⟩ := ok_of_bind done
    cases same
    rfl
  · cases done
    rfl

theorem stopReadInLoop_state (done : c.stopReadInLoop = .ok after) : after.state = c.state := by
  unfold stopReadInLoop at done
  split at done
  · obtain ⟨channel, -, same⟩ := ok_of_bind done
    cases same
    rfl
  · cases done
    rfl

theorem handleWrite_state {result : WriteResult} (done : c.handleWrite result = .ok after) :
    after.state = c.state := by
  unfold handleWrite at done
  split at done
  · split at done
    · simp only at done
      split at done
      · obtain ⟨channel, -, same⟩ := ok_of_bind done
        cases same
        split
        · exact shutdownInLoop_state
        · rfl
      · cases done
        rfl
    · cases done
      rfl
  · cases done
    rfl

end TcpConnection

namespace Stream

/-- What waits in the queue of the loop. -/
def waiting (s : Stream) : Bytes := s.pendingFunctors.flatMap Task.bytes

/-- A step of a call of `send`. -/
def Label.isSend : Label → Bool
  | .enter (.send _) | .leave (.send _) _ _ => true
  | _ => false

/-- Between two states nothing has been sent, and a connection that was not there has not come up. -/
structure Silent (s after : Stream) : Prop where
  bytes : after.sent ++ after.waiting = s.sent ++ s.waiting
  connected : after.conn.state = .connected → s.conn.state = .connected ∨ s.conn.state = .connecting
  connecting : after.conn.state = .connecting → s.conn.state = .connecting

section
variable {s after : Stream} {result : WriteResult} {task : Task}

theorem settle_state {done : Except Failure TcpConnection}
    (kept : ∀ conn, done = .ok conn → conn.state = s.conn.state) : (s.settle done).conn.state = s.conn.state := by
  cases done with
  | error => rfl
  | ok conn => exact kept conn rfl

theorem settle_sent (done : Except Failure TcpConnection) : (s.settle done).sent = s.sent := by
  cases done <;> rfl

theorem settle_pendingFunctors (done : Except Failure TcpConnection) :
    (s.settle done).pendingFunctors = s.pendingFunctors := by
  cases done <;> rfl

theorem runTask_spec (ran : s.runTask result task = some after) :
    after.sent = s.sent ++ task.bytes ∧ after.pendingFunctors = s.pendingFunctors ∧
      after.conn.state = s.conn.state := by
  cases task with
  | sendInLoop message =>
    simp only [runTask, Option.ite_none_right_eq_some, Option.some.injEq] at ran
    obtain ⟨-, rfl⟩ := ran
    exact ⟨rfl, settle_pendingFunctors _, settle_state fun _ done => TcpConnection.sendInLoop_state done⟩
  | shutdownInLoop =>
    cases ran
    exact ⟨(List.append_nil _).symm, rfl, TcpConnection.shutdownInLoop_state⟩
  | startReadInLoop =>
    cases ran
    exact ⟨(settle_sent _).trans (List.append_nil _).symm, settle_pendingFunctors _,
      settle_state fun _ done => TcpConnection.startReadInLoop_state done⟩
  | stopReadInLoop =>
    cases ran
    exact ⟨(settle_sent _).trans (List.append_nil _).symm, settle_pendingFunctors _,
      settle_state fun _ done => TcpConnection.stopReadInLoop_state done⟩

/-- A task without bytes changes none, run at once or later. -/
theorem runInLoop_silent {inLoopThread : Bool} (empty : task.bytes = [])
    (ran : s.runInLoop inLoopThread result task = some after) :
    after.sent ++ after.waiting = s.sent ++ s.waiting ∧ after.conn.state = s.conn.state := by
  unfold runInLoop at ran
  split at ran
  · obtain ⟨sent, pending, state⟩ := runTask_spec ran
    exact ⟨by rw [sent, empty, List.append_nil, waiting, pending, waiting], state⟩
  · cases ran
    exact ⟨by simp [waiting, empty], rfl⟩

/-- What is no call of `send` sends nothing. -/
theorem silent_of_step {label : Label} (noSend : label.isSend = false) (taken : s.step label = some after) :
    s.Silent after := by
  have still (bytes : after.sent ++ after.waiting = s.sent ++ s.waiting)
      (state : after.conn.state = s.conn.state) : s.Silent after :=
    ⟨bytes, fun connected => .inl (state ▸ connected), fun connecting => state ▸ connecting⟩
  cases label with
  | connectEstablished =>
    simp only [step, Option.ite_none_right_eq_some, Option.some.injEq] at taken
    obtain ⟨connecting, rfl⟩ := taken
    exact ⟨by rw [settle_sent, waiting, settle_pendingFunctors, waiting], fun _ => .inr connecting, fun _ => connecting⟩
  | enter call =>
    cases call with
    | send message => cases noSend
    | shutdown =>
      simp only [step, Option.ite_none_right_eq_some, Option.some.injEq] at taken
      obtain ⟨-, rfl⟩ := taken
      exact still rfl rfl
    | forceClose =>
      simp only [step, Option.ite_none_right_eq_some, Option.some.injEq] at taken
      exact absurd rfl taken.1.2
  | leave call inLoopThread result =>
    cases call with
    | send message => cases noSend
    | shutdown =>
      simp only [step, Option.ite_none_right_eq_some] at taken
      obtain ⟨bytes, state⟩ := runInLoop_silent rfl taken.2
      -- it goes down, and stays so
      refine ⟨bytes, fun connected => ?_, fun connecting => ?_⟩
      · cases state.symm.trans connected
      · cases state.symm.trans connecting
    | forceClose =>
      simp only [step, ite_self] at taken
      cases taken
  | startRead inLoopThread =>
    simp only [step, Option.ite_none_left_eq_some] at taken
    obtain ⟨bytes, state⟩ := runInLoop_silent rfl taken.2
    exact still bytes state
  | stopRead inLoopThread =>
    simp only [step, Option.ite_none_left_eq_some] at taken
    obtain ⟨bytes, state⟩ := runInLoop_silent rfl taken.2
    exact still bytes state
  | handleRead =>
    cases taken
    exact still rfl rfl
  | handleWrite result =>
    simp only [step, Option.ite_none_right_eq_some, Option.some.injEq] at taken
    obtain ⟨-, rfl⟩ := taken
    refine still ?_ (settle_state fun _ done => TcpConnection.handleWrite_state done)
    rw [settle_sent, waiting, settle_pendingFunctors, waiting]
  | doPendingFunctor result =>
    simp only [step] at taken
    split at taken
    · cases taken
    · next task rest queued =>
      -- its bytes go from the queue to what is sent
      obtain ⟨sent, pending, state⟩ := runTask_spec taken
      refine still ?_ state
      rw [sent, waiting, pending, waiting, queued, List.flatMap_cons, List.append_assoc]

/-- A call of `send` outside the loop thread that finds the connection up. -/
theorem step_enter_send {message : Bytes} (taken : s.step (.enter (.send message)) = some after) :
    s.conn.state = .connected ∧ after.conn = s.conn ∧ after.sent = s.sent ∧ after.waiting = s.waiting := by
  simp only [step, Option.ite_none_right_eq_some, Option.some.injEq] at taken
  obtain ⟨⟨admitted, -⟩, rfl⟩ := taken
  exact ⟨by simpa [Call.admitted] using admitted, rfl, rfl, rfl⟩

theorem step_enter_send_none {message : Bytes} (refused : s.step (.enter (.send message)) = none) :
    s.conn.state ≠ .connected := by
  intro connected
  simp [step, Call.admitted, connected] at refused

theorem step_leave_send {message : Bytes} (taken : s.step (.leave (.send message) false result) = some after) :
    after.conn.state = s.conn.state ∧ after.sent = s.sent ∧ after.waiting = s.waiting ++ message := by
  simp only [step, Option.ite_none_right_eq_some] at taken
  obtain ⟨-, queued⟩ := taken
  cases queued
  exact ⟨rfl, rfl, by simp [waiting, Task.bytes]⟩

end
end Stream
end EdgeFlow.Network

namespace EdgeFlow.System
open Library Network Gateway

/-! ## The machine -/

/-- One session: its connection, and the thread of its pull socket. -/
structure Relay where
  stream : Network.Stream
  /-- what `send_data` has been called with, in order -/
  pulled : List Bytes
  /-- the reply whose `send` has found the connection up -/
  calling : Option Bytes

namespace Relay

def initial : Relay := ⟨.initial, [], none⟩

inductive Label where
  | pull (reply : Bytes)
  /-- the rest of the `send`, in the thread of the pull socket -/
  | queue
  | stream (label : Network.Stream.Label)

/-- The session is there from the connection callback on, and nobody else sends. -/
def step (r : Relay) : Label → Option Relay
  | .pull reply =>
    if r.stream.conn.state = .connecting ∨ r.calling.isSome then none
    else
      match r.stream.step (.enter (.send reply)) with
      | some stream => some ⟨stream, r.pulled ++ [reply], some reply⟩
      | none => some { r with pulled := r.pulled ++ [reply] }
  | .queue => do
    let reply ← r.calling
    let stream ← r.stream.step (.leave (.send reply) false .wouldBlock)
    some { r with stream, calling := none }
  | .stream label =>
    if label.isSend then none else (r.stream.step label).map fun stream => { r with stream }

/-- No write fails with `EPIPE` or `ECONNRESET`. -/
def NoReset (r : Relay) : Label → Prop
  | .stream label => r.stream.NoReset label
  | .pull _ | .queue => True

instance (r : Relay) (label : Label) : Decidable (NoReset r label) :=
  match label with
  | .stream label => inferInstanceAs (Decidable (r.stream.NoReset label))
  | .pull _ | .queue => .isTrue trivial

/-- What was pulled while the connection was up is on its way, whole and in order. -/
structure Ordered (r : Relay) : Prop where
  consistent : r.stream.Consistent
  onItsWay : ∃ accepted, accepted <+: r.pulled ∧
    r.stream.sent ++ r.stream.waiting ++ r.calling.getD [] = accepted.flatten ∧
    (r.stream.conn.state = .connected → accepted = r.pulled)
  fresh : r.stream.conn.state = .connecting → r.pulled = []

theorem initial_ordered : initial.Ordered where
  consistent := Stream.initial_consistent
  onItsWay := ⟨[], List.prefix_refl _, rfl, fun _ => rfl⟩
  fresh _ := rfl

theorem Ordered.next {r after : Relay} {label : Label} (ordered : r.Ordered) (noReset : NoReset r label)
    (taken : r.step label = some after) : after.Ordered := by
  obtain ⟨consistent, ⟨accepted, first, bytes, all⟩, fresh⟩ := ordered
  cases label with
  | pull reply =>
    simp only [step, Option.ite_none_left_eq_some, not_or] at taken
    obtain ⟨⟨established, idle⟩, taken⟩ := taken
    have nobody : r.calling = none := by simpa using idle
    cases entered : r.stream.step (.enter (.send reply)) with
    | some stream =>
      rw [entered] at taken
      cases taken
      obtain ⟨connected, conn, sent, waiting⟩ := Stream.step_enter_send entered
      have noReset' : r.stream.NoReset (.enter (.send reply)) := trivial
      refine ⟨consistent.next noReset' entered, ⟨r.pulled ++ [reply], List.prefix_refl _, ?_, fun _ => rfl⟩, ?_⟩
      · rw [all connected, nobody, Option.getD_none, List.append_nil] at bytes
        simp [sent, waiting, bytes]
      · intro connecting
        exact absurd (conn ▸ connecting) established
    | none =>
      -- `send` returns without a word
      rw [entered] at taken
      cases taken
      refine ⟨consistent, ⟨accepted, first.trans (List.prefix_append _ _), bytes, fun connected => ?_⟩, ?_⟩
      · exact absurd connected (Stream.step_enter_send_none entered)
      · intro connecting
        exact absurd connecting established
  | queue =>
    obtain ⟨reply, calling, stream, left, same⟩ : ∃ reply, r.calling = some reply ∧ ∃ stream,
        r.stream.step (.leave (.send reply) false .wouldBlock) = some stream ∧
          some { r with stream, calling := none } = some after := by
      simpa [step, Option.bind_eq_some_iff] using taken
    cases same
    obtain ⟨state, sent, waiting⟩ := Stream.step_leave_send left
    refine ⟨consistent.next WriteResult.noConfusion left, ⟨accepted, first, ?_, ?_⟩, ?_⟩
    · rw [calling, Option.getD_some] at bytes
      simpa [sent, waiting] using bytes
    · exact fun connected => all (state ▸ connected)
    · exact fun connecting => fresh (state ▸ connecting)
  | stream label =>
    simp only [step, Option.ite_none_left_eq_some, Bool.not_eq_true, Option.map_eq_some_iff] at taken
    obtain ⟨noSend, stream, moved, rfl⟩ := taken
    have silent := Stream.silent_of_step noSend moved
    refine ⟨consistent.next noReset moved, ⟨accepted, first, by rw [silent.bytes]; exact bytes, ?_⟩, ?_⟩
    · intro connected
      rcases silent.connected connected with before | connecting
      · exact all before
      · -- nothing can have been pulled
        have nothing := fresh connecting
        rw [nothing] at first
        exact (List.prefix_nil.mp first).trans nothing.symm
    · exact fun connecting => fresh (silent.connecting connecting)

/-! ## What the client reads -/

/-- Nothing is on its way any more. -/
structure Drained (r : Relay) : Prop where
  calling : r.calling = none
  waiting : r.stream.waiting = []
  outputBuffer : r.stream.conn.outputBuffer.readable = []

/-- Along every run without a broken connection, a client that has received part of what has been written has read
the first replies, each once and in order; a connection that is up has lost nothing, and once it is drained the client
reads every reply. -/
theorem replies_in_order {r : Relay} (run : Reaches step NoReset initial r)
    (whole : ∀ reply ∈ r.pulled, Lines.WholeLine Byte.newline reply) {client : JsonLineClient}
    (received : client.incoming <+: r.stream.conn.written) :
    client.lines <+: r.pulled.map (Lines.chomp Byte.newline) ∧
    (r.stream.conn.state = .connected →
      r.stream.conn.written ++ r.stream.conn.outputBuffer.readable ++ r.stream.waiting ++ r.calling.getD [] =
        r.pulled.flatten ∧
      (r.Drained → client.incoming = r.stream.conn.written →
        client.lines = r.pulled.map (Lines.chomp Byte.newline))) := by
  have ordered := run.invariant Ordered initial_ordered fun _ _ _ ordered noReset taken => ordered.next noReset taken
  obtain ⟨accepted, first, bytes, all⟩ := ordered.onItsWay
  have sent := ordered.consistent.intact.sent
  have asLines : r.pulled.flatten = Lines.stream Byte.newline (r.pulled.map (Lines.chomp Byte.newline)) :=
    Lines.stream_of_wholeLines whole
  have absent : ∀ line ∈ r.pulled.map (Lines.chomp Byte.newline), Byte.newline ∉ line := by
    intro line member
    obtain ⟨reply, isPulled, rfl⟩ := List.mem_map.mp member
    exact (Lines.wholeLine_iff.mp (whole reply isPulled)).1
  refine ⟨?_, fun connected => ⟨?_, fun drained everything => ?_⟩⟩
  · -- what has been written begins what has been accepted, and that what has been pulled
    have written : r.stream.conn.written <+: accepted.flatten := by
      rw [← bytes, ← sent, List.append_assoc, List.append_assoc]
      exact List.prefix_append _ _
    have flat : accepted.flatten <+: r.pulled.flatten := by
      obtain ⟨more, cut⟩ := first
      rw [← cut, List.flatten_append]
      exact List.prefix_append _ _
    exact Lines.complete_isPrefix absent (asLines ▸ (received.trans (written.trans flat)))
  · rw [sent, bytes, all connected]
  · rw [drained.waiting, drained.calling, Option.getD_none, List.append_nil, List.append_nil] at bytes
    rw [drained.outputBuffer, List.append_nil] at sent
    rw [JsonLineClient.lines, everything, sent, bytes, all connected, asLines, Lines.complete_stream absent]

/-- Two replies, the second pulled before the first is written whole. -/
def twoReplies : List Label :=
  let first := [0x31, 0x32, Byte.newline]
  let second := [0x33, Byte.newline]
  [.stream .connectEstablished, .pull first, .queue, .stream (.doPendingFunctor (.wrote 2)), .pull second,
    .stream (.handleWrite (.wrote 1)), .queue, .stream (.doPendingFunctor (.wrote 2))]

theorem replies_in_order_two : ∃ r,
    followAllowed step (fun r label => decide (NoReset r label)) initial twoReplies = some r ∧
      JsonLineClient.lines ⟨[0x31], [[0x32, Byte.newline, 0x33], [Byte.newline]]⟩ = [[0x31, 0x32], [0x33]] := by
  obtain ⟨r, reached⟩ : ∃ r, followAllowed step (fun r label => decide (NoReset r label)) initial twoReplies = some r :=
    Option.isSome_iff_exists.mp (by decide +kernel)
  have fields : (followAllowed step (fun r label => decide (NoReset r label)) initial twoReplies).any (fun r =>
      r.pulled = [[0x31, 0x32, Byte.newline], [0x33, Byte.newline]] ∧ r.calling = none ∧ r.stream.waiting = [] ∧
        r.stream.conn.outputBuffer.readable = [] ∧
        r.stream.conn.written = [0x31, 0x32, Byte.newline, 0x33, Byte.newline] ∧
        r.stream.conn.state = .connected) = true := by
    decide +kernel
  rw [reached] at fields
  simp only [Option.any_some, decide_eq_true_eq] at fields
  obtain ⟨pulled, calling, waiting, outputBuffer, written, state⟩ := fields
  have whole : ∀ reply ∈ r.pulled, Lines.WholeLine Byte.newline reply := by
    rw [pulled]
    simp only [List.forall_mem_cons, Lines.WholeLine]
    decide
  have everything : JsonLineClient.incoming ⟨[0x31], [[0x32, Byte.newline, 0x33], [Byte.newline]]⟩ =
      r.stream.conn.written := by
    rw [written]
    decide
  have part : JsonLineClient.incoming ⟨[0x31], [[0x32, Byte.newline, 0x33], [Byte.newline]]⟩ <+:
      r.stream.conn.written := everything ▸ List.prefix_rfl
  have read := (replies_in_order (Reaches.of_decide reached) whole part).2 state
  refine ⟨r, reached, (read.2 ⟨calling, waiting, outputBuffer⟩ everything).trans ?_⟩
  rw [pulled]
  decide

end Relay

end EdgeFlow.System
