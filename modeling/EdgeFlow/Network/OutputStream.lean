import EdgeFlow.Library.Run
import EdgeFlow.Network.TcpConnection

/-! The bytes of one connection on their way out, whichever threads send them.

A run takes the calls of users, in the loop thread or not, the functors they queue
and the events of the descriptor in any order. Between its test of the state and
the rest, a call can be overtaken.
-/

set_option autoImplicit false

namespace EdgeFlow.Network
open Library

/-! ## The machine -/

/-- What the loop runs for a user, at once or from its queue. -/
inductive Task where
  | sendInLoop (message : Bytes)
  | shutdownInLoop
  | startReadInLoop
  | stopReadInLoop
  deriving DecidableEq

structure Stream where
  conn : TcpConnection
  pendingFunctors : List Task
  /-- the calls that have found the state they ask for -/
  entered : List Call
  /-- the payloads `sendInLoop` has been run with, in that order -/
  sent : Bytes
  failed : Option Failure

namespace Stream

def initial : Stream := ⟨.created, [], [], [], none⟩

/-- The loop thread goes on with the result, or the process ends. -/
def settle (s : Stream) : Except Failure TcpConnection → Stream
  | .ok conn => { s with conn }
  | .error failure => { s with failed := some failure }

/-- The kernel never writes more than it is given. -/
def runTask (s : Stream) (result : WriteResult) : Task → Option Stream
  | .sendInLoop message =>
    if result.nwrote ≤ message.length then
      some { s.settle (s.conn.sendInLoop message result) with sent := s.sent ++ message }
    else none
  | .shutdownInLoop => some { s with conn := s.conn.shutdownInLoop }
  | .startReadInLoop => some (s.settle s.conn.startReadInLoop)
  | .stopReadInLoop => some (s.settle s.conn.stopReadInLoop)

/-- `EventLoop::runInLoop` -/
def runInLoop (s : Stream) (inLoopThread : Bool) (result : WriteResult) (task : Task) : Option Stream :=
  if inLoopThread then s.runTask result task else some { s with pendingFunctors := s.pendingFunctors ++ [task] }

inductive Label where
  | connectEstablished
  | enter (call : Call)
  | leave (call : Call) (inLoopThread : Bool) (result : WriteResult)
  | startRead (inLoopThread : Bool)
  | stopRead (inLoopThread : Bool)
  | handleRead
  | handleWrite (result : WriteResult)
  | doPendingFunctor (result : WriteResult)

/-- A user has the connection from its callback on, and does not force it to close. -/
def step (s : Stream) : Label → Option Stream
  | .connectEstablished => if s.conn.state = .connecting then some (s.settle s.conn.connectEstablished) else none
  | .enter call =>
    if call.admitted s.conn.state = true ∧ call ≠ .forceClose then some { s with entered := call :: s.entered }
    else none
  | .leave call inLoopThread result =>
    if call ∈ s.entered then
      let s := { s with entered := s.entered.erase call, conn.state := call.setState s.conn.state }
      match call with
      | .send message => s.runInLoop inLoopThread result (.sendInLoop message)
      | .shutdown => s.runInLoop inLoopThread result .shutdownInLoop
      | .forceClose => none
    else none
  | .startRead inLoopThread =>
    if s.conn.state = .connecting then none else s.runInLoop inLoopThread .wouldBlock .startReadInLoop
  | .stopRead inLoopThread =>
    if s.conn.state = .connecting then none else s.runInLoop inLoopThread .wouldBlock .stopReadInLoop
  -- what a message callback calls is a step of its own
  | .handleRead => some s
  | .handleWrite result =>
    if result.nwrote ≤ s.conn.outputBuffer.readableBytes then some (s.settle (s.conn.handleWrite result)) else none
  | .doPendingFunctor result =>
    match s.pendingFunctors with
    | [] => none
    | task :: rest => { s with pendingFunctors := rest }.runTask result task

/-- No write of the step fails with `EPIPE` or `ECONNRESET`. -/
def NoReset (_ : Stream) : Label → Prop
  | .leave _ _ result | .handleWrite result | .doPendingFunctor result => result ≠ .reset
  | _ => True

instance (s : Stream) (label : Label) : Decidable (NoReset s label) :=
  match label with
  | .leave _ _ result | .handleWrite result | .doPendingFunctor result => inferInstanceAs (Decidable (result ≠ .reset))
  | .connectEstablished | .enter _ | .startRead _ | .stopRead _ | .handleRead => .isTrue trivial

/-- Every byte sent is with the kernel or waiting, in order; what waits is waited for; and the
socket is shut down behind the last of them. -/
structure Intact (s : Stream) : Prop where
  sent : s.conn.written ++ s.conn.outputBuffer.readable = s.sent
  writing : s.conn.channel.writing = true ↔ s.conn.outputBuffer.readable ≠ []
  drained : ∀ held ∈ s.conn.shutdownWrites, held = []

end Stream

/-! ## What the loop thread does -/

/-- A connection that has been established, with its bytes in order. -/
structure TcpConnection.Sound (sent : Bytes) (c : TcpConnection) : Prop where
  sent : c.written ++ c.outputBuffer.readable = sent
  writing : c.channel.writing = true ↔ c.outputBuffer.readable ≠ []
  drained : ∀ held ∈ c.shutdownWrites, held = []
  established : c.state = .connected ∨ c.state = .disconnecting
  listed : c.channel.Listed

section
variable {sent : Bytes} {c : TcpConnection} (sound : c.Sound sent)

include sound

theorem TcpConnection.Sound.shutdownInLoop : c.shutdownInLoop.Sound sent := by
  unfold TcpConnection.shutdownInLoop
  split
  · exact sound
  · next idle =>
    have empty : c.outputBuffer.readable = [] := by
      rw [sound.writing, not_not] at idle
      exact idle
    refine ⟨sound.sent, sound.writing, fun held member => ?_, sound.established, sound.listed⟩
    rcases List.mem_append.mp member with before | now
    · exact sound.drained held before
    · exact (List.mem_singleton.mp now).trans empty

/-- New events leave the bytes alone. -/
theorem TcpConnection.Sound.withChannel {channel : Channel} (reading : Bool) (listed : channel.Listed)
    (writing : channel.writing = c.channel.writing) : { c with channel, reading }.Sound sent where
  sent := sound.sent
  writing := by rw [writing]; exact sound.writing
  drained := sound.drained
  established := sound.established
  listed := listed

theorem TcpConnection.Sound.startReadInLoop : ∃ c', c.startReadInLoop = .ok c' ∧ c'.Sound sent := by
  unfold TcpConnection.startReadInLoop
  split
  · have known : Channel.Listed { c.channel with reading := true } :=
      ⟨sound.listed.listed, sound.listed.notNew, sound.listed.polled⟩
    obtain ⟨channel, updated, listed, -, writing, -⟩ := Channel.update_ok (.inl known)
    refine ⟨{ c with channel, reading := true }, ?_, sound.withChannel true listed writing⟩
    simp only [Channel.enableReading, updated, bind, Except.bind]
  · exact ⟨c, rfl, sound⟩

theorem TcpConnection.Sound.stopReadInLoop : ∃ c', c.stopReadInLoop = .ok c' ∧ c'.Sound sent := by
  unfold TcpConnection.stopReadInLoop
  split
  · have known : Channel.Listed { c.channel with reading := false } :=
      ⟨sound.listed.listed, sound.listed.notNew, sound.listed.polled⟩
    obtain ⟨channel, updated, listed, -, writing, -⟩ := Channel.update_ok (.inl known)
    refine ⟨{ c with channel, reading := false }, ?_, sound.withChannel false listed writing⟩
    simp only [Channel.disableReading, updated, bind, Except.bind]
  · exact ⟨c, rfl, sound⟩

/-- Nothing is waiting exactly when the loop does not wait to write. -/
theorem TcpConnection.Sound.readableBytes_eq_zero_iff :
    c.outputBuffer.readableBytes = 0 ↔ c.channel.writing = false := by
  rw [← Buffer.readable_length, List.length_eq_zero_iff, ← Bool.not_eq_true, sound.writing, not_not]

theorem TcpConnection.Sound.sendInLoop (message : Bytes) {result : WriteResult} (noReset : result ≠ .reset) :
    ∃ c', c.sendInLoop message result = .ok c' ∧ c'.Sound (sent ++ message) := by
  have alive : c.state ≠ .disconnected := by
    rcases sound.established with connected | disconnecting
    · rw [connected]; decide
    · rw [disconnecting]; decide
  have noFault : (result == WriteResult.reset) = false := beq_false_of_ne noReset
  simp only [TcpConnection.sendInLoop, if_neg alive, noFault, Bool.and_false, Bool.not_false, Bool.true_and,
    decide_eq_true_eq]
  by_cases waiting : c.channel.writing = true
  · -- behind what is already waiting
    simp only [waiting, Bool.not_true, Bool.false_and, Bool.false_eq_true, if_false, List.take_zero,
      List.append_nil, List.drop_zero, if_true, Nat.sub_zero]
    split
    · refine ⟨_, rfl, ?_⟩
      refine ⟨?_, ?_, sound.drained, sound.established, sound.listed⟩
      · rw [Buffer.readable_append, ← List.append_assoc, sound.sent]
      · have some := sound.writing.mp waiting
        simp [waiting, Buffer.readable_append, some]
    · next nothing =>
      have empty : message = [] := List.eq_nil_of_length_eq_zero (Nat.eq_zero_of_not_pos nothing)
      refine ⟨_, rfl, ?_⟩
      rw [empty, List.append_nil]
      exact sound
  · -- at once, as far as the kernel takes it
    have idle : c.channel.writing = false := Bool.eq_false_iff.mpr waiting
    have empty : c.outputBuffer.readable = [] := by
      rw [sound.writing, not_not] at waiting
      exact waiting
    have nobody : c.outputBuffer.readableBytes = 0 := sound.readableBytes_eq_zero_iff.mpr idle
    have soFar : c.written = sent := by
      have := sound.sent
      rwa [empty, List.append_nil] at this
    simp only [idle, nobody, Bool.not_false, Bool.true_and, beq_self_eq_true, if_true, Bool.false_eq_true, if_false]
    split
    · next more =>
      have known : Channel.Listed { c.channel with writing := true } :=
        ⟨sound.listed.listed, sound.listed.notNew, sound.listed.polled⟩
      obtain ⟨channel, updated, listed, -, writing, -⟩ := Channel.update_ok (.inl known)
      simp only [Channel.enableWriting, updated, bind, Except.bind]
      refine ⟨_, rfl, ?_⟩
      refine ⟨?_, ?_, sound.drained, sound.established, listed⟩
      · simp only [Buffer.readable_append, empty, List.nil_append]
        rw [List.append_assoc, List.take_append_drop, soFar]
      · have rest : message.drop result.nwrote ≠ [] := by
          intro none
          have := congrArg List.length none
          rw [List.length_drop, List.length_nil] at this
          omega
        simp [writing, Buffer.readable_append, rest]
    · next done =>
      have whole : message.take result.nwrote = message := List.take_of_length_le (by omega)
      refine ⟨_, rfl, ?_⟩
      refine ⟨?_, sound.writing, sound.drained, sound.established, sound.listed⟩
      simp only [whole, empty, List.append_nil, soFar]

theorem TcpConnection.Sound.handleWrite {result : WriteResult}
    (kernel : result.nwrote ≤ c.outputBuffer.readableBytes) :
    ∃ c', c.handleWrite result = .ok c' ∧ c'.Sound sent := by
  unfold TcpConnection.handleWrite
  split
  · next waiting =>
    split
    · have retrieved := c.outputBuffer.readable_retrieve kernel
      have bytes : c.written ++ c.outputBuffer.readable.take result.nwrote ++
          (c.outputBuffer.retrieve result.nwrote).readable = sent := by
        rw [retrieved, List.append_assoc, List.take_append_drop]
        exact sound.sent
      simp only
      split
      · next emptied =>
        -- all is written: the channel stops asking, and a shutdown that waited for this is made good
        have empty : (c.outputBuffer.retrieve result.nwrote).readable = [] := by
          apply List.eq_nil_of_length_eq_zero
          rw [Buffer.readable_length]
          exact emptied
        have known : Channel.Listed { c.channel with writing := false } :=
          ⟨sound.listed.listed, sound.listed.notNew, sound.listed.polled⟩
        obtain ⟨channel, updated, listed, -, writing, -⟩ := Channel.update_ok (.inl known)
        simp only [Channel.disableWriting, updated, bind, Except.bind]
        have drained : { c with
            written := c.written ++ c.outputBuffer.readable.take result.nwrote
            outputBuffer := c.outputBuffer.retrieve result.nwrote
            channel }.Sound sent :=
          ⟨bytes, by simp [writing, empty], sound.drained, sound.established, listed⟩
        refine ⟨_, rfl, ?_⟩
        split
        · exact drained.shutdownInLoop
        · exact drained
      · next left =>
        have some : (c.outputBuffer.retrieve result.nwrote).readable ≠ [] := by
          intro none
          rw [← Buffer.readable_length, none] at left
          exact left rfl
        exact ⟨_, rfl, bytes, by simp [waiting, some], sound.drained, sound.established, sound.listed⟩
    · exact ⟨c, rfl, sound⟩
  · exact ⟨c, rfl, sound⟩

end

/-! ## Runs -/

namespace Stream

/-- Before it is established a connection has seen nothing and nobody has it; afterwards its bytes
are in order. -/
structure Consistent (s : Stream) : Prop where
  fine : s.failed = none
  phase : (s.conn = .created ∧ s.sent = [] ∧ s.pendingFunctors = [] ∧ s.entered = []) ∨ s.conn.Sound s.sent
  noForce : .forceClose ∉ s.entered

theorem Consistent.intact {s : Stream} (consistent : s.Consistent) : s.Intact := by
  rcases consistent.phase with ⟨conn, sent, -, -⟩ | sound
  · refine ⟨?_, ?_, ?_⟩ <;> simp [conn, sent, TcpConnection.created, Channel.created]
  · exact ⟨sound.sent, sound.writing, sound.drained⟩

theorem initial_consistent : initial.Consistent := ⟨rfl, .inl ⟨rfl, rfl, rfl, rfl⟩, by simp [initial]⟩

section
variable {s after : Stream} {result : WriteResult} {task : Task} (noReset : result ≠ .reset) (fine : s.failed = none)
  (sound : s.conn.Sound s.sent) (noForce : .forceClose ∉ s.entered)

include noReset fine sound noForce

theorem runTask_consistent (ran : s.runTask result task = some after) : after.Consistent := by
  cases task with
  | sendInLoop message =>
    simp only [runTask, Option.ite_none_right_eq_some, Option.some.injEq] at ran
    obtain ⟨-, rfl⟩ := ran
    obtain ⟨conn, done, sound⟩ := sound.sendInLoop message noReset
    rw [done]
    exact ⟨fine, .inr sound, noForce⟩
  | shutdownInLoop =>
    cases ran
    exact ⟨fine, .inr sound.shutdownInLoop, noForce⟩
  | startReadInLoop =>
    cases ran
    obtain ⟨conn, done, sound⟩ := sound.startReadInLoop
    rw [done]
    exact ⟨fine, .inr sound, noForce⟩
  | stopReadInLoop =>
    cases ran
    obtain ⟨conn, done, sound⟩ := sound.stopReadInLoop
    rw [done]
    exact ⟨fine, .inr sound, noForce⟩

theorem runInLoop_consistent {inLoopThread : Bool} (ran : s.runInLoop inLoopThread result task = some after) :
    after.Consistent := by
  unfold runInLoop at ran
  split at ran
  · exact runTask_consistent noReset fine sound noForce ran
  · cases ran
    exact ⟨fine, .inr sound, noForce⟩

end

/-- Who calls has a connection that is open. -/
theorem Consistent.sound_of_established {s : Stream} (consistent : s.Consistent)
    (established : s.conn.state ≠ .connecting ∨ s.entered ≠ [] ∨ s.pendingFunctors ≠ []) : s.conn.Sound s.sent := by
  rcases consistent.phase with ⟨conn, -, pending, entered⟩ | sound
  · rcases established with state | called | queued
    · exact absurd (congrArg TcpConnection.state conn) state
    · exact absurd entered called
    · exact absurd pending queued
  · exact sound

theorem Consistent.next {s after : Stream} {label : Label} (consistent : s.Consistent) (noReset : NoReset s label)
    (taken : s.step label = some after) : after.Consistent := by
  obtain ⟨fine, phase, noForce⟩ := consistent
  cases label with
  | connectEstablished =>
    simp only [step, Option.ite_none_right_eq_some, Option.some.injEq] at taken
    obtain ⟨connecting, rfl⟩ := taken
    rcases phase with ⟨conn, sent, pending, entered⟩ | sound
    · obtain ⟨channel, updated, listed, -, writing, -⟩ :=
        Channel.update_ok (c := { Channel.created with reading := true }) (.inr ⟨rfl, rfl, rfl⟩)
      have established : s.conn.connectEstablished =
          .ok { TcpConnection.created with state := .connected, channel, callbacks := [true] } := by
        have enabled : Channel.created.enableReading = .ok channel := updated
        simp only [TcpConnection.connectEstablished, conn, TcpConnection.created, if_true, enabled, bind, Except.bind]
        rfl
      rw [established]
      refine ⟨fine, .inr ⟨?_, ?_, ?_, .inl rfl, listed⟩, noForce⟩
      · simp [settle, TcpConnection.created, sent]
      · simp [settle, TcpConnection.created, writing, Channel.created]
      · simp [settle, TcpConnection.created]
    · -- it is established once
      rcases sound.established with connected | disconnecting
      · rw [connected] at connecting; cases connecting
      · rw [disconnecting] at connecting; cases connecting
  | enter call =>
    simp only [step, Option.ite_none_right_eq_some, Option.some.injEq] at taken
    obtain ⟨⟨admitted, notForce⟩, rfl⟩ := taken
    have established : s.conn.state ≠ .connecting := by
      intro connecting
      rw [connecting] at admitted
      cases call <;> cases admitted
    have sound := (⟨fine, phase, noForce⟩ : s.Consistent).sound_of_established (.inl established)
    refine ⟨fine, .inr sound, ?_⟩
    simp [noForce, Ne.symm notForce]
  | leave call inLoopThread result =>
    simp only [step] at taken
    split at taken
    · next called =>
      have sound := (⟨fine, phase, noForce⟩ : s.Consistent).sound_of_established
        (.inr (.inl (List.ne_nil_of_mem called)))
      have noForce : .forceClose ∉ s.entered.erase call := fun member => noForce (List.mem_of_mem_erase member)
      cases call with
      | send message =>
        apply runInLoop_consistent noReset _ _ _ taken
        · exact fine
        · exact sound
        · exact noForce
      | shutdown =>
        apply runInLoop_consistent noReset _ _ _ taken
        · exact fine
        · exact ⟨sound.sent, sound.writing, sound.drained, .inr rfl, sound.listed⟩
        · exact noForce
      | forceClose => cases taken
    · cases taken
  | startRead inLoopThread =>
    simp only [step, Option.ite_none_left_eq_some] at taken
    have sound := (⟨fine, phase, noForce⟩ : s.Consistent).sound_of_established (.inl taken.1)
    exact runInLoop_consistent WriteResult.noConfusion fine sound noForce taken.2
  | stopRead inLoopThread =>
    simp only [step, Option.ite_none_left_eq_some] at taken
    have sound := (⟨fine, phase, noForce⟩ : s.Consistent).sound_of_established (.inl taken.1)
    exact runInLoop_consistent WriteResult.noConfusion fine sound noForce taken.2
  | handleRead =>
    cases taken
    exact ⟨fine, phase, noForce⟩
  | handleWrite result =>
    simp only [step, Option.ite_none_right_eq_some, Option.some.injEq] at taken
    obtain ⟨kernel, rfl⟩ := taken
    rcases phase with ⟨conn, sent, pending, entered⟩ | sound
    · -- there is nothing to write
      have idle : s.conn.handleWrite result = .ok s.conn := by
        simp [TcpConnection.handleWrite, conn, TcpConnection.created, Channel.created]
      rw [idle]
      exact ⟨fine, .inl ⟨conn, sent, pending, entered⟩, noForce⟩
    · obtain ⟨conn, done, sound⟩ := sound.handleWrite kernel
      rw [done]
      exact ⟨fine, .inr sound, noForce⟩
  | doPendingFunctor result =>
    simp only [step] at taken
    split at taken
    · cases taken
    · next task rest queued =>
      have some : s.pendingFunctors ≠ [] := by rw [queued]; exact List.cons_ne_nil _ _
      have sound := (⟨fine, phase, noForce⟩ : s.Consistent).sound_of_established (.inr (.inr some))
      apply runTask_consistent noReset _ _ _ taken
      · exact fine
      · exact sound
      · exact noForce

/-- Along every run without a broken connection the output stream is intact. -/
theorem output_stream_intact {s : Stream} (run : Reaches step NoReset initial s) : s.Intact ∧ s.failed = none := by
  have consistent := run.invariant Consistent initial_consistent
    fun _ _ _ consistent noReset taken => consistent.next noReset taken
  exact ⟨consistent.intact, consistent.fine⟩

/-- A short write, a second payload behind it and a shutdown, while the kernel takes its time. -/
def shortWrites : List Label :=
  [.connectEstablished, .enter (.send [1, 2, 3]), .leave (.send [1, 2, 3]) true (.wrote 1), .enter (.send [4, 5]),
    .leave (.send [4, 5]) false .wouldBlock, .enter .shutdown, .leave .shutdown false .wouldBlock, .stopRead true,
    .doPendingFunctor .wouldBlock, .doPendingFunctor .wouldBlock, .handleWrite .wouldBlock, .handleWrite (.wrote 4)]

theorem output_stream_intact_short : ∃ s,
    followAllowed step (fun s label => decide (NoReset s label)) initial shortWrites = some s ∧
      s.Intact ∧ s.failed = none := by
  have follows : (followAllowed step (fun s label => decide (NoReset s label)) initial shortWrites).isSome = true := by
    decide +kernel
  obtain ⟨s, reached⟩ := Option.isSome_iff_exists.mp follows
  have run := Reaches.of_followAllowed reached
  simp only [decide_eq_true_eq] at run
  exact ⟨s, reached, output_stream_intact run⟩

end Stream

end EdgeFlow.Network
