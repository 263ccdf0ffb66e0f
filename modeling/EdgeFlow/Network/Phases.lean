import EdgeFlow.Network.TcpServer

/-! How far a connection of a `TcpServer` is, and what is still to be done about it.

A connection goes through phases, and in each of them it is settled which of the functors that
establish, remove and destroy it are still queued.
-/

set_option autoImplicit false

namespace EdgeFlow.Network
open Library

/-! ## The connection by itself -/

namespace TcpConnection

structure Open (c : TcpConnection) : Prop where
  state : c.state = .connected ∨ c.state = .disconnecting
  callbacks : c.callbacks = [true]
  listed : c.channel.Listed

structure Closed (c : TcpConnection) : Prop where
  state : c.state = .disconnected
  callbacks : c.callbacks = [true, false]
  listed : c.channel.Listed
  quiet : c.channel.isNoneEvent = true

/-- `connectDestroyed` is behind it. -/
structure Gone (c : TcpConnection) : Prop where
  state : c.state = .disconnected
  callbacks : c.callbacks = [true, false]
  unlisted : c.channel.Unlisted
  addedToLoop : c.channel.addedToLoop = false

/-- It has been established, and `destroyed` says whether it has been destroyed. -/
inductive Known (c : TcpConnection) (destroyed : Bool) : Prop where
  | opened (isOpen : c.Open) (unfinished : destroyed = false)
  | closed (isClosed : c.Closed) (unfinished : destroyed = false)
  | gone (isGone : c.Gone) (finished : destroyed = true)

/-- Nothing has happened that its phase depends on. -/
structure Alike (c c' : TcpConnection) : Prop where
  created : c = .created → c' = .created
  opened : c.Open → c'.Open
  closed : c.Closed → c'.Closed
  gone : c.Gone → c'.Gone

theorem Alike.same (c : TcpConnection) : Alike c c := ⟨id, id, id, id⟩

theorem Alike.of_open {c c' : TcpConnection} (isOpen : c.Open) (after : c'.Open) : Alike c c' := by
  have live : c.state ≠ .disconnected := by
    intro disconnected
    rcases isOpen.state with state | state <;> cases state.symm.trans disconnected
  refine ⟨fun created => ?_, fun _ => after, fun closed => absurd closed.state live, fun gone => absurd gone.state live⟩
  have none := isOpen.callbacks
  rw [created] at none
  cases none

theorem Alike.of_closed {c c' : TcpConnection} (isClosed : c.Closed) (after : c'.Closed) : Alike c c' := by
  refine ⟨fun created => ?_, fun isOpen => ?_, fun _ => after, fun gone => ?_⟩
  · have none := isClosed.callbacks
    rw [created] at none
    cases none
  · cases isOpen.callbacks.symm.trans isClosed.callbacks
  · cases isClosed.listed.listed.symm.trans gone.unlisted.listed

theorem Alike.of_gone {c c' : TcpConnection} (isGone : c.Gone) (after : c'.Gone) : Alike c c' := by
  refine ⟨fun created => ?_, fun isOpen => ?_, fun closed => ?_, fun _ => after⟩
  · have none := isGone.callbacks
    rw [created] at none
    cases none
  · cases isOpen.callbacks.symm.trans isGone.callbacks
  · cases closed.listed.listed.symm.trans isGone.unlisted.listed

theorem Known.used {c : TcpConnection} {destroyed : Bool} (known : c.Known destroyed) : c.callbacks ≠ [] := by
  cases known with
  | opened isOpen => simp [isOpen.callbacks]
  | closed isClosed => simp [isClosed.callbacks]
  | gone isGone => simp [isGone.callbacks]

theorem Known.alike {c c' : TcpConnection} {destroyed : Bool} (known : c.Known destroyed) (alike : Alike c c') :
    c'.Known destroyed := by
  cases known with
  | opened isOpen unfinished => exact .opened (alike.opened isOpen) unfinished
  | closed isClosed unfinished => exact .closed (alike.closed isClosed) unfinished
  | gone isGone finished => exact .gone (alike.gone isGone) finished

theorem connectEstablished_created : ∃ c, created.connectEstablished = .ok c ∧ c.Open := by
  obtain ⟨channel, updated, listed, -⟩ :=
    Channel.update_ok (c := { Channel.created with reading := true }) (.inr ⟨rfl, rfl, rfl⟩)
  have enabled : created.channel.enableReading = .ok channel := updated
  refine ⟨{ created with state := .connected, channel, callbacks := [true] }, ?_, .inl rfl, rfl, listed⟩
  simp only [connectEstablished, enabled, bind, Except.bind]
  rfl

variable {c : TcpConnection} {destroyed : Bool} {message : Bytes} {result : WriteResult}

theorem Open.connected (isOpen : c.Open) (full : c.state ≠ .disconnecting) : c.state = .connected := by
  rcases isOpen.state with connected | disconnecting
  · exact connected
  · exact absurd disconnecting full

theorem Open.notDisconnected (isOpen : c.Open) : c.state ≠ .disconnected := by
  intro disconnected
  rcases isOpen.state with state | state <;> cases state.symm.trans disconnected

theorem Closed.idle (isClosed : c.Closed) : c.channel.reading = false ∧ c.channel.writing = false := by
  have quiet := isClosed.quiet
  simpa [Channel.isNoneEvent] using quiet

theorem Gone.idle (isGone : c.Gone) : c.channel.reading = false ∧ c.channel.writing = false := by
  have quiet := isGone.unlisted.none
  simpa [Channel.isNoneEvent] using quiet

/-! What the loop thread runs for a user, or for the kernel. -/

theorem Known.shutdownInLoop (known : c.Known destroyed) : Alike c c.shutdownInLoop := by
  -- the shutdown of the socket is no part of any phase
  unfold TcpConnection.shutdownInLoop
  split
  · exact .same c
  · cases known with
    | opened isOpen => exact .of_open isOpen ⟨isOpen.state, isOpen.callbacks, isOpen.listed⟩
    | closed isClosed => exact .of_closed isClosed ⟨isClosed.state, isClosed.callbacks, isClosed.listed, isClosed.quiet⟩
    | gone isGone => exact .of_gone isGone ⟨isGone.state, isGone.callbacks, isGone.unlisted, isGone.addedToLoop⟩

theorem Open.sendInLoop (isOpen : c.Open) : ∃ c', c.sendInLoop message result = .ok c' ∧ c'.Open := by
  simp only [TcpConnection.sendInLoop, if_neg isOpen.notDisconnected]
  -- however much the kernel has taken
  generalize (if (!c.channel.writing && c.outputBuffer.readableBytes == 0) = true then result.nwrote else 0) = nwrote
  split
  · split
    · exact ⟨_, rfl, isOpen.state, isOpen.callbacks, isOpen.listed⟩
    · have known : ({ c.channel with writing := true } : Channel).Listed :=
        ⟨isOpen.listed.listed, isOpen.listed.notNew, isOpen.listed.polled⟩
      obtain ⟨channel, updated, listed, -⟩ := Channel.update_ok (.inl known)
      simp only [Channel.enableWriting, updated, bind, Except.bind]
      exact ⟨_, rfl, isOpen.state, isOpen.callbacks, listed⟩
  · exact ⟨_, rfl, isOpen.state, isOpen.callbacks, isOpen.listed⟩

theorem Known.sendInLoop (known : c.Known destroyed) (message : Bytes) (result : WriteResult) :
    ∃ c', c.sendInLoop message result = .ok c' ∧ Alike c c' := by
  have givesUp (disconnected : c.state = .disconnected) : c.sendInLoop message result = .ok c := by
    rw [TcpConnection.sendInLoop, if_pos disconnected]
  cases known with
  | opened isOpen =>
    obtain ⟨c', done, after⟩ := isOpen.sendInLoop
    exact ⟨c', done, .of_open isOpen after⟩
  | closed isClosed => exact ⟨c, givesUp isClosed.state, .same c⟩
  | gone isGone => exact ⟨c, givesUp isGone.state, .same c⟩

theorem Known.startReadInLoop (known : c.Known destroyed) (live : c.state ≠ .disconnected) :
    ∃ c', c.startReadInLoop = .ok c' ∧ Alike c c' := by
  cases known with
  | opened isOpen =>
    unfold TcpConnection.startReadInLoop
    split
    · have known : ({ c.channel with reading := true } : Channel).Listed :=
        ⟨isOpen.listed.listed, isOpen.listed.notNew, isOpen.listed.polled⟩
      obtain ⟨channel, updated, listed, -⟩ := Channel.update_ok (.inl known)
      simp only [Channel.enableReading, updated, bind, Except.bind]
      exact ⟨_, rfl, .of_open isOpen ⟨isOpen.state, isOpen.callbacks, listed⟩⟩
    · exact ⟨c, rfl, .same c⟩
  | closed isClosed => exact absurd isClosed.state live
  | gone isGone => exact absurd isGone.state live

theorem Known.stopReadInLoop (known : c.Known destroyed) (done : destroyed = true → c.reading = false) :
    ∃ c', c.stopReadInLoop = .ok c' ∧ Alike c c' := by
  by_cases reads : (c.reading || c.channel.reading) = true
  · have update (listed : c.channel.Listed) := Channel.update_ok (c := { c.channel with reading := false })
      (.inl ⟨listed.listed, listed.notNew, listed.polled⟩)
    have stopped {channel : Channel} (updated : ({ c.channel with reading := false } : Channel).update = .ok channel) :
        c.stopReadInLoop = .ok { c with channel, reading := false } := by
      rw [TcpConnection.stopReadInLoop, if_pos reads, Channel.disableReading, updated]
      rfl
    cases known with
    | opened isOpen =>
      obtain ⟨channel, updated, listed, -⟩ := update isOpen.listed
      exact ⟨_, stopped updated, .of_open isOpen ⟨isOpen.state, isOpen.callbacks, listed⟩⟩
    | closed isClosed =>
      -- a deleted channel is added again here, but with no events
      obtain ⟨channel, updated, listed, reading, writing, -⟩ := update isClosed.listed
      refine ⟨_, stopped updated, .of_closed isClosed ⟨isClosed.state, isClosed.callbacks, listed, ?_⟩⟩
      simp [Channel.isNoneEvent, reading, writing, isClosed.idle.2]
    | gone isGone finished =>
      rw [done finished, isGone.idle.1] at reads
      cases reads
  · exact ⟨c, if_neg reads, .same c⟩

theorem Open.handleWrite (isOpen : c.Open) : ∃ c', c.handleWrite result = .ok c' ∧ c'.Open := by
  unfold TcpConnection.handleWrite
  split
  · split
    · dsimp only
      split
      · have known : ({ c.channel with writing := false } : Channel).Listed :=
          ⟨isOpen.listed.listed, isOpen.listed.notNew, isOpen.listed.polled⟩
        obtain ⟨channel, updated, listed, -⟩ := Channel.update_ok (.inl known)
        simp only [Channel.disableWriting, updated, bind, Except.bind]
        refine ⟨_, rfl, ?_⟩
        split
        · unfold TcpConnection.shutdownInLoop
          split <;> exact ⟨isOpen.state, isOpen.callbacks, listed⟩
        · exact ⟨isOpen.state, isOpen.callbacks, listed⟩
      · exact ⟨_, rfl, isOpen.state, isOpen.callbacks, isOpen.listed⟩
    · exact ⟨c, rfl, isOpen⟩
  · exact ⟨c, rfl, isOpen⟩

theorem handleWrite_idle (idle : c.channel.writing = false) : c.handleWrite result = .ok c := by
  rw [TcpConnection.handleWrite, if_neg (by rw [idle]; decide)]

theorem Known.handleWrite (known : c.Known destroyed) : ∃ c', c.handleWrite result = .ok c' ∧ Alike c c' := by
  cases known with
  | opened isOpen =>
    obtain ⟨c', done, after⟩ := isOpen.handleWrite
    exact ⟨c', done, .of_open isOpen after⟩
  | closed isClosed => exact ⟨c, handleWrite_idle isClosed.idle.2, .same c⟩
  | gone isGone => exact ⟨c, handleWrite_idle isGone.idle.2, .same c⟩

/-! The ways out. -/

theorem Open.disconnect (isOpen : c.Open) : ∃ c', c.disconnect = .ok c' ∧ c'.Closed := by
  have known : ({ c.channel with reading := false, writing := false } : Channel).Listed :=
    ⟨isOpen.listed.listed, isOpen.listed.notNew, isOpen.listed.polled⟩
  obtain ⟨channel, updated, listed, reading, writing, -⟩ := Channel.update_ok (.inl known)
  simp only [TcpConnection.disconnect, Channel.disableAll, updated, bind, Except.bind]
  refine ⟨_, rfl, rfl, ?_, listed, ?_⟩
  · simp [connectionCallback, isOpen.callbacks]
  · simp [connectionCallback, Channel.isNoneEvent, reading, writing]

theorem Open.handleClose (isOpen : c.Open) : ∃ c', c.handleClose = .ok c' ∧ c'.Closed := by
  rw [TcpConnection.handleClose, if_pos isOpen.state]
  exact isOpen.disconnect

theorem Closed.remove (isClosed : c.Closed) : ∃ channel, c.channel.remove = .ok channel ∧
    ({ c with channel } : TcpConnection).Gone := by
  refine ⟨_, if_pos ⟨isClosed.quiet, isClosed.listed.listed, isClosed.listed.notNew⟩, isClosed.state,
    isClosed.callbacks,
    ⟨rfl, rfl, rfl, isClosed.quiet⟩, rfl⟩

theorem Closed.connectDestroyed (isClosed : c.Closed) : ∃ c', c.connectDestroyed = .ok c' ∧ c'.Gone := by
  obtain ⟨channel, removed, gone⟩ := isClosed.remove
  have notConnected : c.state ≠ .connected := by rw [isClosed.state]; decide
  refine ⟨_, ?_, gone⟩
  simp only [TcpConnection.connectDestroyed, if_neg notConnected, removed, bind, Except.bind]

theorem Open.connectDestroyed (isOpen : c.Open) (full : c.state ≠ .disconnecting) :
    ∃ c', c.connectDestroyed = .ok c' ∧ c'.Gone := by
  obtain ⟨closed, disconnected, isClosed⟩ := isOpen.disconnect
  obtain ⟨channel, removed, gone⟩ := isClosed.remove
  refine ⟨_, ?_, gone⟩
  simp only [TcpConnection.connectDestroyed, if_pos (isOpen.connected full), disconnected, removed, bind, Except.bind]

end TcpConnection

/-! ## What is still to be done about a connection -/

/-- Whether it is the functor that establishes or destroys the connection. -/
def Functor.lifeline (id : Nat) : Functor → Bool
  | .connectEstablished other | .connectDestroyed other => other == id
  | _ => false

/-- Where the server and the loops have got to with a connection. -/
structure Pending where
  /-- `connections_` has it -/
  held : Bool
  /-- what is queued to establish or to destroy it -/
  lifeline : List Functor
  /-- how many `removeConnectionInLoop` are queued -/
  removals : Nat

/-- How far a connection is, by what is pending. -/
inductive Phase (alive : Bool) (id : Nat) (e : Entry) : Pending → Prop where
  | connecting (created : e.tcp = .created) (unfinished : e.destroyed = false) (never : e.erased = 0)
      (away : e.loop ≠ 0) : Phase alive id e ⟨true, [.connectEstablished id], 0⟩
  /-- the server went before it was established -/
  | orphaned (created : e.tcp = .created) (unfinished : e.destroyed = false) (never : e.erased = 0)
      (dead : alive = false) : Phase alive id e ⟨false, [.connectEstablished id, .connectDestroyed id], 0⟩
  | opened (isOpen : e.tcp.Open) (unfinished : e.destroyed = false) (never : e.erased = 0) :
      Phase alive id e ⟨true, [], 0⟩
  /-- the server has gone since -/
  | dismissed (isOpen : e.tcp.Open) (unfinished : e.destroyed = false) (never : e.erased = 0)
      (dead : alive = false) : Phase alive id e ⟨false, [.connectDestroyed id], 0⟩
  | closing (isClosed : e.tcp.Closed) (unfinished : e.destroyed = false) (never : e.erased = 0)
      (lives : alive = true) : Phase alive id e ⟨true, [], 1⟩
  | closed (isClosed : e.tcp.Closed) (unfinished : e.destroyed = false) (once : e.erased ≤ 1) :
      Phase alive id e ⟨false, [.connectDestroyed id], 0⟩
  | destroyed (isGone : e.tcp.Gone) (finished : e.destroyed = true) (once : e.erased ≤ 1) :
      Phase alive id e ⟨false, [], 0⟩

namespace Phase
variable {alive : Bool} {id : Nat} {e : Entry} {p : Pending}

/-- Users have it from its first callback on. -/
theorem known (phase : Phase alive id e p) (used : e.tcp.callbacks ≠ []) : e.tcp.Known e.destroyed := by
  cases phase with
  | connecting created | orphaned created => exact absurd (congrArg TcpConnection.callbacks created) used
  | opened isOpen unfinished | dismissed isOpen unfinished => exact .opened isOpen unfinished
  | closing isClosed unfinished | closed isClosed unfinished => exact .closed isClosed unfinished
  | destroyed isGone finished => exact .gone isGone finished

theorem alike {e' : Entry} (phase : Phase alive id e p) (alike : TcpConnection.Alike e.tcp e'.tcp)
    (loop : e'.loop = e.loop) (destroyed : e'.destroyed = e.destroyed) (erased : e'.erased = e.erased) :
    Phase alive id e' p := by
  cases phase with
  | connecting created unfinished never away =>
    exact .connecting (alike.created created) (destroyed.trans unfinished) (erased.trans never) (loop ▸ away)
  | orphaned created unfinished never dead =>
    exact .orphaned (alike.created created) (destroyed.trans unfinished) (erased.trans never) dead
  | opened isOpen unfinished never =>
    exact .opened (alike.opened isOpen) (destroyed.trans unfinished) (erased.trans never)
  | dismissed isOpen unfinished never dead =>
    exact .dismissed (alike.opened isOpen) (destroyed.trans unfinished) (erased.trans never) dead
  | closing isClosed unfinished never lives =>
    exact .closing (alike.closed isClosed) (destroyed.trans unfinished) (erased.trans never) lives
  | closed isClosed unfinished once =>
    exact .closed (alike.closed isClosed) (destroyed.trans unfinished) (erased ▸ once)
  | destroyed isGone finished once =>
    exact .destroyed (alike.gone isGone) (destroyed.trans finished) (erased ▸ once)

theorem of_established {held : Bool} {rest : List Functor} {removals : Nat}
    (phase : Phase alive id e ⟨held, .connectEstablished id :: rest, removals⟩) :
    e.tcp = .created ∧ ∀ tcp, tcp.Open → Phase alive id { e with tcp } ⟨held, rest, removals⟩ := by
  cases phase with
  | connecting created unfinished never => exact ⟨created, fun _ isOpen => .opened isOpen unfinished never⟩
  | orphaned created unfinished never dead =>
    exact ⟨created, fun _ isOpen => .dismissed isOpen unfinished never dead⟩

theorem of_destroyed {held : Bool} {rest : List Functor} {removals : Nat}
    (phase : Phase alive id e ⟨held, .connectDestroyed id :: rest, removals⟩) :
    (e.tcp.Open ∨ e.tcp.Closed) ∧
      ∀ tcp, tcp.Gone → Phase alive id { e with tcp, destroyed := true } ⟨held, rest, removals⟩ := by
  cases phase with
  | dismissed isOpen unfinished never => exact ⟨.inl isOpen,
      fun _ isGone => .destroyed isGone rfl (never ▸ Nat.zero_le 1)⟩
  | closed isClosed unfinished once => exact ⟨.inr isClosed, fun _ isGone => .destroyed isGone rfl once⟩

/-- There is a connection to remove. -/
structure Removable (alive : Bool) (e : Entry) (p : Pending) : Prop where
  isClosed : e.tcp.Closed
  unfinished : e.destroyed = false
  never : e.erased = 0
  lives : alive = true
  held : p = ⟨true, [], 0⟩

theorem of_removal {held : Bool} {lifeline : List Functor} {removals : Nat}
    (phase : Phase alive id e ⟨held, lifeline, removals + 1⟩) : Removable alive e ⟨held, lifeline, removals⟩ := by
  cases phase with
  | closing isClosed unfinished never lives => exact ⟨isClosed, unfinished, never, lives, rfl⟩

/-- An open connection is still held, as long as the server is there. -/
theorem of_open (phase : Phase alive id e p) (isOpen : e.tcp.Open) (lives : alive = true) :
    p = ⟨true, [], 0⟩ ∧ e.destroyed = false ∧ e.erased = 0 := by
  have live := isOpen.notDisconnected
  cases phase with
  | connecting created | orphaned created =>
    have one := isOpen.callbacks
    rw [created] at one
    cases one
  | opened _ unfinished never => exact ⟨rfl, unfinished, never⟩
  | dismissed _ _ _ dead => cases lives.symm.trans dead
  | closing isClosed | closed isClosed => exact absurd isClosed.state live
  | destroyed isGone => exact absurd isGone.state live

/-- What a phase says of the callbacks. -/
theorem lifecycle (phase : Phase alive id e p) :
    (e.tcp.callbacks = [] ∨ e.tcp.callbacks = [true] ∨ e.tcp.callbacks = [true, false]) ∧
      (e.tcp.state ≠ .connecting → e.tcp.callbacks ≠ []) ∧
      (e.destroyed = true → e.tcp.callbacks = [true, false]) ∧ e.erased ≤ 1 := by
  cases phase with
  | connecting created unfinished never | orphaned created unfinished never =>
    simp [created, TcpConnection.created, unfinished, never]
  | opened isOpen unfinished never | dismissed isOpen unfinished never => simp [isOpen.callbacks, unfinished, never]
  | closing isClosed unfinished never => simp [isClosed.callbacks, never]
  | closed isClosed unfinished once => simp [isClosed.callbacks, once]
  | destroyed isGone finished once => simp [isGone.callbacks, once]

end Phase

namespace TcpServer
variable {App : Type} {callbacks : Callbacks App} {s : TcpServer App} {id : Nat} {e : Entry}

/-- What is pending for a connection of the loop. -/
def pending (s : TcpServer App) (loop : LoopId) (id : Nat) : Pending where
  held := decide (id ∈ s.connections)
  lifeline := (s.queue loop).filter (·.lifeline id)
  removals := (s.queue 0).count (.removeConnectionInLoop id)

/-- Where a functor may be queued, for the connection it is bound to. -/
def Placed (loop : LoopId) (e : Entry) : Functor → Prop
  | .removeConnectionInLoop _ => loop = 0
  | .connectEstablished _ | .connectDestroyed _ => e.loop = loop
  -- what users ask for
  | _ => e.loop = loop ∧ e.tcp.callbacks ≠ []

/-- Every connection is in its phase, those left out aside. -/
structure InPhase (leftOut : Nat → Prop) (s : TcpServer App) : Prop where
  fine : s.failed = none
  phase : ∀ id e, ¬leftOut id → s.conns id = some e → Phase s.alive id e (s.pending e.loop id)
  placed : ∀ loop functor, functor ∈ s.queue loop → ∃ e, s.conns functor.conn = some e ∧ Placed loop e functor
  busy : ∀ id e, s.conns id = some e → e.entered ≠ [] → e.tcp.callbacks ≠ []
  fresh : ∀ id, s.nextConnId ≤ id → s.conns id = none
  known : ∀ id ∈ s.connections, s.conns id ≠ none
  nodup : s.connections.Nodup

/-- Every connection is in its phase. -/
abbrev Inv (s : TcpServer App) : Prop := InPhase (fun _ => False) s

theorem initial_inv (app : App) : (initial app).Inv where
  fine := rfl
  phase _ _ _ there := nomatch there
  placed _ _ member := nomatch member
  busy _ _ there := nomatch there
  fresh _ _ := rfl
  known _ member := nomatch member
  nodup := .nil

theorem InPhase.leave (inv : s.Inv) (id : Nat) : InPhase (· = id) s where
  fine := inv.fine
  phase other e _ := inv.phase other e not_false
  placed := inv.placed
  busy := inv.busy
  fresh := inv.fresh
  known := inv.known
  nodup := inv.nodup

/-- The one that was left out is back in a phase. -/
theorem InPhase.enter (around : InPhase (· = id) s) (there : s.conns id = some e)
    (phase : Phase s.alive id e (s.pending e.loop id)) : s.Inv where
  fine := around.fine
  phase other e' _ there' := by
    by_cases same : other = id
    · subst same
      obtain rfl := Option.some.inj (there.symm.trans there')
      exact phase
    · exact around.phase other e' same there'
  placed := around.placed
  busy := around.busy
  fresh := around.fresh
  known := around.known
  nodup := around.nodup

/-! ### Elementary changes, seen from every other connection -/

theorem lifeline_of_ne {functor : Functor} {other : Nat} (different : functor.conn ≠ other) :
    functor.lifeline other = false ∧ functor ≠ .removeConnectionInLoop other := by
  constructor
  · cases functor <;> simp_all [Functor.lifeline, Functor.conn]
  · rintro rfl
    exact different rfl

theorem pending_queueInLoop (loop host : LoopId) (functor : Functor) (other : Nat) :
    (s.queueInLoop host functor).pending loop other =
      { s.pending loop other with
        lifeline := (s.pending loop other).lifeline ++ if host = loop ∧ functor.lifeline other then [functor] else []
        removals := (s.pending loop other).removals +
          if host = 0 ∧ functor = .removeConnectionInLoop other then 1 else 0 } := by
  have queues (which : LoopId) : (s.queueInLoop host functor).queue which =
      s.queue which ++ if host = which then [functor] else [] := by
    by_cases here : which = host
    · subst here; simp [queueInLoop]
    · simp [queueInLoop, Function.update_of_ne here, Ne.symm here]
  simp only [pending, queues, List.filter_append, List.count_append]
  congr 1
  · by_cases here : host = loop <;> simp [here, List.filter_singleton]
  · by_cases here : host = 0 <;> simp [here, List.count_singleton]

theorem pending_queueInLoop_of_ne {host : LoopId} {functor : Functor} {other : Nat} (loop : LoopId)
    (different : functor.conn ≠ other) : (s.queueInLoop host functor).pending loop other = s.pending loop other := by
  obtain ⟨noLifeline, noRemoval⟩ := lifeline_of_ne different
  rw [pending_queueInLoop]
  simp [noLifeline, noRemoval]

/-- The queue without its first functor. -/
abbrev pop (s : TcpServer App) (loop : LoopId) (rest : List Functor) : TcpServer App :=
  { s with queue := Function.update s.queue loop rest }

theorem pending_pop {host : LoopId} {functor : Functor} {rest : List Functor} (queued : s.queue host = functor :: rest)
    (loop : LoopId) (other : Nat) :
    s.pending loop other =
      { (s.pop host rest).pending loop other with
        lifeline := (if host = loop ∧ functor.lifeline other then [functor] else []) ++
          ((s.pop host rest).pending loop other).lifeline
        removals := ((s.pop host rest).pending loop other).removals +
          if host = 0 ∧ functor = .removeConnectionInLoop other then 1 else 0 } := by
  have queues (which : LoopId) : s.queue which =
      (if host = which then [functor] else []) ++ (s.pop host rest).queue which := by
    by_cases here : which = host
    · subst here; simp [queued]
    · simp [Function.update_of_ne here, Ne.symm here]
  simp only [pending]
  rw [queues loop, queues 0, List.filter_append, List.count_append]
  congr 1
  · by_cases here : host = loop <;> simp [here, List.filter_singleton]
  · by_cases here : host = 0 <;> simp [here, List.count_singleton, Nat.add_comm]

theorem pending_pop_lifeline (id : Nat) {loop : LoopId} {functor : Functor} {rest : List Functor}
    (queued : s.queue loop = functor :: rest) (own : functor.lifeline id = true) :
    s.pending loop id = { (s.pop loop rest).pending loop id with
      lifeline := functor :: ((s.pop loop rest).pending loop id).lifeline } := by
  have noRemoval : functor ≠ .removeConnectionInLoop id := by
    rintro rfl
    cases own
  rw [pending_pop queued]
  simp [own, noRemoval]

theorem pending_pop_removal {rest : List Functor} (queued : s.queue 0 = .removeConnectionInLoop id :: rest)
    (loop : LoopId) : s.pending loop id = { (s.pop 0 rest).pending loop id with
      removals := ((s.pop 0 rest).pending loop id).removals + 1 } := by
  rw [pending_pop queued]
  simp [Functor.lifeline]

namespace InPhase

/-- The connection that is left out may become anything that its functors can be run with. -/
theorem put (around : InPhase (· = id) s) (there : s.conns id = some e) (e' : Entry) (loop : e'.loop = e.loop)
    (used : e.tcp.callbacks ≠ [] → e'.tcp.callbacks ≠ []) (busy : e'.entered ≠ [] → e'.tcp.callbacks ≠ []) :
    InPhase (· = id) (s.put id e') where
  fine := around.fine
  phase other e different there' := by
    rw [put_of_ne _ different] at there'
    exact around.phase other e different there'
  placed loop' functor member := by
    obtain ⟨e'', there'', placed⟩ := around.placed loop' functor member
    by_cases same : functor.conn = id
    · rw [same] at there''
      obtain rfl := Option.some.inj (there.symm.trans there'')
      refine ⟨e', by rw [same, put_self], ?_⟩
      cases functor with
      | removeConnectionInLoop => exact placed
      | connectEstablished | connectDestroyed => exact loop.trans placed
      | _ => exact ⟨loop.trans placed.1, used placed.2⟩
    · exact ⟨e'', by rw [put_of_ne _ same, there''], placed⟩
  busy other e'' there'' := by
    by_cases same : other = id
    · rw [same, put_self] at there''
      obtain rfl := Option.some.inj there''
      exact busy
    · rw [put_of_ne _ same] at there''
      exact around.busy other e'' there''
  fresh other unborn := by
    have different : other ≠ id := by
      rintro rfl
      cases there.symm.trans (around.fresh other unborn)
    rw [put_of_ne _ different]
    exact around.fresh other unborn
  known other member := by
    by_cases same : other = id
    · simp [same]
    · rw [put_of_ne _ same]
      exact around.known other member
  nodup := around.nodup

theorem app {leftOut : Nat → Prop} (inPhase : InPhase leftOut s) (app : App) : InPhase leftOut { s with app } where
  fine := inPhase.fine
  phase := inPhase.phase
  placed := inPhase.placed
  busy := inPhase.busy
  fresh := inPhase.fresh
  known := inPhase.known
  nodup := inPhase.nodup

theorem settle {tcp : TcpConnection} (around : InPhase (· = id) s) (there : s.conns id = some e)
    (callbacks : Callbacks App) (e' : Entry) (loop : e'.loop = e.loop) (entered : e'.entered = e.entered)
    (used : e.tcp.callbacks ≠ [] → tcp.callbacks ≠ []) :
    InPhase (· = id) (s.settle callbacks id e' (.ok tcp)) :=
  (around.put there { e' with tcp } loop used fun some => used (around.busy id e there (entered ▸ some))).app _

theorem queueInLoop {leftOut : Nat → Prop} (inPhase : InPhase leftOut s) (loop : LoopId) {functor : Functor}
    (there : s.conns functor.conn = some e) (placed : Placed loop e functor)
    (unseen : ∀ other e, ¬leftOut other → s.conns other = some e →
      (s.queueInLoop loop functor).pending e.loop other = s.pending e.loop other) :
    InPhase leftOut (s.queueInLoop loop functor) where
  fine := inPhase.fine
  phase other e' notLeft there' := by
    rw [unseen other e' notLeft there']
    exact inPhase.phase other e' notLeft there'
  placed loop' other member := by
    by_cases same : loop' = loop
    · subst same
      simp only [TcpServer.queueInLoop, Function.update_self, List.mem_append, List.mem_singleton] at member
      rcases member with before | rfl
      · exact inPhase.placed loop' other before
      · exact ⟨e, there, placed⟩
    · simp only [TcpServer.queueInLoop, Function.update_of_ne same] at member
      exact inPhase.placed loop' other member
  busy := inPhase.busy
  fresh := inPhase.fresh
  known := inPhase.known
  nodup := inPhase.nodup

theorem pop {leftOut : Nat → Prop} {loop : LoopId} {functor : Functor} {rest : List Functor}
    (inPhase : InPhase leftOut s) (queued : s.queue loop = functor :: rest)
    (unseen : ∀ other e, ¬leftOut other → s.conns other = some e →
      (s.pop loop rest).pending e.loop other = s.pending e.loop other) :
    InPhase leftOut (s.pop loop rest) where
  fine := inPhase.fine
  phase other e' notLeft there' := by
    rw [unseen other e' notLeft there']
    exact inPhase.phase other e' notLeft there'
  placed loop' other member := by
    apply inPhase.placed loop' other
    by_cases same : loop' = loop
    · subst same
      simp only [Function.update_self] at member
      rw [queued]
      exact List.mem_cons_of_mem _ member
    · simpa only [Function.update_of_ne same] using member
  busy := inPhase.busy
  fresh := inPhase.fresh
  known := inPhase.known
  nodup := inPhase.nodup

theorem erase (around : InPhase (· = id) s) : InPhase (· = id) { s with connections := s.connections.erase id } where
  fine := around.fine
  phase other e different there := by
    have same : decide (other ∈ s.connections.erase id) = decide (other ∈ s.connections) := by
      simp [List.mem_erase_of_ne different]
    have phase := around.phase other e different there
    simp only [pending, same] at phase ⊢
    exact phase
  placed := around.placed
  busy := around.busy
  fresh := around.fresh
  known other member := around.known other (List.mem_of_mem_erase member)
  nodup := around.nodup.erase id

end InPhase

end TcpServer

end EdgeFlow.Network
