import EdgeFlow.Network.Phases

/-! Each connection of a `TcpServer` is opened and closed once, in the runs that keep clear of
what the source leaves open.
-/

set_option autoImplicit false

namespace EdgeFlow.Network
open Library

namespace TcpServer
variable {App : Type} {callbacks : Callbacks App} {s : TcpServer App} {id : Nat} {e : Entry}

/-! ## What the loops do -/

theorem pending_erase (nodup : s.connections.Nodup) (loop : LoopId) (id : Nat) :
    ({ s with connections := s.connections.erase id } : TcpServer App).pending loop id =
      { s.pending loop id with held := false } := by
  simp [pending, nodup.not_mem_erase]

/-- A change that its phase does not depend on. -/
theorem settle_inv {tcp : TcpConnection} (inv : s.Inv) (there : s.conns id = some e) (known : e.tcp.Known e.destroyed)
    (alike : TcpConnection.Alike e.tcp tcp) : (s.settle callbacks id e (.ok tcp)).Inv := by
  have around := (inv.leave id).settle there callbacks e rfl rfl fun _ => (known.alike alike).used
  apply around.enter (put_self _ id { e with tcp })
  exact (inv.phase id e not_false there).alike alike rfl rfl rfl

theorem queueLifeline_inv (functor : Functor) (around : InPhase (· = id) s) (there : s.conns id = some e)
    (own : functor.lifeline id = true) (phase : Phase s.alive id e { s.pending e.loop id with
      lifeline := (s.pending e.loop id).lifeline ++ [functor] }) : (s.queueInLoop e.loop functor).Inv := by
  obtain ⟨conn, placed⟩ : functor.conn = id ∧ Placed e.loop e functor := by
    cases functor with
    | connectEstablished | connectDestroyed => exact ⟨of_decide_eq_true own, rfl⟩
    | _ => cases own
  have after : (s.queueInLoop e.loop functor).pending e.loop id =
      { s.pending e.loop id with lifeline := (s.pending e.loop id).lifeline ++ [functor] } := by
    have noRemoval : functor ≠ .removeConnectionInLoop id := by
      rintro rfl
      cases own
    rw [pending_queueInLoop]
    simp [own, noRemoval]
  have queued := around.queueInLoop e.loop (conn ▸ there) placed
    fun other e' different _ => pending_queueInLoop_of_ne e'.loop (conn ▸ Ne.symm different)
  exact queued.enter there (after ▸ phase)

/-- The next thing that becomes of it is to be erased. -/
theorem queueRemoval_inv (around : InPhase (· = id) s) (there : s.conns id = some e)
    (pending : s.pending e.loop id = ⟨true, [], 0⟩) (phase : Phase s.alive id e ⟨true, [], 1⟩) :
    (s.queueInLoop 0 (.removeConnectionInLoop id)).Inv := by
  have after : (s.queueInLoop 0 (.removeConnectionInLoop id)).pending e.loop id = ⟨true, [], 1⟩ := by
    rw [pending_queueInLoop, pending]
    simp [Functor.lifeline]
  have there' : s.conns (Functor.removeConnectionInLoop id).conn = some e := there
  have queued := around.queueInLoop 0 there' rfl
    fun other e' different _ => pending_queueInLoop_of_ne e'.loop (Ne.symm different)
  exact queued.enter there (after ▸ phase)

theorem removeConnectionInLoop_inv (around : InPhase (· = id) s) (there : s.conns id = some e)
    (removable : Phase.Removable s.alive e (s.pending e.loop id)) : (s.removeConnectionInLoop id e).Inv := by
  obtain ⟨isClosed, unfinished, never, lives, pending⟩ := removable
  have held : id ∈ s.connections := of_decide_eq_true (congrArg Pending.held pending)
  have dead : ¬s.alive = false := by rw [lives]; decide
  rw [removeConnectionInLoop, if_neg dead, if_pos held]
  have once : e.erased + 1 ≤ 1 := by omega
  have counted := around.put there { e with erased := e.erased + 1 } rfl (fun used => used) (around.busy id e there)
  apply queueLifeline_inv (.connectDestroyed id) counted.erase (put_self s id _) (beq_self_eq_true id)
  have after : (s.put id { e with erased := e.erased + 1 }).pending e.loop id = ⟨true, [], 0⟩ := pending
  rw [pending_erase counted.nodup, after]
  exact .closed isClosed unfinished once

theorem removeConnection_inv (around : InPhase (· = id) s) (there : s.conns id = some e)
    (removable : Phase.Removable s.alive e (s.pending e.loop id)) : (s.removeConnection id e).Inv := by
  have dead : ¬s.alive = false := by rw [removable.lives]; decide
  rw [removeConnection, if_neg dead]
  split
  · exact removeConnectionInLoop_inv around there removable
  · -- the base loop will do it
    obtain ⟨isClosed, unfinished, never, lives, pending⟩ := removable
    exact queueRemoval_inv around there pending (.closing isClosed unfinished never lives)

theorem handleClose_inv (inv : s.Inv) (there : s.conns id = some e) (isOpen : e.tcp.Open) (lives : s.alive = true) :
    (s.handleClose callbacks id e).Inv := by
  obtain ⟨pending, unfinished, never⟩ := (inv.phase id e not_false there).of_open isOpen lives
  obtain ⟨tcp, closed, isClosed⟩ := isOpen.handleClose
  simp only [handleClose, closed]
  have used : tcp.callbacks ≠ [] := by simp [isClosed.callbacks]
  have around := (inv.leave id).settle there callbacks e rfl rfl fun _ => used
  exact removeConnection_inv around (put_self s id { e with tcp }) ⟨isClosed, unfinished, never, lives, pending⟩

theorem connectEstablished_inv (around : InPhase (· = id) s) (there : s.conns id = some e)
    (created : e.tcp = .created)
    (established : ∀ tcp, tcp.Open → Phase s.alive id { e with tcp } (s.pending e.loop id)) :
    (s.settle callbacks id e e.tcp.connectEstablished).Inv := by
  obtain ⟨tcp, done, isOpen⟩ := TcpConnection.connectEstablished_created
  rw [created, done]
  have used : tcp.callbacks ≠ [] := by simp [isOpen.callbacks]
  apply (around.settle there callbacks e rfl rfl fun _ => used).enter (put_self _ id { e with tcp })
  exact established tcp isOpen

theorem connectDestroyed_inv (around : InPhase (· = id) s) (there : s.conns id = some e)
    (phase : Phase s.alive id e { s.pending e.loop id with
      lifeline := .connectDestroyed id :: (s.pending e.loop id).lifeline })
    (full : e.tcp.state ≠ .disconnecting) : (s.connectDestroyed callbacks id e).Inv := by
  obtain ⟨live, destroyed⟩ := phase.of_destroyed
  have done : ∃ tcp, e.tcp.connectDestroyed = .ok tcp ∧ tcp.Gone := by
    rcases live with isOpen | isClosed
    · exact isOpen.connectDestroyed full
    · exact isClosed.connectDestroyed
  obtain ⟨tcp, done, isGone⟩ := done
  rw [connectDestroyed, done]
  have used : tcp.callbacks ≠ [] := by simp [isGone.callbacks]
  apply (around.settle there callbacks { e with destroyed := true } rfl rfl fun _ => used).enter
    (put_self _ id { e with tcp, destroyed := true })
  exact destroyed tcp isGone

end TcpServer

/-! ## Orderly runs -/

/-- The functor comes at a time that the source is ready for. -/
def Functor.Orderly (alive : Bool) (e : Entry) : Functor → Prop
  -- it asks for `kConnected` only
  | .connectDestroyed _ => e.tcp.state ≠ .disconnecting
  -- the close callback is bound to the server
  | .forceCloseInLoop _ => e.tcp.state = .connected ∨ e.tcp.state = .disconnecting → alive = true
  -- the channel of a closed connection is not to come back
  | .startReadInLoop _ => e.tcp.state ≠ .disconnected
  | .stopReadInLoop _ => e.destroyed = true → e.tcp.reading = false
  | _ => True

instance (alive : Bool) (e : Entry) (functor : Functor) : Decidable (functor.Orderly alive e) :=
  match functor with
  | .connectDestroyed _ => inferInstanceAs (Decidable (_ ≠ _))
  | .forceCloseInLoop _ => inferInstanceAs (Decidable (_ ∨ _ → _))
  | .startReadInLoop _ => inferInstanceAs (Decidable (_ ≠ _))
  | .stopReadInLoop _ => inferInstanceAs (Decidable (_ → _))
  | .connectEstablished _ | .removeConnectionInLoop _ | .sendInLoop _ _ | .shutdownInLoop _ => .isTrue trivial

/-- It is what a user has asked for. -/
def Functor.asked : Functor → Bool
  | .connectEstablished _ | .connectDestroyed _ | .removeConnectionInLoop _ => false
  | _ => true

/-- The events come to `handleClose`. -/
def Revents.Closes (revents : Revents) (read : ReadResult) : Prop :=
  (revents.pollHup = true ∧ revents.pollIn = false) ∨ (revents.pollIn = true ∧ read = .closed)

instance (revents : Revents) (read : ReadResult) : Decidable (revents.Closes read) :=
  inferInstanceAs (Decidable (_ ∨ _))

namespace TcpServer
variable {App : Type} {callbacks : Callbacks App} {s : TcpServer App} {id : Nat} {e : Entry}

/-- The step keeps clear of the orders of events that the source has no answer to. -/
def Orderly (s : TcpServer App) : Label → Prop
  -- what is closed is not closed again, and what closes finds the server
  | .handleEvent id revents read _ => ∀ e ∈ s.conns id,
      (e.tcp.state = .disconnected → revents.pollHup = false) ∧ (revents.Closes read → s.alive = true)
  | .doPendingFunctor loop _ =>
    ∀ functor ∈ (s.queue loop).head?, ∀ e ∈ s.conns functor.conn, functor.Orderly s.alive e
  -- the state has not been left since the call asked for it
  | .leave id call _ _ => ∀ e ∈ s.conns id, call.setState e.tcp.state = .disconnecting → e.tcp.state ≠ .disconnected
  | .startRead id inLoopThread =>
    inLoopThread = true → ∀ e ∈ s.conns id, (Functor.startReadInLoop id).Orderly s.alive e
  | .stopRead id inLoopThread =>
    inLoopThread = true → ∀ e ∈ s.conns id, (Functor.stopReadInLoop id).Orderly s.alive e
  | .destroy =>
    (∀ functor ∈ s.queue 0, functor ≠ .removeConnectionInLoop functor.conn) ∧
      ∀ id ∈ s.connections, ∀ e ∈ s.conns id, e.loop = 0 → (Functor.connectDestroyed id).Orderly s.alive e
  | .quit loop => ∀ functor ∈ s.queue loop, functor.lifeline functor.conn = false
  | .newConnection _ | .enter _ _ | .release _ => True

instance (s : TcpServer App) (label : Label) : Decidable (s.Orderly label) :=
  match label with
  | .handleEvent _ _ _ _ => inferInstanceAs (Decidable (∀ e ∈ _, _ ∧ _))
  | .doPendingFunctor _ _ => inferInstanceAs (Decidable (∀ functor ∈ (_ : Option _), ∀ e ∈ _, _))
  | .leave _ _ _ _ => inferInstanceAs (Decidable (∀ e ∈ _, _ → _))
  | .startRead _ _ => inferInstanceAs (Decidable (_ → ∀ e ∈ _, _))
  | .stopRead _ _ => inferInstanceAs (Decidable (_ → ∀ e ∈ _, _))
  | .destroy => inferInstanceAs (Decidable ((∀ functor ∈ _, _ ≠ _) ∧ ∀ id ∈ _, ∀ e ∈ _, _ → _))
  | .quit _ => inferInstanceAs (Decidable (∀ functor ∈ _, _ = _))
  | .newConnection _ | .enter _ _ | .release _ => .isTrue trivial

theorem asked_unseen {functor : Functor} (asked : functor.asked = true) (id : Nat) :
    functor.lifeline id = false ∧ functor ≠ .removeConnectionInLoop id := by
  cases functor <;> simp_all [Functor.asked, Functor.lifeline]

section
variable {functor : Functor} {write : WriteResult} (inv : s.Inv) (there : s.conns functor.conn = some e)
  (asked : functor.asked = true) (used : e.tcp.callbacks ≠ [])

include inv there asked used

theorem run_inv (orderly : functor.Orderly s.alive e) : (s.run callbacks write e functor).Inv := by
  have phase := inv.phase functor.conn e not_false there
  have known := phase.known used
  cases functor with
  | connectEstablished | connectDestroyed | removeConnectionInLoop => cases asked
  | forceCloseInLoop id =>
    simp only [run]
    split
    · next isOpen =>
      -- who is neither connecting nor closed is open
      cases known with
      | opened wasOpened => exact handleClose_inv inv there wasOpened (orderly isOpen)
      | closed isClosed => simp [isClosed.state] at isOpen
      | gone isGone => simp [isGone.state] at isOpen
    · exact inv
  | sendInLoop id message =>
    obtain ⟨tcp, done, alike⟩ := known.sendInLoop message write
    rw [run, done]
    exact settle_inv inv there known alike
  | shutdownInLoop id => exact settle_inv inv there known known.shutdownInLoop
  | startReadInLoop id =>
    obtain ⟨tcp, done, alike⟩ := known.startReadInLoop orderly
    rw [run, done]
    exact settle_inv inv there known alike
  | stopReadInLoop id =>
    obtain ⟨tcp, done, alike⟩ := known.stopReadInLoop orderly
    rw [run, done]
    exact settle_inv inv there known alike

theorem queue_inv : (s.queueInLoop e.loop functor).Inv := by
  refine inv.queueInLoop e.loop there ?_ fun other e' _ _ => ?_
  · cases functor with
    | connectEstablished | connectDestroyed | removeConnectionInLoop => cases asked
    | _ => exact ⟨rfl, used⟩
  · obtain ⟨noLifeline, noRemoval⟩ := asked_unseen asked other
    rw [pending_queueInLoop]
    simp [noLifeline, noRemoval]

theorem runInLoop_inv {inLoopThread : Bool} (orderly : inLoopThread = true → functor.Orderly s.alive e) :
    (s.runInLoop callbacks inLoopThread write e functor).Inv := by
  unfold runInLoop
  split
  · next here => exact run_inv inv there asked used (orderly here)
  · exact queue_inv inv there asked used

end

/-- The first functor of a queue is judged by what was pending with it. -/
theorem doPendingFunctor_inv {loop : LoopId} {functor : Functor} {rest : List Functor} {write : WriteResult}
    (inv : s.Inv) (queued : s.queue loop = functor :: rest) (there : s.conns functor.conn = some e)
    (orderly : functor.Orderly s.alive e) : ((s.pop loop rest).run callbacks write e functor).Inv := by
  obtain ⟨e', there', placed⟩ := inv.placed loop functor (by rw [queued]; exact List.mem_cons_self)
  obtain rfl := Option.some.inj (there.symm.trans there')
  have phase := inv.phase functor.conn e not_false there
  have around : InPhase (· = functor.conn) (s.pop loop rest) := by
    refine (inv.leave functor.conn).pop queued fun other e' different _ => ?_
    obtain ⟨noLifeline, noRemoval⟩ := lifeline_of_ne (Ne.symm different)
    rw [pending_pop queued]
    simp [noLifeline, noRemoval]
  by_cases asked : functor.asked = true
  · have pending (other : Nat) (host : LoopId) : (s.pop loop rest).pending host other = s.pending host other := by
      obtain ⟨noLifeline, noRemoval⟩ := asked_unseen asked other
      rw [pending_pop queued]
      simp [noLifeline, noRemoval]
    have popped : (s.pop loop rest).Inv := around.enter there (pending functor.conn e.loop ▸ phase)
    have used : e.tcp.callbacks ≠ [] := by
      cases functor with
      | connectEstablished | connectDestroyed | removeConnectionInLoop => cases asked
      | _ => exact placed.2
    exact run_inv popped there asked used orderly
  · cases functor with
    | connectEstablished id =>
      obtain rfl : e.loop = loop := placed
      have pending := pending_pop_lifeline id queued (beq_self_eq_true id)
      obtain ⟨created, established⟩ := Phase.of_established (pending ▸ phase)
      exact connectEstablished_inv around there created established
    | connectDestroyed id =>
      obtain rfl : e.loop = loop := placed
      have pending := pending_pop_lifeline id queued (beq_self_eq_true id)
      exact connectDestroyed_inv around there (pending ▸ phase) orderly
    | removeConnectionInLoop id =>
      obtain rfl : loop = 0 := placed
      have pending := pending_pop_removal queued e.loop
      exact removeConnectionInLoop_inv around there (Phase.of_removal (pending ▸ phase))
    | _ => exact absurd rfl asked

/-! ## The other steps -/

/-- Nothing is queued for what is not there yet. -/
theorem pending_unborn {leftOut : Nat → Prop} (inPhase : InPhase leftOut s) (unborn : s.conns id = none)
    (loop : LoopId) : s.pending loop id = ⟨false, [], 0⟩ := by
  have nobody {host : LoopId} {functor : Functor} (member : functor ∈ s.queue host) : functor.conn ≠ id := by
    obtain ⟨e, there, -⟩ := inPhase.placed host functor member
    rintro rfl
    cases there.symm.trans unborn
  have unheld : id ∉ s.connections := fun member => inPhase.known id member unborn
  have noLifeline : (s.queue loop).filter (·.lifeline id) = [] := by
    rw [List.filter_eq_nil_iff]
    intro functor member
    rw [(lifeline_of_ne (nobody member)).1]
    decide
  have noRemoval : (s.queue 0).count (.removeConnectionInLoop id) = 0 :=
    List.count_eq_zero.mpr fun member => nobody member rfl
  simp only [pending, unheld, noLifeline, noRemoval, decide_false]

theorem newConnection_inv (inv : s.Inv) (loop : LoopId) : (s.newConnection callbacks loop).Inv := by
  have unborn := inv.fresh s.nextConnId (Nat.le_refl _)
  have unheld : s.nextConnId ∉ s.connections := fun member => inv.known _ member unborn
  have before := pending_unborn inv unborn loop
  unfold newConnection
  generalize born : s.nextConnId = id at *
  dsimp only
  generalize new : (⟨.created, loop, [], 0, false, false⟩ : Entry) = e
  generalize made : ({ s.put id e with nextConnId := id + 1, connections := s.connections ++ [id] } : TcpServer App) = s'
  have there : s'.conns id = some e := by rw [← made]; exact put_self s id e
  have pending (host : LoopId) (other : Nat) : s'.pending host other =
      { s.pending host other with held := decide (other ∈ s.connections ++ [id]) } := by
    rw [← made]
    rfl
  -- all connections but the new one are as they were
  have around : InPhase (· = id) s' := by
    subst made
    refine ⟨inv.fine, fun other e' different there' => ?_, fun host functor member => ?_, fun other e' there' => ?_,
      fun other later => ?_, fun other member => ?_, ?_⟩
    · have same : decide (other ∈ s.connections ++ [id]) = decide (other ∈ s.connections) := by simp [different]
      rw [pending, same]
      exact inv.phase other e' not_false ((put_of_ne s different e).symm.trans there')
    · obtain ⟨e', there', placed⟩ := inv.placed host functor member
      have different : functor.conn ≠ id := by
        intro same
        rw [same, unborn] at there'
        cases there'
      exact ⟨e', (put_of_ne s different e).trans there', placed⟩
    · by_cases same : other = id
      · subst same
        obtain rfl := Option.some.inj ((put_self s other e).symm.trans there')
        rw [← new]
        exact fun some => absurd rfl some
      · exact inv.busy other e' ((put_of_ne s same e).symm.trans there')
    · have different : other ≠ id := by
        rintro rfl
        exact absurd later (Nat.not_succ_le_self _)
      exact (put_of_ne s different e).trans (inv.fresh other (born ▸ Nat.le_of_succ_le later))
    · by_cases same : other = id
      · simp [same]
      · rw [put_of_ne s same]
        rcases List.mem_append.mp member with old | last
        · exact inv.known other old
        · exact absurd (List.mem_singleton.mp last) same
    · rw [List.nodup_append]
      refine ⟨inv.nodup, by simp, fun other old last member => ?_⟩
      rw [List.mem_singleton.mp member]
      rintro rfl
      exact unheld old
  -- the new one is established here, or waits for its own loop
  have created : e.tcp = .created := by rw [← new]
  have unfinished : e.destroyed = false := by rw [← new]
  have never : e.erased = 0 := by rw [← new]
  have now : s'.pending loop id = ⟨true, [], 0⟩ := by
    rw [pending, before]
    simp
  have itsLoop : e.loop = loop := by rw [← new]
  unfold runInLoop
  split
  · apply connectEstablished_inv around there created
    intro tcp isOpen
    rw [itsLoop, now]
    exact .opened isOpen unfinished never
  · next away =>
    apply queueLifeline_inv (.connectEstablished id) around there (beq_self_eq_true id)
    rw [itsLoop, now]
    exact .connecting created unfinished never (itsLoop ▸ of_decide_eq_false (Bool.eq_false_iff.mpr away))

theorem handleWrite_inv {write : WriteResult} (inv : s.Inv) (there : s.conns id = some e) :
    (s.settle callbacks id e (e.tcp.handleWrite write)).Inv := by
  by_cases used : e.tcp.callbacks = []
  · -- there is nothing to write before it is established
    have phase := inv.phase id e not_false there
    have created : e.tcp = .created := by
      generalize s.pending e.loop id = p at phase
      cases phase with
      | connecting created | orphaned created => exact created
      | opened isOpen | dismissed isOpen => cases isOpen.callbacks.symm.trans used
      | closing isClosed | closed isClosed => cases isClosed.callbacks.symm.trans used
      | destroyed isGone => cases isGone.callbacks.symm.trans used
    have idle : e.tcp.channel.writing = false := by rw [created]; rfl
    rw [TcpConnection.handleWrite_idle idle]
    apply ((inv.leave id).settle there callbacks e rfl rfl fun some => some).enter
      (put_self s id { e with tcp := e.tcp })
    exact phase
  · have known := (inv.phase id e not_false there).known used
    obtain ⟨tcp, done, alike⟩ := known.handleWrite
    rw [done]
    exact settle_inv inv there known alike

/-- Events that close come to an open connection. -/
theorem open_of_reported {revents : Revents} {read : ReadResult} (inv : s.Inv) (there : s.conns id = some e)
    (reported : Reported e revents) (orderly : e.tcp.state = .disconnected → revents.pollHup = false)
    (closes : revents.Closes read) : e.tcp.Open := by
  have polled_quiet (polled : e.tcp.channel.polled = false ∨ (e.tcp.channel.reading = false ∧ revents.pollHup = false))
      (notOpen : ¬(e.tcp.state = .connected ∨ e.tcp.state = .disconnecting)) : False := by
    rcases reported with isOpen | ⟨isPolled, reading, -⟩
    · exact notOpen isOpen
    · rcases polled with not | ⟨idle, noHup⟩
      · cases isPolled.symm.trans not
      · rcases closes with ⟨hup, -⟩ | ⟨pollIn, -⟩
        · cases hup.symm.trans noHup
        · cases (reading pollIn).symm.trans idle
  have phase := inv.phase id e not_false there
  generalize s.pending e.loop id = p at phase
  cases phase with
  | connecting created | orphaned created =>
    refine (polled_quiet (.inl ?_) ?_).elim <;> rw [created]
    · rfl
    · decide
  | opened isOpen | dismissed isOpen => exact isOpen
  | closing isClosed | closed isClosed =>
    refine (polled_quiet (.inr ⟨isClosed.idle.1, orderly isClosed.state⟩) ?_).elim
    rw [isClosed.state]
    decide
  | destroyed isGone =>
    refine (polled_quiet (.inl isGone.unlisted.polled) ?_).elim
    rw [isGone.state]
    decide

theorem handleEvent_inv {revents : Revents} {read : ReadResult} {write : WriteResult} (inv : s.Inv)
    (there : s.conns id = some e) (reported : Reported e revents)
    (orderly : s.Orderly (.handleEvent id revents read write)) :
    (s.handleEvent callbacks revents read write id e).Inv := by
  obtain ⟨hup, lives⟩ := orderly e there
  have closed (closes : revents.Closes read) : (s.handleClose callbacks id e).Inv :=
    handleClose_inv inv there (open_of_reported inv there reported hup closes) (lives closes)
  have read_inv : InPhase (fun _ => False)
      ((if revents.pollHup && !revents.pollIn then s.handleClose callbacks id e else s).unlessFailed fun s =>
        s.readEvent callbacks revents read id) := by
    cases pollIn : revents.pollIn with
    | true =>
      simp only [Bool.not_true, Bool.and_false, Bool.false_eq_true, if_false, unlessFailed, inv.fine,
        Option.isSome_none, readEvent, pollIn, if_true, there]
      cases read with
      | closed => exact closed (.inr ⟨pollIn, rfl⟩)
      | data | failed => exact inv
    | false =>
      -- after the close callback there is nothing to read
      simp only [Bool.not_false, Bool.and_true, readEvent, pollIn, Bool.false_eq_true, if_false, unlessFailed, ite_self]
      split
      · next hup => exact closed (.inl ⟨hup, pollIn⟩)
      · exact inv
  unfold handleEvent
  dsimp only
  rw [unlessFailed, read_inv.fine, writeEvent]
  simp only [Option.isSome_none, Bool.false_eq_true, if_false]
  split
  · split
    · next there' => exact handleWrite_inv read_inv there'
    · exact read_inv
  · exact read_inv

theorem leave_inv {call : Call} {inLoopThread : Bool} {write : WriteResult} (inv : s.Inv) (there : s.conns id = some e)
    (used : e.tcp.callbacks ≠ []) (orderly : call.setState e.tcp.state = .disconnecting → e.tcp.state ≠ .disconnected) :
    (s.leave callbacks id e call inLoopThread write).Inv := by
  have phase := inv.phase id e not_false there
  have known := phase.known used
  generalize left : ({ e with
    entered := e.entered.erase call, tcp.state := call.setState e.tcp.state } : Entry) = e'
  have tcp : e'.tcp = { e.tcp with state := call.setState e.tcp.state } := by rw [← left]
  have alike : TcpConnection.Alike e.tcp e'.tcp := by
    rw [tcp]
    cases call with
    | send message => exact .same e.tcp
    | shutdown | forceClose =>
      -- only what is open is half closed
      cases known with
      | opened isOpen => exact .of_open isOpen ⟨.inr rfl, isOpen.callbacks, isOpen.listed⟩
      | closed isClosed => exact absurd isClosed.state (orderly rfl)
      | gone isGone => exact absurd isGone.state (orderly rfl)
  have used' : e'.tcp.callbacks ≠ [] := by rw [tcp]; exact used
  have there' : (s.put id e').conns (taskOf id call).conn = some e' := by
    have conn : (taskOf id call).conn = id := by cases call <;> rfl
    rw [conn, put_self]
  have asked : (taskOf id call).asked = true := by cases call <;> rfl
  have inv' : (s.put id e').Inv := by
    have loop : e'.loop = e.loop := by rw [← left]
    apply ((inv.leave id).put there e' loop (fun _ => used') fun _ => used').enter (put_self s id e')
    have phase' := phase.alike alike loop (by rw [← left]) (by rw [← left])
    exact loop ▸ phase'
  have leaves : s.leave callbacks id e call inLoopThread write =
      (s.put id e').runInLoop callbacks (inLoopThread && call != .forceClose) write e' (taskOf id call) := by
    rw [leave, left]
  rw [leaves]
  refine runInLoop_inv inv' there' asked used' fun here => ?_
  -- the functor of `forceClose` is never run at once
  cases call with
  | send | shutdown => exact trivial
  | forceClose => simp at here

theorem settle_frame (callbacks : Callbacks App) (s : TcpServer App) (id : Nat) (e : Entry)
    (result : Except Failure TcpConnection) :
    (s.settle callbacks id e result).alive = s.alive ∧ (s.settle callbacks id e result).connections = s.connections ∧
      ∀ other, other ≠ id → (s.settle callbacks id e result).conns other = s.conns other := by
  cases result with
  | error => exact ⟨rfl, rfl, fun _ _ => rfl⟩
  | ok tcp => exact ⟨rfl, rfl, fun other different => put_of_ne s different _⟩

variable (callbacks) in
/-- One turn of the loop in `~TcpServer`. -/
theorem destroyConnection_inv (inv : s.Inv) (dead : s.alive = false) (held : id ∈ s.connections)
    (orderly : ∀ e ∈ s.conns id, e.loop = 0 → (Functor.connectDestroyed id).Orderly s.alive e) :
    (s.destroyConnection callbacks id).Inv ∧ (s.destroyConnection callbacks id).alive = false ∧
      (s.destroyConnection callbacks id).connections = s.connections.erase id ∧
      ∀ other, other ≠ id → (s.destroyConnection callbacks id).conns other = s.conns other := by
  obtain ⟨e, there⟩ := Option.ne_none_iff_exists'.mp (inv.known id held)
  have held' : (s.pending e.loop id).held = true := decide_eq_true held
  have phase := inv.phase id e not_false there
  have around := (inv.leave id).erase
  have pending := pending_erase inv.nodup e.loop id
  have fine : s.failed.isSome = false := by rw [inv.fine]; rfl
  simp only [destroyConnection, unlessFailed, fine, Bool.false_eq_true, if_false, there]
  generalize made : ({ s with connections := s.connections.erase id } : TcpServer App) = s' at around pending ⊢
  have there' : s'.conns id = some e := by rw [← made]; exact there
  have dead' : s'.alive = false := by rw [← made]; exact dead
  have connections : s'.connections = s.connections.erase id := by rw [← made]
  have conns (other : Nat) : s'.conns other = s.conns other := by rw [← made]
  -- what it comes to when it is destroyed at once, and when its loop will do it
  have next : (e.loop = 0 → Phase s'.alive id e ⟨false, [.connectDestroyed id], 0⟩ ∧
        s'.pending e.loop id = ⟨false, [], 0⟩) ∧
      Phase s'.alive id e { s'.pending e.loop id with
        lifeline := (s'.pending e.loop id).lifeline ++ [.connectDestroyed id] } := by
    rw [pending]
    generalize s.pending e.loop id = p at phase held'
    cases phase with
    | connecting created unfinished never away =>
      exact ⟨fun here => absurd here away, .orphaned created unfinished never dead'⟩
    | opened isOpen unfinished never =>
      exact ⟨fun _ => ⟨.dismissed isOpen unfinished never dead', rfl⟩, .dismissed isOpen unfinished never dead'⟩
    | closing isClosed unfinished never lives => cases lives.symm.trans dead
    | orphaned | dismissed | closed | destroyed => cases held'
  unfold runInLoop
  by_cases base : e.loop = 0
  · obtain ⟨atOnce, now⟩ := next.1 base
    simp only [base, decide_true, if_true, run]
    obtain ⟨alive, same, others⟩ := settle_frame callbacks s' id { e with destroyed := true } e.tcp.connectDestroyed
    exact ⟨connectDestroyed_inv around there' (now ▸ atOnce) (orderly e there base), alive.trans dead',
      same.trans connections, fun other different => (others other different).trans (conns other)⟩
  · simp only [base, decide_false, Bool.false_eq_true, if_false]
    exact ⟨queueLifeline_inv _ around there' (beq_self_eq_true id) next.2, dead', connections,
      fun other _ => conns other⟩

theorem destroyConnections_inv {ids : List Nat} (inv : s.Inv) (dead : s.alive = false) (nodup : ids.Nodup)
    (held : ∀ id ∈ ids, id ∈ s.connections)
    (orderly : ∀ id ∈ ids, ∀ e ∈ s.conns id, e.loop = 0 → (Functor.connectDestroyed id).Orderly s.alive e) :
    (ids.foldl (destroyConnection callbacks) s).Inv := by
  induction ids generalizing s with
  | nil => exact inv
  | cons id ids ih =>
    obtain ⟨fresh, nodup⟩ := List.nodup_cons.mp nodup
    obtain ⟨inv', dead', connections, others⟩ := destroyConnection_inv callbacks inv dead
      (held id List.mem_cons_self) (orderly id List.mem_cons_self)
    have different {other : Nat} (member : other ∈ ids) : other ≠ id := fun same => fresh (same ▸ member)
    apply ih inv' dead' nodup
    · intro other member
      rw [connections, List.mem_erase_of_ne (different member)]
      exact held other (List.mem_cons_of_mem _ member)
    · intro other member e there
      rw [others other (different member)] at there
      exact orderly other (List.mem_cons_of_mem _ member) e there

theorem destroy_inv (inv : s.Inv) (orderly : s.Orderly .destroy) : (s.destroy callbacks).Inv := by
  obtain ⟨noRemoval, full⟩ := orderly
  have dying : ({ s with alive := false } : TcpServer App).Inv := by
    refine ⟨inv.fine, fun id e _ there => ?_, inv.placed, inv.busy, inv.fresh, inv.known, inv.nodup⟩
    have phase := inv.phase id e not_false there
    have none : (s.pending e.loop id).removals = 0 :=
      List.count_eq_zero.mpr fun member => noRemoval _ member rfl
    show Phase false id e (s.pending e.loop id)
    generalize s.pending e.loop id = p at phase none
    cases phase with
    | connecting created unfinished never away => exact .connecting created unfinished never away
    | orphaned created unfinished never => exact .orphaned created unfinished never rfl
    | opened isOpen unfinished never => exact .opened isOpen unfinished never
    | dismissed isOpen unfinished never => exact .dismissed isOpen unfinished never rfl
    -- a removal would find no server
    | closing => cases none
    | closed isClosed unfinished once => exact .closed isClosed unfinished once
    | destroyed isGone finished once => exact .destroyed isGone finished once
  exact destroyConnections_inv dying rfl inv.nodup (fun _ member => member) full

theorem quit_inv {loop : LoopId} (inv : s.Inv) (away : loop ≠ 0) (orderly : s.Orderly (.quit loop)) :
    ({ s with queue := Function.update s.queue loop [] } : TcpServer App).Inv := by
  have same (host : LoopId) (id : Nat) :
      ({ s with queue := Function.update s.queue loop [] } : TcpServer App).pending host id = s.pending host id := by
    have noLifeline : (s.queue loop).filter (·.lifeline id) = [] := by
      rw [List.filter_eq_nil_iff]
      intro functor member own
      by_cases conn : functor.conn = id
      · rw [← conn, orderly functor member] at own
        cases own
      · rw [(lifeline_of_ne conn).1] at own
        cases own
    by_cases here : host = loop
    · simp [pending, here, noLifeline, Function.update_of_ne (Ne.symm away)]
    · simp [pending, Function.update_of_ne here, Function.update_of_ne (Ne.symm away)]
  refine ⟨inv.fine, fun id e _ there => ?_, fun host functor member => ?_, inv.busy, inv.fresh, inv.known, inv.nodup⟩
  · rw [same]
    exact inv.phase id e not_false there
  · by_cases here : host = loop
    · simp [here] at member
    · simp only [Function.update_of_ne here] at member
      exact inv.placed host functor member

theorem release_inv (inv : s.Inv) (there : s.conns id = some e) (unowned : s.Unowned callbacks id e) :
    (s.release callbacks id e).Inv := by
  obtain ⟨unheld, -, -, unqueued⟩ := unowned
  have noLifeline : (s.pending e.loop id).lifeline = [] := by
    rw [pending, List.filter_eq_nil_iff]
    intro functor member
    rw [(lifeline_of_ne (unqueued functor (List.mem_append_left _ member))).1]
    decide
  have noHold : (s.pending e.loop id).held = false := decide_eq_false unheld
  have phase := inv.phase id e not_false there
  have gone : e.tcp.Gone := by
    generalize s.pending e.loop id = p at phase noLifeline noHold
    cases phase with
    | connecting | opened | closing => cases noHold
    | orphaned | dismissed | closed => cases noLifeline
    | destroyed isGone => exact isGone
  rw [release, if_pos ⟨gone.state, gone.addedToLoop⟩]
  have around := (inv.leave id).put there { e with released := true } rfl (fun used => used) (inv.busy id e there)
  apply (around.app (callbacks.dropContext id s.app)).enter (put_self s id _)
  exact phase.alike (.same e.tcp) rfl rfl rfl

theorem Inv.next {after : TcpServer App} {label : Label} (inv : s.Inv) (orderly : s.Orderly label)
    (taken : s.step callbacks label = some after) : after.Inv := by
  cases moves_of_step taken with
  | newConnection loop alive => exact newConnection_inv inv loop
  | handleEvent read write there reported => exact handleEvent_inv inv there reported orderly
  | @doPendingFunctor loop functor rest e write queued there =>
    have first : functor ∈ (s.queue loop).head? := by
      rw [queued]
      rfl
    exact doPendingFunctor_inv inv queued there (orderly functor first e there)
  | @enter id e call there usable admitted =>
    apply ((inv.leave id).put there { e with entered := call :: e.entered } rfl (fun used => used)
      fun _ => usable.1).enter (put_self s id _)
    exact (inv.phase id e not_false there).alike (.same e.tcp) rfl rfl rfl
  | leave inLoopThread write there called =>
    have used := inv.busy _ _ there (List.ne_nil_of_mem called)
    exact leave_inv inv there used (orderly _ there)
  | @startRead id e inLoopThread there usable =>
    have there' : s.conns (Functor.startReadInLoop id).conn = some e := there
    exact runInLoop_inv inv there' rfl usable.1 fun here => orderly here e there
  | @stopRead id e inLoopThread there usable =>
    have there' : s.conns (Functor.stopReadInLoop id).conn = some e := there
    exact runInLoop_inv inv there' rfl usable.1 fun here => orderly here e there
  | destroy alive => exact destroy_inv inv orderly
  | quit gone away => exact quit_inv inv away orderly
  | release there unreleased unowned => exact release_inv inv there unowned

/-! ## The lifecycle -/

/-- Every connection is announced once and taken leave of once, and no assertion has failed. -/
structure Lifecycle (s : TcpServer App) : Prop where
  callbacks : ∀ id e, s.conns id = some e →
    e.tcp.callbacks = [] ∨ e.tcp.callbacks = [true] ∨ e.tcp.callbacks = [true, false]
  established : ∀ id e, s.conns id = some e → e.tcp.state ≠ .connecting → e.tcp.callbacks ≠ []
  destroyed : ∀ id e, s.conns id = some e → e.destroyed = true → e.tcp.callbacks = [true, false]
  erased : ∀ id e, s.conns id = some e → e.erased ≤ 1
  fine : s.failed = none

theorem Inv.lifecycle (inv : s.Inv) : s.Lifecycle where
  callbacks id e there := (inv.phase id e not_false there).lifecycle.1
  established id e there := (inv.phase id e not_false there).lifecycle.2.1
  destroyed id e there := (inv.phase id e not_false there).lifecycle.2.2.1
  erased id e there := (inv.phase id e not_false there).lifecycle.2.2.2
  fine := inv.fine

/-- Along every orderly run each connection has its lifecycle. -/
theorem reaches_lifecycle {app : App} (run : Reaches (step callbacks) Orderly (initial app) s) : s.Lifecycle := by
  have inv := run.invariant Inv (initial_inv app) fun _ _ _ inv orderly taken => inv.next orderly taken
  exact inv.lifecycle

/-- A server that only reads and writes. -/
def plain : Callbacks Unit := ⟨fun _ _ app => app, fun _ _ => false, fun _ app => app⟩

/-- One connection is half closed by us and then by the peer, with its reading stopped in between; the
other is open when the server goes. -/
def twoConnections : List Label :=
  [.newConnection 1, .newConnection 0, .doPendingFunctor 1 .wouldBlock, .stopRead 1 false, .startRead 2 true,
    .doPendingFunctor 1 .wouldBlock, .enter 1 (.send [7]), .leave 1 (.send [7]) true (.wrote 1), .enter 1 .shutdown,
    .leave 1 .shutdown true .wouldBlock, .startRead 1 true,
      .handleEvent 1 ⟨true, false, true, false⟩ .closed .wouldBlock,
    .doPendingFunctor 0 .wouldBlock, .doPendingFunctor 1 .wouldBlock, .release 1, .destroy, .quit 1, .release 2]

theorem reaches_lifecycle_two : ∃ s,
    followAllowed (step plain) (fun s label => decide (Orderly s label)) (initial ()) twoConnections = some s ∧
      s.Lifecycle := by
  have follows : (followAllowed (step plain) (fun s label => decide (Orderly s label)) (initial ())
      twoConnections).isSome = true := by
    decide +kernel
  obtain ⟨s, reached⟩ := Option.isSome_iff_exists.mp follows
  have run := Reaches.of_followAllowed reached
  simp only [decide_eq_true_eq] at run
  exact ⟨s, reached, reaches_lifecycle run⟩

/-- Reading is stopped, the connection is forced to close, and then the peer hangs up. -/
def hangUpAfterForceClose : List Label :=
  [.newConnection 1, .doPendingFunctor 1 .wouldBlock, .stopRead 1 true, .enter 1 .forceClose,
    .leave 1 .forceClose true .wouldBlock, .doPendingFunctor 1 .wouldBlock,
    .handleEvent 1 ⟨false, false, true, false⟩ .data .wouldBlock]

/-- A channel that was deleted is added again by `disableAll`, and a hang-up closes the connection twice. -/
theorem hangUp_fails : ¬∀ s, Reaches (step plain) (fun _ _ => True) (initial ()) s → s.Lifecycle := by
  intro always
  have failed : (follow (step plain) (initial ()) hangUpAfterForceClose).map (·.failed) = some (some .handleClose) := by
    decide +kernel
  obtain ⟨s, reached, failure⟩ := Option.map_eq_some_iff.mp failed
  have fine := (always s (Reaches.of_follow reached)).fine
  cases fine.symm.trans failure

end TcpServer

end EdgeFlow.Network
