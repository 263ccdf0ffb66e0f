import EdgeFlow.Library.Except
import EdgeFlow.Network.TcpServer
import Mathlib.Data.List.Basic

/-! The sessions of the unit manager on a `TcpServer`, and who owns a connection.

A `TcpSession` is kept by the `context_` of its connection and keeps the connection
in `conn_`. Which port it works on makes no difference here.
-/

set_option autoImplicit false

namespace EdgeFlow.Manager
open Library Network

structure TcpSession where
  /-- the connection whose `context_` has it -/
  context : Nat
  conn : Nat
  exitFlage : Bool
  deriving DecidableEq

/-- `TcpConnection::setContext` -/
def setContext (id : Nat) (session : TcpSession) (sessions : List TcpSession) : List TcpSession :=
  sessions.filter (·.context != id) ++ [session]

/-- `zmq_bus_com::stop` -/
def TcpSession.stop (session : TcpSession) : TcpSession := { session with exitFlage := false }

def onConnection (connected : Bool) (id : Nat) (sessions : List TcpSession) : List TcpSession :=
  if connected then setContext id ⟨id, id, true⟩ sessions
  else sessions.map fun session => if session.context = id then session.stop else session

/-- What `tcp_work` gives its server; a session goes with the connection whose context it is. -/
def tcpWork : Callbacks (List TcpSession) where
  onConnection := onConnection
  holds sessions id := sessions.any (·.conn == id)
  dropContext id sessions := sessions.filter (·.context != id)

/-! ## Owner edges -/

/-- What can have a `shared_ptr` to a connection. -/
inductive Owner where
  | connections
  | functor (loop : LoopId) (functor : Functor)
  | session (session : TcpSession)

variable (s : TcpServer (List TcpSession))

def Owns (id : Nat) : Owner → Prop
  | .connections => id ∈ s.connections
  | .functor loop functor => functor ∈ s.queue loop ∧ functor.holds = true ∧ functor.conn = id
  | .session session => session ∈ s.app ∧ session.conn = id

/-- `TcpSession::stop` and `connectDestroyed` have run, and nothing that is queued refers to it. -/
def Finished (id : Nat) (e : Entry) : Prop :=
  false ∈ e.tcp.callbacks ∧ e.destroyed = true ∧ ∀ functor ∈ s.queue e.loop ++ s.queue 0, functor.conn ≠ id

instance (id : Nat) (e : Entry) : Decidable (Finished s id e) := inferInstanceAs (Decidable (_ ∧ _))

/-- A finished connection has no owner left. -/
def GivesBack : Prop := ∀ id e, s.conns id = some e → Finished s id e → ∀ owner, ¬Owns s id owner

/-- The sockets are closed by the destructor. -/
def openDescriptors : Nat := (List.range s.nextConnId).countP fun id => (s.conns id).any fun e => !e.released

def liveConnections : Nat := (List.range s.nextConnId).countP fun id => (s.conns id).any fun e =>
    !decide (Finished s id e)

def finishedConnections : Nat := (List.range s.nextConnId).countP fun id => (s.conns id).any fun e =>
    decide (Finished s id e)

/-! ## What keeps a connection -/

/-- The connection is in the `conn_` of the session in its own context. -/
def Cycle (sessions : List TcpSession) (id : Nat) : Prop :=
  ∃ session ∈ sessions, session.conn = id ∧ session.context = id

/-- No callback breaks a cycle. -/
theorem Cycle.onConnection {sessions : List TcpSession} {other : Nat} (cycle : Cycle sessions other) (connected : Bool)
    (id : Nat) : Cycle (onConnection connected id sessions) other := by
  obtain ⟨session, member, conn, context⟩ := cycle
  cases connected with
  | true =>
    by_cases same : other = id
    · exact ⟨⟨id, id, true⟩, List.mem_append_right _ (List.mem_singleton_self _), same.symm, same.symm⟩
    · refine ⟨session, List.mem_append_left _ (List.mem_filter.mpr ⟨member, ?_⟩), conn, context⟩
      rw [context]
      exact bne_iff_ne.mpr same
  | false =>
    refine ⟨_, List.mem_map_of_mem member, ?_, ?_⟩ <;> split <;> assumption

theorem cycle_onConnection (sessions : List TcpSession) (id : Nat) : Cycle (onConnection true id sessions) id :=
  ⟨⟨id, id, true⟩, List.mem_append_right _ (List.mem_singleton_self _), rfl, rfl⟩

structure Kept (sessions : List TcpSession) (id : Nat) (e : Entry) : Prop where
  unannounced : e.tcp.callbacks = [] → e.tcp.state = .connecting ∧ e.entered = []
  cycle : e.tcp.callbacks ≠ [] → Cycle sessions id
  unreleased : e.released = false

/-- Announced connections are in cycles, and no connection has been released. -/
structure AllKept (s : TcpServer (List TcpSession)) : Prop where
  kept : ∀ id e, s.conns id = some e → Kept s.app id e
  fresh : ∀ id, s.nextConnId ≤ id → s.conns id = none

/-! ### What a member function announces -/

/-- The callbacks it runs, by the state it finds. -/
inductive Announces (c c' : TcpConnection) : Prop where
  | nothing (callbacks : c'.callbacks = c.callbacks) (state : c'.state = c.state)
  | up (callbacks : c'.callbacks = c.callbacks ++ [true])
  | down (callbacks : c'.callbacks = c.callbacks ++ [false]) (established : c.state ≠ .connecting)

section
variable {c c' : TcpConnection}

theorem announces_startReadInLoop (done : c.startReadInLoop = .ok c') : Announces c c' := by
  unfold TcpConnection.startReadInLoop at done
  split at done
  · obtain ⟨channel, -, ok⟩ := ok_of_bind done
    cases ok
    exact .nothing rfl rfl
  · cases done
    exact .nothing rfl rfl

theorem announces_stopReadInLoop (done : c.stopReadInLoop = .ok c') : Announces c c' := by
  unfold TcpConnection.stopReadInLoop at done
  split at done
  · obtain ⟨channel, -, ok⟩ := ok_of_bind done
    cases ok
    exact .nothing rfl rfl
  · cases done
    exact .nothing rfl rfl

theorem announces_shutdownInLoop : Announces c c.shutdownInLoop := by
  unfold TcpConnection.shutdownInLoop
  split <;> exact .nothing rfl rfl

theorem announces_sendInLoop {message : Bytes} {result : WriteResult} (done : c.sendInLoop message result = .ok c') :
    Announces c c' := by
  simp only [TcpConnection.sendInLoop] at done
  split at done
  · cases done
    exact .nothing rfl rfl
  · generalize (if (!c.channel.writing && c.outputBuffer.readableBytes == 0) = true then result.nwrote else 0) =
      nwrote at done
    split at done
    · split at done
      · cases done
        exact .nothing rfl rfl
      · obtain ⟨channel, -, ok⟩ := ok_of_bind done
        cases ok
        exact .nothing rfl rfl
    · cases done
      exact .nothing rfl rfl

theorem announces_handleWrite {result : WriteResult} (done : c.handleWrite result = .ok c') : Announces c c' := by
  simp only [TcpConnection.handleWrite] at done
  split at done
  · split at done
    · split at done
      · obtain ⟨channel, -, ok⟩ := ok_of_bind done
        cases ok
        split
        · rename_i disconnecting
          cases announces_shutdownInLoop (c := { c with
            written := c.written ++ c.outputBuffer.readable.take result.nwrote
            outputBuffer := c.outputBuffer.retrieve result.nwrote
            channel }) with
          | nothing callbacks state => exact .nothing callbacks state
          | up callbacks => exact .up callbacks
          | down callbacks established => exact .down callbacks established
        · exact .nothing rfl rfl
      · cases done
        exact .nothing rfl rfl
    · cases done
      exact .nothing rfl rfl
  · cases done
    exact .nothing rfl rfl

theorem announces_connectEstablished (done : c.connectEstablished = .ok c') : Announces c c' := by
  unfold TcpConnection.connectEstablished at done
  split at done
  · obtain ⟨channel, -, ok⟩ := ok_of_bind done
    cases ok
    exact .up rfl
  · cases done

theorem announces_disconnect (done : c.disconnect = .ok c') (established : c.state ≠ .connecting) : Announces c c' := by
  obtain ⟨channel, -, ok⟩ := ok_of_bind done
  cases ok
  exact .down rfl established

theorem announces_handleClose (done : c.handleClose = .ok c') : Announces c c' := by
  unfold TcpConnection.handleClose at done
  split at done
  · next isOpen =>
    apply announces_disconnect done
    rcases isOpen with state | state <;> rw [state] <;> decide
  · cases done

theorem announces_connectDestroyed (done : c.connectDestroyed = .ok c') : Announces c c' := by
  simp only [TcpConnection.connectDestroyed] at done
  split at done
  · next connected =>
    obtain ⟨closed, first, rest⟩ := ok_of_bind done
    obtain ⟨channel, -, ok⟩ := ok_of_bind rest
    cases ok
    cases announces_disconnect first (by rw [connected]; decide) with
    | nothing callbacks state => exact .nothing callbacks state
    | up callbacks => exact .up callbacks
    | down callbacks established => exact .down callbacks established
  · obtain ⟨channel, -, ok⟩ := ok_of_bind (r := Channel.remove _) done
    cases ok
    exact .nothing rfl rfl

end

/-! ### What a step keeps -/

namespace AllKept
variable {s : TcpServer (List TcpSession)} {id : Nat} {e : Entry}

theorem of_same {after : TcpServer (List TcpSession)} (all : AllKept s) (conns : after.conns = s.conns)
    (nextConnId : after.nextConnId = s.nextConnId) (app : after.app = s.app) : AllKept after := by
  refine ⟨fun id e there => ?_, fun id later => ?_⟩
  · rw [app]
    exact all.kept id e (conns ▸ there)
  · rw [conns]
    exact all.fresh id (nextConnId ▸ later)

theorem born (all : AllKept s) (there : s.conns id = some e) : id < s.nextConnId := by
  rcases Nat.lt_or_ge id s.nextConnId with before | later
  · exact before
  · cases there.symm.trans (all.fresh id later)

theorem put {sessions : List TcpSession} (all : AllKept s) (there : s.conns id = some e) (e' : Entry)
    (kept : Kept sessions id e') (cycles : ∀ other, Cycle s.app other → Cycle sessions other) :
    AllKept { s.put id e' with app := sessions } := by
  refine ⟨fun other e'' there'' => ?_, fun other later => ?_⟩
  · by_cases same : other = id
    · subst same
      obtain rfl := Option.some.inj ((s.put_self other e').symm.trans there'')
      exact kept
    · have old := all.kept other e'' ((s.put_of_ne same e').symm.trans there'')
      exact ⟨old.unannounced, fun some => cycles other (old.cycle some), old.unreleased⟩
  · have different : other ≠ id := fun same => absurd (all.born there) (Nat.not_lt.mpr (same ▸ later))
    exact (s.put_of_ne different e').trans (all.fresh other later)

/-- What a member function has announced is in a cycle. -/
theorem settle {e' : Entry} (all : AllKept s) (there : s.conns id = some e) (result : Except Failure TcpConnection)
    (tcp : e'.tcp = e.tcp) (entered : e'.entered = e.entered) (released : e'.released = e.released)
    (announces : ∀ tcp, result = .ok tcp → Announces e.tcp tcp) : AllKept (s.settle tcpWork id e' result) := by
  have kept := all.kept id e there
  cases result with
  | error => exact all.of_same rfl rfl rfl
  | ok c =>
    rw [TcpServer.settle, tcp]
    have unreleased : e'.released = false := released.trans kept.unreleased
    cases announces c rfl with
    | nothing callbacks state =>
      rw [callbacks, List.drop_length]
      refine all.put there _ ⟨fun none => ?_, fun some => kept.cycle (callbacks ▸ some), unreleased⟩
        fun _ cycle => cycle
      obtain ⟨connecting, nobody⟩ := kept.unannounced (callbacks ▸ none)
      exact ⟨state.trans connecting, entered.trans nobody⟩
    | up callbacks =>
      rw [callbacks, List.drop_left]
      refine all.put there _ ⟨fun none => ?_, fun _ => cycle_onConnection s.app id, unreleased⟩ fun other cycle =>
        cycle.onConnection true id
      simp [callbacks] at none
    | down callbacks established =>
      rw [callbacks, List.drop_left]
      have announced : e.tcp.callbacks ≠ [] := fun none => established (kept.unannounced none).1
      refine all.put there _ ⟨fun none => ?_, fun _ => (kept.cycle announced).onConnection false id, unreleased⟩
        fun other cycle => cycle.onConnection false id
      simp [callbacks] at none

theorem queueInLoop (all : AllKept s) (loop : LoopId) (functor : Functor) : AllKept (s.queueInLoop loop functor) :=
  all.of_same rfl rfl rfl

theorem removeConnectionInLoop (all : AllKept s) (there : s.conns id = some e) :
    AllKept (s.removeConnectionInLoop id e) := by
  unfold TcpServer.removeConnectionInLoop
  have kept := all.kept id e there
  split
  · exact all.of_same rfl rfl rfl
  · split
    · have erased := all.put there { e with erased := e.erased + 1 }
        ⟨kept.unannounced, kept.cycle, kept.unreleased⟩ fun _ cycle => cycle
      exact erased.of_same rfl rfl rfl
    · exact all.of_same rfl rfl rfl

theorem removeConnection (all : AllKept s) (there : s.conns id = some e) : AllKept (s.removeConnection id e) := by
  unfold TcpServer.removeConnection
  split
  · exact all.of_same rfl rfl rfl
  · split
    · exact all.removeConnectionInLoop there
    · exact all.queueInLoop 0 _

theorem handleClose (all : AllKept s) (there : s.conns id = some e) : AllKept (s.handleClose tcpWork id e) := by
  unfold TcpServer.handleClose
  split
  · exact all.of_same rfl rfl rfl
  · next tcp closed =>
    have settled := all.settle there (.ok tcp) rfl rfl rfl fun c ok => by
      cases ok
      exact announces_handleClose closed
    exact settled.removeConnection (s.put_self id { e with tcp })

theorem run {functor : Functor} (write : WriteResult) (all : AllKept s) (there : s.conns functor.conn = some e) :
    AllKept (s.run tcpWork write e functor) := by
  cases functor with
  | connectEstablished id => exact all.settle there _ rfl rfl rfl fun c done => announces_connectEstablished done
  | connectDestroyed id => exact all.settle there _ rfl rfl rfl fun c done => announces_connectDestroyed done
  | removeConnectionInLoop id => exact all.removeConnectionInLoop there
  | forceCloseInLoop id =>
    simp only [TcpServer.run]
    split
    · exact all.handleClose there
    · exact all
  | sendInLoop id message => exact all.settle there _ rfl rfl rfl fun c done => announces_sendInLoop done
  | shutdownInLoop id =>
    refine all.settle there (.ok e.tcp.shutdownInLoop) rfl rfl rfl fun c done => ?_
    cases done
    exact announces_shutdownInLoop
  | startReadInLoop id => exact all.settle there _ rfl rfl rfl fun c done => announces_startReadInLoop done
  | stopReadInLoop id => exact all.settle there _ rfl rfl rfl fun c done => announces_stopReadInLoop done

theorem runInLoop {functor : Functor} (inLoopThread : Bool) (write : WriteResult) (all : AllKept s)
    (there : s.conns functor.conn = some e) : AllKept (s.runInLoop tcpWork inLoopThread write e functor) := by
  unfold TcpServer.runInLoop
  split
  · exact all.run write there
  · exact all.queueInLoop e.loop functor

theorem unlessFailed {next : TcpServer (List TcpSession) → TcpServer (List TcpSession)} (all : AllKept s)
    (keeps : AllKept (next s)) : AllKept (s.unlessFailed next) := by
  unfold TcpServer.unlessFailed
  split
  · exact all
  · exact keeps

theorem handleEvent (revents : Revents) (read : ReadResult) (write : WriteResult) (all : AllKept s)
    (there : s.conns id = some e) : AllKept (s.handleEvent tcpWork revents read write id e) := by
  have readEvent {s : TcpServer (List TcpSession)} (all : AllKept s) :
      AllKept (s.readEvent tcpWork revents read id) := by
    unfold TcpServer.readEvent
    split
    · split
      · next there =>
        cases read with
        | closed => exact all.handleClose there
        | data | failed => exact all
      · exact all
    · exact all
  have writeEvent {s : TcpServer (List TcpSession)} (all : AllKept s) :
      AllKept (s.writeEvent tcpWork revents write id) := by
    unfold TcpServer.writeEvent
    split
    · split
      · next there => exact all.settle there _ rfl rfl rfl fun c done => announces_handleWrite done
      · exact all
    · exact all
  have hangUp : AllKept (if revents.pollHup && !revents.pollIn then s.handleClose tcpWork id e else s) := by
    split
    · exact all.handleClose there
    · exact all
  have readDone := hangUp.unlessFailed (readEvent hangUp)
  exact readDone.unlessFailed (writeEvent readDone)

theorem newConnection (all : AllKept s) (loop : LoopId) : AllKept (s.newConnection tcpWork loop) := by
  unfold TcpServer.newConnection
  dsimp only
  generalize new : (⟨.created, loop, [], 0, false, false⟩ : Entry) = e
  generalize made : ({ s.put s.nextConnId e with
    nextConnId := s.nextConnId + 1, connections := s.connections ++ [s.nextConnId] } : TcpServer (List TcpSession)) = s'
  have there : s'.conns (Functor.connectEstablished s.nextConnId).conn = some e := by
    rw [← made]
    exact s.put_self s.nextConnId e
  have all' : AllKept s' := by
    subst made
    refine ⟨fun other e' there' => ?_, fun other later => ?_⟩
    · by_cases same : other = s.nextConnId
      · subst same
        obtain rfl := Option.some.inj (there.symm.trans there')
        rw [← new]
        exact ⟨fun _ => ⟨rfl, rfl⟩, fun some => absurd rfl some, rfl⟩
      · exact all.kept other e' ((s.put_of_ne same e).symm.trans there')
    · have different : other ≠ s.nextConnId := by
        rintro rfl
        exact absurd later (Nat.not_succ_le_self _)
      exact (s.put_of_ne different e).trans (all.fresh other (Nat.le_of_succ_le later))
  exact all'.runInLoop _ _ there

theorem destroyConnection (all : AllKept s) (id : Nat) : AllKept (s.destroyConnection tcpWork id) := by
  apply all.unlessFailed
  split
  · next e there =>
    have erased : AllKept { s with connections := s.connections.erase id } := all.of_same rfl rfl rfl
    exact erased.runInLoop _ _ there
  · exact all

theorem destroyConnections (ids : List Nat) (all : AllKept s) :
    AllKept (ids.foldl (TcpServer.destroyConnection tcpWork) s) := by
  induction ids generalizing s with
  | nil => exact all
  | cons id ids ih => exact ih (all.destroyConnection id)

theorem leave {call : Call} (inLoopThread : Bool) (write : WriteResult) (all : AllKept s) (there : s.conns id = some e)
    (called : call ∈ e.entered) : AllKept (s.leave tcpWork id e call inLoopThread write) := by
  have kept := all.kept id e there
  generalize left : ({ e with
    entered := e.entered.erase call, tcp.state := call.setState e.tcp.state } : Entry) = e'
  have put : AllKept (s.put id e') := by
    refine all.put there e' ⟨fun none => ?_, fun some => kept.cycle ?_, ?_⟩ fun _ cycle => cycle
    · -- who has called has been announced
      have none : e.tcp.callbacks = [] := by rw [← left] at none; exact none
      exact absurd (kept.unannounced none).2 (List.ne_nil_of_mem called)
    · rw [← left] at some
      exact some
    · rw [← left]
      exact kept.unreleased
  have there' : (s.put id e').conns (TcpServer.taskOf id call).conn = some e' := by
    have conn : (TcpServer.taskOf id call).conn = id := by cases call <;> rfl
    rw [conn, s.put_self]
  have leaves : s.leave tcpWork id e call inLoopThread write =
      (s.put id e').runInLoop tcpWork (inLoopThread && call != .forceClose) write e' (TcpServer.taskOf id call) := by
    rw [TcpServer.leave, left]
  rw [leaves]
  exact put.runInLoop _ _ there'

/-- Whoever has no owner left has never been announced, and its destructor fails. -/
theorem release (all : AllKept s) (there : s.conns id = some e) (unowned : s.Unowned tcpWork id e) :
    AllKept (s.release tcpWork id e) := by
  have kept := all.kept id e there
  obtain ⟨-, unheld, -, -⟩ := unowned
  have unannounced : e.tcp.callbacks = [] := by
    by_contra announced
    obtain ⟨session, member, conn, -⟩ := kept.cycle announced
    have held : tcpWork.holds s.app id = true := List.any_eq_true.mpr ⟨session, member, beq_iff_eq.mpr conn⟩
    cases unheld.symm.trans held
  have connecting : e.tcp.state ≠ .disconnected := by
    rw [(kept.unannounced unannounced).1]
    decide
  rw [TcpServer.release, if_neg fun fine => connecting fine.1]
  exact all.of_same rfl rfl rfl

theorem next {after : TcpServer (List TcpSession)} {label : TcpServer.Label} (all : AllKept s)
    (taken : s.step tcpWork label = some after) : AllKept after := by
  cases TcpServer.moves_of_step taken with
  | newConnection loop alive => exact all.newConnection loop
  | handleEvent read write there reported => exact all.handleEvent _ read write there
  | @doPendingFunctor loop functor rest e write queued there =>
    have popped : AllKept { s with queue := Function.update s.queue loop rest } := all.of_same rfl rfl rfl
    exact popped.run write there
  | @enter id e call there usable admitted =>
    have kept := all.kept id e there
    exact all.put there _ ⟨fun none => absurd none usable.1, kept.cycle, kept.unreleased⟩ fun _ cycle => cycle
  | leave inLoopThread write there called => exact all.leave inLoopThread write there called
  | @startRead id e inLoopThread there usable =>
    have there' : s.conns (Functor.startReadInLoop id).conn = some e := there
    exact all.runInLoop _ _ there'
  | @stopRead id e inLoopThread there usable =>
    have there' : s.conns (Functor.stopReadInLoop id).conn = some e := there
    exact all.runInLoop _ _ there'
  | destroy alive =>
    have dying : AllKept { s with alive := false } := all.of_same rfl rfl rfl
    exact dying.destroyConnections s.connections
  | quit gone away => exact all.of_same rfl rfl rfl
  | release there unreleased unowned => exact all.release there unowned

end AllKept

/-! ## Descriptors -/

theorem reaches_allKept {s : TcpServer (List TcpSession)}
    (run : Reaches (TcpServer.step tcpWork) (fun _ _ => True) (.initial []) s) : AllKept s := by
  apply run.invariant AllKept
  · refine ⟨fun id e there => ?_, fun _ _ => rfl⟩
    cases there
  · intro state label after all _ taken
    exact all.next taken

/-- Each finished connection is one open descriptor too many. -/
theorem AllKept.openDescriptors_eq {s : TcpServer (List TcpSession)} (all : AllKept s) :
    openDescriptors s = liveConnections s + finishedConnections s := by
  have finished (id : Nat) :
      ((s.conns id).any (fun e => !e.released) && (s.conns id).any fun e => decide (Finished s id e)) =
      (s.conns id).any fun e => decide (Finished s id e) := by
    cases there : s.conns id with
    | none => rfl
    | some e => simp [(all.kept id e there).unreleased]
  have live (id : Nat) :
      ((s.conns id).any (fun e => !e.released) && !(s.conns id).any fun e => decide (Finished s id e)) =
      (s.conns id).any fun e => !decide (Finished s id e) := by
    cases there : s.conns id with
    | none => rfl
    | some e => simp [(all.kept id e there).unreleased]
  rw [openDescriptors, List.countP_eq_countP_filter_add _ _ fun id => (s.conns id).any
    fun e => decide (Finished s id e),
    List.countP_filter, List.countP_filter, Nat.add_comm]
  simp only [finished, live, liveConnections, finishedConnections]

theorem AllKept.owned {s : TcpServer (List TcpSession)} {id : Nat} {e : Entry} (all : AllKept s)
    (there : s.conns id = some e) (finished : Finished s id e) : ∃ owner, Owns s id owner := by
  obtain ⟨session, member, conn, -⟩ := (all.kept id e there).cycle (List.ne_nil_of_mem finished.1)
  exact ⟨.session session, member, conn⟩

/-- Descriptors are given back exactly as long as there is none to give back. -/
theorem gives_back_iff {s : TcpServer (List TcpSession)}
    (run : Reaches (TcpServer.step tcpWork) (fun _ _ => True) (.initial []) s) :
    (GivesBack s ∧ openDescriptors s = liveConnections s) ↔ ∀ id e, s.conns id = some e → ¬Finished s id e := by
  have all := reaches_allKept run
  constructor
  · rintro ⟨givesBack, -⟩ id e there finished
    obtain ⟨owner, owns⟩ := all.owned there finished
    exact givesBack id e there finished owner owns
  · intro none
    refine ⟨fun id e there finished => absurd finished (none id e there), ?_⟩
    have nobody : finishedConnections s = 0 := by
      rw [finishedConnections, List.countP_eq_zero]
      intro id _
      cases there : s.conns id with
      | none => simp
      | some e => simp [none id e there]
    rw [all.openDescriptors_eq, nobody, Nat.add_zero]

/-- A client connects to one of the IO loops, sends a request and leaves. -/
def oneClient : List TcpServer.Label :=
  [.newConnection 1, .doPendingFunctor 1 .wouldBlock, .handleEvent 1 ⟨true, false, false, false⟩ .data .wouldBlock,
    .handleEvent 1 ⟨true, false, false, false⟩ .closed .wouldBlock, .doPendingFunctor 0 .wouldBlock,
    .doPendingFunctor 1 .wouldBlock]

theorem gives_back_iff_connected : ∃ s, follow (TcpServer.step tcpWork) (.initial []) (oneClient.take 3) = some s ∧
    GivesBack s ∧ openDescriptors s = liveConnections s := by
  have follows : (follow (TcpServer.step tcpWork) (.initial []) (oneClient.take 3)).isSome = true := by decide +kernel
  obtain ⟨s, reached⟩ := Option.isSome_iff_exists.mp follows
  have noneFinished : (follow (TcpServer.step tcpWork) (.initial []) (oneClient.take 3)).map finishedConnections =
      some 0 := by
    decide +kernel
  have run : Reaches (TcpServer.step tcpWork) (fun _ _ => True) (.initial []) s := Reaches.of_follow reached
  refine ⟨s, reached, (gives_back_iff run).mpr fun id e there finished => ?_⟩
  rw [reached, Option.map_some, Option.some.injEq, finishedConnections, List.countP_eq_zero] at noneFinished
  have later := noneFinished id (List.mem_range.mpr ((reaches_allKept run).born there))
  simp [there, finished] at later

/-- The client is gone, and its connection and its session hold each other. -/
theorem oneClient_leaks :
    ¬∀ s, Reaches (TcpServer.step tcpWork) (fun _ _ => True) (.initial []) s →
      GivesBack s ∧ openDescriptors s = liveConnections s := by
  intro always
  have counts : (follow (TcpServer.step tcpWork) (.initial []) oneClient).map
      (fun s => (openDescriptors s, liveConnections s)) = some (1, 0) := by
    decide +kernel
  obtain ⟨s, reached, counted⟩ := Option.map_eq_some_iff.mp counts
  have equal := (always s (Reaches.of_follow reached)).2
  rw [Prod.mk.injEq] at counted
  omega

end EdgeFlow.Manager
