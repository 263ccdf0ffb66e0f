import EdgeFlow.Library.Run
import EdgeFlow.Network.TcpConnection
import Mathlib.Logic.Function.Basic

/-! `TcpServer` over its base loop and the IO loops, with whatever the connection
callback keeps for itself.

Each loop has a queue of functors, and a step takes one of them, one event of one
descriptor, or one call of a user. What a callback calls is a step after it. A user
holds a connection until what it has called has run, so that `this` in a functor is
there when the functor is.
-/

set_option autoImplicit false

namespace EdgeFlow.Network
open Library

/-- The base loop is number 0. -/
abbrev LoopId := Nat

/-- What is queued for a loop; the first four hold the connection. -/
inductive Functor where
  | connectEstablished (id : Nat)
  | connectDestroyed (id : Nat)
  | removeConnectionInLoop (id : Nat)
  | forceCloseInLoop (id : Nat)
  | sendInLoop (id : Nat) (message : Bytes)
  | shutdownInLoop (id : Nat)
  | startReadInLoop (id : Nat)
  | stopReadInLoop (id : Nat)
  deriving DecidableEq

/-- The connection it is bound to. -/
def Functor.conn : Functor → Nat
  | .connectEstablished id | .connectDestroyed id | .removeConnectionInLoop id | .forceCloseInLoop id
  | .sendInLoop id _ | .shutdownInLoop id | .startReadInLoop id | .stopReadInLoop id => id

/-- It is bound to a `shared_ptr`. -/
def Functor.holds : Functor → Bool
  | .connectEstablished _ | .connectDestroyed _ | .removeConnectionInLoop _ | .forceCloseInLoop _ => true
  | _ => false

/-- A connection object, by the number in its name. -/
structure Entry where
  tcp : TcpConnection
  loop : LoopId
  /-- the calls that have found the state they ask for -/
  entered : List Call
  /-- how often it was erased from `connections_` -/
  erased : Nat
  /-- `connectDestroyed` has finished -/
  destroyed : Bool
  /-- `~TcpConnection` has run -/
  released : Bool

/-- The connection callback, and what its side keeps of a connection. -/
structure Callbacks (App : Type) where
  onConnection : (connected : Bool) → (id : Nat) → App → App
  /-- it has a `shared_ptr` to the connection -/
  holds : App → (id : Nat) → Bool
  /-- the `context_` of a connection goes with it -/
  dropContext : (id : Nat) → App → App

structure TcpServer (App : Type) where
  conns : Nat → Option Entry
  nextConnId : Nat
  connections : List Nat
  queue : LoopId → List Functor
  /-- `~TcpServer` has not run -/
  alive : Bool
  app : App
  failed : Option Failure

/-- What `epoll_wait` has reported for a descriptor. -/
structure Revents where
  pollIn : Bool
  pollOut : Bool
  pollHup : Bool
  pollErr : Bool
  deriving DecidableEq

namespace TcpServer
variable {App : Type} (callbacks : Callbacks App) (s : TcpServer App)

def initial (app : App) : TcpServer App := ⟨fun _ => none, 1, [], fun _ => [], true, app, none⟩

def put (id : Nat) (e : Entry) : TcpServer App := { s with conns := Function.update s.conns id (some e) }

@[simp] theorem put_self (id : Nat) (e : Entry) : (s.put id e).conns id = some e := Function.update_self ..

theorem put_of_ne {id other : Nat} (different : other ≠ id) (e : Entry) : (s.put id e).conns other = s.conns other :=
  Function.update_of_ne different ..

def fail (failure : Failure) : TcpServer App := { s with failed := some failure }

/-- `EventLoop::queueInLoop` -/
def queueInLoop (loop : LoopId) (functor : Functor) : TcpServer App :=
  { s with queue := Function.update s.queue loop (s.queue loop ++ [functor]) }

/-- Nothing runs once an assertion has failed. -/
def unlessFailed (next : TcpServer App → TcpServer App) : TcpServer App :=
  if s.failed.isSome then s else next s

/-- What a member function has made of a connection, and the callbacks it has run. -/
def settle (id : Nat) (e : Entry) : Except Failure TcpConnection → TcpServer App
  | .error failure => s.fail failure
  | .ok tcp =>
    let called := tcp.callbacks.drop e.tcp.callbacks.length
    { s.put id { e with tcp } with
      app := called.foldl (fun app connected => callbacks.onConnection connected id app) s.app }

def removeConnectionInLoop (id : Nat) (e : Entry) : TcpServer App :=
  if s.alive = false then s.fail .danglingServer
  else if id ∈ s.connections then
    { s.put id { e with erased := e.erased + 1 } with
      connections := s.connections.erase id }.queueInLoop e.loop (.connectDestroyed id)
  else s.fail .removeConnectionInLoop

/-- `TcpServer::removeConnection`, the close callback. -/
def removeConnection (id : Nat) (e : Entry) : TcpServer App :=
  if s.alive = false then s.fail .danglingServer
  -- `runInLoop` of the base loop
  else if e.loop = 0 then s.removeConnectionInLoop id e
  else s.queueInLoop 0 (.removeConnectionInLoop id)

/-- `TcpConnection::handleClose` -/
def handleClose (id : Nat) (e : Entry) : TcpServer App :=
  match e.tcp.handleClose with
  | .error failure => s.fail failure
  | .ok tcp => (s.settle callbacks id e (.ok tcp)).removeConnection id { e with tcp }

def connectDestroyed (id : Nat) (e : Entry) : TcpServer App :=
  (s.settle callbacks id { e with destroyed := true } e.tcp.connectDestroyed)

/-- A functor run in its loop; `write` is what the kernel would say to a write. -/
def run (write : WriteResult) (e : Entry) : Functor → TcpServer App
  | .connectEstablished id => s.settle callbacks id e e.tcp.connectEstablished
  | .connectDestroyed id => s.connectDestroyed callbacks id e
  | .removeConnectionInLoop id => s.removeConnectionInLoop id e
  | .forceCloseInLoop id =>
    if e.tcp.state = .connected ∨ e.tcp.state = .disconnecting then s.handleClose callbacks id e else s
  | .sendInLoop id message => s.settle callbacks id e (e.tcp.sendInLoop message write)
  | .shutdownInLoop id => s.settle callbacks id e (.ok e.tcp.shutdownInLoop)
  | .startReadInLoop id => s.settle callbacks id e e.tcp.startReadInLoop
  | .stopReadInLoop id => s.settle callbacks id e e.tcp.stopReadInLoop

/-- `runInLoop` of the connection's loop. -/
def runInLoop (inLoopThread : Bool) (write : WriteResult) (e : Entry) (functor : Functor) : TcpServer App :=
  if inLoopThread then s.run callbacks write e functor else s.queueInLoop e.loop functor

/-- The read callback. -/
def handleRead (read : ReadResult) (id : Nat) (e : Entry) : TcpServer App :=
  match read with
  | .closed => s.handleClose callbacks id e
  | .data | .failed => s

/-- The read event, if there is one. -/
def readEvent (revents : Revents) (read : ReadResult) (id : Nat) : TcpServer App :=
  if revents.pollIn then
    match s.conns id with
    | some e => s.handleRead callbacks read id e
    | none => s
  else s

/-- The write event, if there is one. -/
def writeEvent (revents : Revents) (write : WriteResult) (id : Nat) : TcpServer App :=
  if revents.pollOut then
    match s.conns id with
    | some e => s.settle callbacks id e (e.tcp.handleWrite write)
    | none => s
  else s

/-- `Channel::handleEvent`; the error callback only writes to the log. -/
def handleEvent (revents : Revents) (read : ReadResult) (write : WriteResult) (id : Nat) (e : Entry) :
    TcpServer App :=
  let s := if revents.pollHup && !revents.pollIn then s.handleClose callbacks id e else s
  let s := s.unlessFailed fun s => s.readEvent callbacks revents read id
  s.unlessFailed fun s => s.writeEvent callbacks revents write id

/-- `newConnection`, with the loop that the thread pool gives. -/
def newConnection (loop : LoopId) : TcpServer App :=
  let id := s.nextConnId
  let e : Entry := ⟨.created, loop, [], 0, false, false⟩
  let s := { s.put id e with nextConnId := id + 1, connections := s.connections ++ [id] }
  s.runInLoop callbacks (loop = 0) .wouldBlock e (.connectEstablished id)

/-- One turn of the loop in `~TcpServer`, run in the base loop. -/
def destroyConnection (s : TcpServer App) (id : Nat) : TcpServer App :=
  s.unlessFailed fun s =>
    match s.conns id with
    | some e =>
      { s with connections := s.connections.erase id }.runInLoop callbacks (e.loop = 0) .wouldBlock e
        (.connectDestroyed id)
    | none => s

/-- `~TcpServer` -/
def destroy : TcpServer App := s.connections.foldl (destroyConnection callbacks) { s with alive := false }

/-- Nobody holds the connection any more. -/
def Unowned (id : Nat) (e : Entry) : Prop :=
  id ∉ s.connections ∧ callbacks.holds s.app id = false ∧ e.entered = [] ∧
    ∀ functor ∈ s.queue e.loop ++ s.queue 0, functor.conn ≠ id

instance (id : Nat) (e : Entry) : Decidable (s.Unowned callbacks id e) := inferInstanceAs (Decidable (_ ∧ _))

/-- `~TcpConnection`, with the channel it owns. -/
def release (id : Nat) (e : Entry) : TcpServer App :=
  if e.tcp.state = .disconnected ∧ e.tcp.channel.addedToLoop = false then
    { s.put id { e with released := true } with app := callbacks.dropContext id s.app }
  else s.fail .destructor

/-- What the descriptor can be reported for. An open connection may also be handed events that
were collected before it changed its interest. -/
def Reported (e : Entry) (revents : Revents) : Prop :=
  (e.tcp.state = .connected ∨ e.tcp.state = .disconnecting) ∨
    (e.tcp.channel.polled = true ∧ (revents.pollIn = true → e.tcp.channel.reading = true) ∧
      (revents.pollOut = true → e.tcp.channel.writing = true))

instance (e : Entry) (revents : Revents) : Decidable (Reported e revents) := inferInstanceAs (Decidable (_ ∨ _))

/-- A user has been given the connection, and it is still there. -/
def Usable (e : Entry) : Prop := e.tcp.callbacks ≠ [] ∧ e.released = false

instance (e : Entry) : Decidable (Usable e) := inferInstanceAs (Decidable (_ ∧ _))

inductive Label where
  | newConnection (loop : LoopId)
  | handleEvent (id : Nat) (revents : Revents) (read : ReadResult) (write : WriteResult)
  | doPendingFunctor (loop : LoopId) (write : WriteResult)
  | enter (id : Nat) (call : Call)
  | leave (id : Nat) (call : Call) (inLoopThread : Bool) (write : WriteResult)
  | startRead (id : Nat) (inLoopThread : Bool)
  | stopRead (id : Nat) (inLoopThread : Bool)
  | destroy
  | quit (loop : LoopId)
  | release (id : Nat)

/-- The functor a call comes to; `forceClose` queues its own in any case. -/
def taskOf (id : Nat) : Call → Functor
  | .send message => .sendInLoop id message
  | .shutdown => .shutdownInLoop id
  | .forceClose => .forceCloseInLoop id

/-- What is behind the test of a call. -/
def leave (id : Nat) (e : Entry) (call : Call) (inLoopThread : Bool) (write : WriteResult) : TcpServer App :=
  let e := { e with entered := e.entered.erase call, tcp.state := call.setState e.tcp.state }
  (s.put id e).runInLoop callbacks (inLoopThread && call != .forceClose) write e (taskOf id call)

def step (s : TcpServer App) (label : Label) : Option (TcpServer App) :=
  if s.failed.isSome then none
  else
    match label with
    | .newConnection loop => if s.alive then some (s.newConnection callbacks loop) else none
    | .handleEvent id revents read write => do
      let e ← s.conns id
      if Reported e revents then some (s.handleEvent callbacks revents read write id e) else none
    | .doPendingFunctor loop write =>
      match s.queue loop with
      | [] => none
      | functor :: rest => do
        let e ← s.conns functor.conn
        some ({ s with queue := Function.update s.queue loop rest }.run callbacks write e functor)
    | .enter id call => do
      let e ← s.conns id
      if Usable e ∧ call.admitted e.tcp.state = true then
        some (s.put id { e with entered := call :: e.entered })
      else none
    | .leave id call inLoopThread write => do
      let e ← s.conns id
      if call ∈ e.entered then some (s.leave callbacks id e call inLoopThread write) else none
    | .startRead id inLoopThread => do
      let e ← s.conns id
      if Usable e then some (s.runInLoop callbacks inLoopThread .wouldBlock e (.startReadInLoop id)) else none
    | .stopRead id inLoopThread => do
      let e ← s.conns id
      if Usable e then some (s.runInLoop callbacks inLoopThread .wouldBlock e (.stopReadInLoop id)) else none
    | .destroy => if s.alive then some (s.destroy callbacks) else none
    -- the thread pool goes with the server, and an IO loop with what it has not run
    | .quit loop =>
      if s.alive = false ∧ loop ≠ 0 then some { s with queue := Function.update s.queue loop [] } else none
    | .release id => do
      let e ← s.conns id
      if e.released = false ∧ s.Unowned callbacks id e then some (s.release callbacks id e) else none

/-- All that a step can do, and what it asks for. -/
inductive Moves : Label → TcpServer App → Prop where
  | newConnection (loop : LoopId) : s.alive = true → Moves (.newConnection loop) (s.newConnection callbacks loop)
  | handleEvent {id : Nat} {e : Entry} {revents : Revents} (read : ReadResult) (write : WriteResult) :
      s.conns id = some e → Reported e revents →
        Moves (.handleEvent id revents read write) (s.handleEvent callbacks revents read write id e)
  | doPendingFunctor {loop : LoopId} {functor : Functor} {rest : List Functor} {e : Entry} (write : WriteResult) :
      s.queue loop = functor :: rest → s.conns functor.conn = some e →
        Moves (.doPendingFunctor loop write)
          ({ s with queue := Function.update s.queue loop rest }.run callbacks write e functor)
  | enter {id : Nat} {e : Entry} {call : Call} : s.conns id = some e → Usable e → call.admitted e.tcp.state = true →
      Moves (.enter id call) (s.put id { e with entered := call :: e.entered })
  | leave {id : Nat} {e : Entry} {call : Call} (inLoopThread : Bool) (write : WriteResult) :
      s.conns id = some e → call ∈ e.entered →
        Moves (.leave id call inLoopThread write) (s.leave callbacks id e call inLoopThread write)
  | startRead {id : Nat} {e : Entry} (inLoopThread : Bool) : s.conns id = some e → Usable e →
      Moves (.startRead id inLoopThread) (s.runInLoop callbacks inLoopThread .wouldBlock e (.startReadInLoop id))
  | stopRead {id : Nat} {e : Entry} (inLoopThread : Bool) : s.conns id = some e → Usable e →
      Moves (.stopRead id inLoopThread) (s.runInLoop callbacks inLoopThread .wouldBlock e (.stopReadInLoop id))
  | destroy : s.alive = true → Moves .destroy (s.destroy callbacks)
  | quit {loop : LoopId} : s.alive = false → loop ≠ 0 →
      Moves (.quit loop) { s with queue := Function.update s.queue loop [] }
  | release {id : Nat} {e : Entry} : s.conns id = some e → e.released = false → s.Unowned callbacks id e →
      Moves (.release id) (s.release callbacks id e)

variable {callbacks s}

theorem moves_of_step {after : TcpServer App} {label : Label} (taken : s.step callbacks label = some after) :
    s.Moves callbacks label after := by
  obtain ⟨-, taken⟩ := Option.ite_none_left_eq_some.mp taken
  cases label with
  | newConnection loop =>
    obtain ⟨alive, rfl⟩ := Option.ite_some_none_eq_some.mp taken
    exact .newConnection loop alive
  | handleEvent id revents read write =>
    obtain ⟨e, there, taken⟩ := Option.bind_eq_some_iff.mp taken
    obtain ⟨reported, rfl⟩ := Option.ite_some_none_eq_some.mp taken
    exact .handleEvent read write there reported
  | doPendingFunctor loop write =>
    dsimp only at taken
    split at taken
    · cases taken
    · next functor rest queued =>
      obtain ⟨e, there, taken⟩ := Option.bind_eq_some_iff.mp taken
      cases taken
      exact .doPendingFunctor write queued there
  | enter id call =>
    obtain ⟨e, there, taken⟩ := Option.bind_eq_some_iff.mp taken
    obtain ⟨⟨usable, admitted⟩, rfl⟩ := Option.ite_some_none_eq_some.mp taken
    exact .enter there usable admitted
  | leave id call inLoopThread write =>
    obtain ⟨e, there, taken⟩ := Option.bind_eq_some_iff.mp taken
    obtain ⟨called, rfl⟩ := Option.ite_some_none_eq_some.mp taken
    exact .leave inLoopThread write there called
  | startRead id inLoopThread =>
    obtain ⟨e, there, taken⟩ := Option.bind_eq_some_iff.mp taken
    obtain ⟨usable, rfl⟩ := Option.ite_some_none_eq_some.mp taken
    exact .startRead inLoopThread there usable
  | stopRead id inLoopThread =>
    obtain ⟨e, there, taken⟩ := Option.bind_eq_some_iff.mp taken
    obtain ⟨usable, rfl⟩ := Option.ite_some_none_eq_some.mp taken
    exact .stopRead inLoopThread there usable
  | destroy =>
    obtain ⟨alive, rfl⟩ := Option.ite_some_none_eq_some.mp taken
    exact .destroy alive
  | quit loop =>
    obtain ⟨⟨gone, away⟩, rfl⟩ := Option.ite_some_none_eq_some.mp taken
    exact .quit gone away
  | release id =>
    obtain ⟨e, there, taken⟩ := Option.bind_eq_some_iff.mp taken
    obtain ⟨⟨unreleased, unowned⟩, rfl⟩ := Option.ite_some_none_eq_some.mp taken
    exact .release there unreleased unowned

end TcpServer

end EdgeFlow.Network
