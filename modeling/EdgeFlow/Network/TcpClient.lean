import EdgeFlow.Library.Run
import EdgeFlow.Network.Connector

/-! `TcpClient`, over the loop of its connector.

Users call from any thread; what a callback calls is a step after it. The flags are not locked: a call sets that of the
client and that of the connector in two steps, and where the loop has tested one, what it does then is another step. The
connection itself is another machine, of which this one sees the end.
-/

set_option autoImplicit false

namespace EdgeFlow.Network
open Library

/-- What users call; the first two go on to the connector and to the loop. -/
inductive ClientCall where
  | connect
  | stop
  | disconnect
  | enableRetry
  deriving DecidableEq

/-- What the loop is about to do behind a test of a flag, or behind setting one. -/
inductive LoopNext where
  | poll
  /-- in `startInLoop` -/
  | connect
  /-- in `handleWrite`; the error event is still to come, where there is one -/
  | newConnection (sockfd : Nat) (pollErr : Bool)
  /-- in `removeConnection` -/
  | restart
  /-- in `restart` -/
  | startInLoop
  deriving DecidableEq

structure TcpClient where
  connector : Connector
  retry : Bool
  connect : Bool
  connection : Option Nat
  /-- the descriptors that `newConnection` is called with, in order -/
  handed : List Nat
  /-- the calls that have set the flag of the client -/
  entered : List ClientCall
  /-- the calls that have set the flag of the connector too -/
  passed : List ClientCall
  next : LoopNext
  failed : Option ClientFailure

namespace TcpClient

def initial : TcpClient := ⟨.initial, false, true, none, [], [], [], .poll, none⟩

variable (client : TcpClient)

def settle : Except ClientFailure Connector → TcpClient
  | .ok connector => { client with connector }
  | .error failure => { client with failed := some failure }

def startInLoop : TcpClient :=
  match client.connector.startInLoop with
  | .ok asked => { client with next := if asked then .connect else .poll }
  | .error failure => { client with failed := some failure }

/-- The error event of the connector's channel, where there is one. -/
def handleError (pollErr : Bool) : TcpClient :=
  if pollErr then client.settle client.connector.handleError else client

/-- `Channel::handleEvent`, for the two events that have a callback: the write event, and the error event behind it. -/
def handleEvent (pollOut pollErr soError selfConnect : Bool) : TcpClient :=
  if pollOut then
    match client.connector.handleWrite soError selfConnect with
    | .ok (some sockfd, connector) =>
      { client with
        connector
        handed := client.handed ++ [sockfd]
        next := .newConnection sockfd pollErr }
    | .ok (none, connector) => { client with connector }.handleError pollErr
    | .error failure => { client with failed := some failure }
  else client.handleError pollErr

def newConnection (sockfd : Nat) (pollErr : Bool) : TcpClient :=
  { client with
    connection := some sockfd
    next := .poll }.handleError pollErr

/-- The close callback of a connection, as far as its test. -/
def removeConnection (sockfd : Nat) : TcpClient :=
  if client.connection = some sockfd then
    { client with
      connection := none
      next := if client.retry && client.connect then .restart else .poll }
  else { client with failed := some .removeConnection }

/-- What the loop is about to do. -/
def goOn (errno : ConnectErrno) : TcpClient :=
  match client.next with
  | .poll => client
  | .connect => { client with next := .poll }.settle (client.connector.connectSocket errno)
  | .newConnection sockfd pollErr => client.newConnection sockfd pollErr
  | .restart =>
    { client with
      connector := client.connector.restart
      next := .startInLoop }
  | .startInLoop => client.startInLoop

def run : ConnectorTask → TcpClient
  | .startInLoop => client.startInLoop
  | .stopInLoop => client.settle client.connector.stopInLoop
  | .resetChannel => client.settle client.connector.resetChannel

/-- The flag of the client. -/
def enter : ClientCall → TcpClient
  | .connect => { client with connect := true, entered := .connect :: client.entered }
  | .stop => { client with connect := false, entered := .stop :: client.entered }
  | .disconnect => { client with connect := false }
  | .enableRetry => { client with retry := true }

/-- The flag of the connector. -/
def pass (call : ClientCall) : TcpClient :=
  let client :=
    { client with
      entered := client.entered.erase call
      passed := call :: client.passed }
  match call with
  | .connect => { client with connector.connect := true }
  | .stop => { client with connector.connect := false }
  | .disconnect | .enableRetry => client

/-- `runInLoop` of the rest of `connect()`, and `queueInLoop` of that of `stop()`. -/
def leave (call : ClientCall) (inLoopThread : Bool) : TcpClient :=
  let client := { client with passed := client.passed.erase call }
  match call with
  | .connect =>
    if inLoopThread then client.startInLoop
    else { client with connector := client.connector.queueInLoop .startInLoop }
  | .stop => { client with connector := client.connector.queueInLoop .stopInLoop }
  | .disconnect | .enableRetry => client

inductive Label where
  | enter (call : ClientCall)
  | pass (call : ClientCall)
  | leave (call : ClientCall) (inLoopThread : Bool)
  | handleEvent (pollOut pollErr soError selfConnect : Bool)
  | doPendingFunctor
  | closed
  | goOn (errno : ConnectErrno)

/-- The events of a connection come after the functors that were queued when it was made. -/
def step (client : TcpClient) (label : Label) : Option TcpClient :=
  if client.failed.isSome then none
  else
    match label with
    | .enter call => some (client.enter call)
    | .pass call => if call ∈ client.entered then some (client.pass call) else none
    | .leave call inLoopThread =>
      if call ∈ client.passed ∧ (inLoopThread = true → client.next = .poll) then
        some (client.leave call inLoopThread)
      else none
    | .handleEvent pollOut pollErr soError selfConnect =>
      if client.next = .poll ∧ client.connector.channel.any (·.2.polled) then
        some (client.handleEvent pollOut pollErr soError selfConnect)
      else none
    | .doPendingFunctor =>
      match client.connector.pendingFunctors with
      | [] => none
      | task :: rest =>
        if client.next = .poll then some ({ client with connector.pendingFunctors := rest }.run task) else none
    | .closed =>
      if client.next = .poll ∧ .resetChannel ∉ client.connector.pendingFunctors then
        client.connection.map client.removeConnection
      else none
    | .goOn errno => if client.next = .poll then none else some (client.goOn errno)

end TcpClient

/-! ## Runs -/

namespace TcpClient

/-- What holds where the loop is between a test and what follows. -/
def Facts (client : TcpClient) : LoopNext → Prop
  | .poll => True
  | .connect => client.connector.state = .disconnected
  | .newConnection sockfd _ =>
    client.connection = none ∧ client.connector.state = .connected ∧ client.handed.getLast? = some sockfd
  | .restart =>
    client.connection = none ∧ client.connector.state = .connected ∧ client.connector.channel = none ∧
      .resetChannel ∉ client.connector.pendingFunctors
  | .startInLoop =>
    client.connection = none ∧ client.connector.state = .disconnected ∧ client.connector.channel = none

/-- The descriptors are accounted for, and a connection that is there is the connector's last. -/
structure Kept (client : TcpClient) : Prop where
  sound : client.connector.Sound client.handed
  current : ∀ sockfd, client.connection = some sockfd →
    client.connector.state = .connected ∧ client.handed.getLast? = some sockfd
  facts : client.Facts client.next

/-- A start, or the attempt that it makes, meets what it does not expect. -/
def Clashes (client : TcpClient) : Label → Prop
  | .leave .connect true => client.connector.state ≠ .disconnected
  | .doPendingFunctor =>
    client.connector.pendingFunctors.head? = some .startInLoop ∧ client.connector.state ≠ .disconnected
  | .goOn errno => client.next = .connect ∧ client.connector.Clashes errno
  | _ => False

theorem initial_kept : initial.Kept where
  sound := Connector.initial_sound
  current := nofun
  facts := trivial

/-- What each label does, and where it may come. -/
inductive Takes (client : TcpClient) : Label → TcpClient → Prop where
  | enter (call : ClientCall) : Takes client (.enter call) (client.enter call)
  | pass (call : ClientCall) (entered : call ∈ client.entered) : Takes client (.pass call) (client.pass call)
  | leave (call : ClientCall) (inLoopThread : Bool) (passed : call ∈ client.passed)
    (polls : inLoopThread = true → client.next = .poll) :
    Takes client (.leave call inLoopThread) (client.leave call inLoopThread)
  | handleEvent (pollOut pollErr soError selfConnect : Bool) (polls : client.next = .poll)
    (polled : client.connector.channel.any (·.2.polled) = true) :
    Takes client (.handleEvent pollOut pollErr soError selfConnect)
      (client.handleEvent pollOut pollErr soError selfConnect)
  | doPendingFunctor {task : ConnectorTask} {rest : List ConnectorTask}
    (next : client.connector.pendingFunctors = task :: rest) (polls : client.next = .poll) :
    Takes client .doPendingFunctor (({ client with connector.pendingFunctors := rest } : TcpClient).run task)
  | closed {sockfd : Nat} (polls : client.next = .poll) (absent : .resetChannel ∉ client.connector.pendingFunctors)
    (isConnection : client.connection = some sockfd) : Takes client .closed (client.removeConnection sockfd)
  | goOn (errno : ConnectErrno) (goes : client.next ≠ .poll) : Takes client (.goOn errno) (client.goOn errno)

section
variable {client after : TcpClient} {label : Label}

theorem step_cases (taken : client.step label = some after) : client.failed = none ∧ client.Takes label after := by
  unfold step at taken
  split at taken
  · cases taken
  · next running =>
    refine ⟨by simpa using running, ?_⟩
    cases label with
    | enter call =>
      cases taken
      exact .enter call
    | pass call =>
      simp only [Option.ite_none_right_eq_some, Option.some.injEq] at taken
      obtain ⟨entered, rfl⟩ := taken
      exact .pass call entered
    | leave call inLoopThread =>
      simp only [Option.ite_none_right_eq_some, Option.some.injEq] at taken
      obtain ⟨⟨passed, polls⟩, rfl⟩ := taken
      exact .leave call inLoopThread passed polls
    | handleEvent pollOut pollErr soError selfConnect =>
      simp only [Option.ite_none_right_eq_some, Option.some.injEq] at taken
      obtain ⟨⟨polls, polled⟩, rfl⟩ := taken
      exact .handleEvent pollOut pollErr soError selfConnect polls polled
    | doPendingFunctor =>
      simp only at taken
      split at taken
      · cases taken
      · next next =>
        simp only [Option.ite_none_right_eq_some, Option.some.injEq] at taken
        obtain ⟨polls, rfl⟩ := taken
        exact .doPendingFunctor next polls
    | closed =>
      simp only [Option.ite_none_right_eq_some, Option.map_eq_some_iff] at taken
      obtain ⟨⟨polls, absent⟩, sockfd, isConnection, rfl⟩ := taken
      exact .closed polls absent isConnection
    | goOn errno =>
      simp only [Option.ite_none_left_eq_some, Option.some.injEq] at taken
      obtain ⟨goes, rfl⟩ := taken
      exact .goOn errno goes

/-- A connector that differs in its flag and its queue only. -/
theorem Kept.withConnector (kept : client.Kept) {connector : Connector} (sound : connector.Sound client.handed)
    (state : connector.state = client.connector.state) (channel : connector.channel = client.connector.channel)
    (absent : .resetChannel ∉ client.connector.pendingFunctors → .resetChannel ∉ connector.pendingFunctors) :
    ({ client with connector } : TcpClient).Kept := by
  refine ⟨sound, fun sockfd isConnection => ?_, ?_⟩
  · rw [state]
    exact kept.current sockfd isConnection
  · have facts := kept.facts
    show Facts { client with connector } client.next
    cases next : client.next with
    | poll => trivial
    | connect =>
      rw [next] at facts
      exact state.trans facts
    | newConnection sockfd pollErr =>
      rw [next] at facts
      exact ⟨facts.1, state.trans facts.2.1, facts.2.2⟩
    | restart =>
      rw [next] at facts
      exact ⟨facts.1, state.trans facts.2.1, channel.trans facts.2.2.1, absent facts.2.2.2⟩
    | startInLoop =>
      rw [next] at facts
      exact ⟨facts.1, state.trans facts.2.1, channel.trans facts.2.2⟩

theorem Kept.queueInLoop (kept : client.Kept) {task : ConnectorTask} (other : task ≠ .resetChannel) :
    ({ client with connector := client.connector.queueInLoop task } : TcpClient).Kept :=
  kept.withConnector (kept.sound.queueInLoop other) rfl rfl fun absent mem => by
    obtain old | new := List.mem_append.mp mem
    · exact absent old
    · exact other (List.mem_singleton.mp new).symm

/-- A connection is there only while the state says so, and no step but its end takes it away. -/
theorem Kept.settle (kept : client.Kept) (polls : client.next = .poll) {result : Except ClientFailure Connector}
    (sound : ∀ connector, result = .ok connector → connector.Sound client.handed)
    (still : client.connector.state = .connected → ∀ connector, result = .ok connector →
      connector.state = .connected) : (client.settle result).Kept := by
  cases result with
  | error => exact ⟨kept.sound, kept.current, kept.facts⟩
  | ok connector =>
    refine ⟨sound connector rfl, fun sockfd isConnection => ?_, ?_⟩
    · obtain ⟨connected, last⟩ := kept.current sockfd isConnection
      exact ⟨still connected connector rfl, last⟩
    · show Facts _ client.next
      rw [polls]
      trivial

theorem settle_failed {result : Except ClientFailure Connector} (fine : client.failed = none) :
    (client.settle result).failed.isSome = true ↔ ∃ failure, result = .error failure := by
  cases result <;> simp [TcpClient.settle, fine]

/-- The test of a start makes nothing, and it fails where the state is another. -/
theorem Kept.startInLoop (kept : client.Kept) (fine : client.failed = none) : client.startInLoop.Kept ∧
    (client.startInLoop.failed.isSome = true ↔ client.connector.state ≠ .disconnected) := by
  rw [← Connector.startInLoop_error_iff]
  unfold TcpClient.startInLoop
  cases tested : client.connector.startInLoop with
  | error failure => exact ⟨⟨kept.sound, kept.current, kept.facts⟩, by simp⟩
  | ok asked =>
    refine ⟨⟨kept.sound, kept.current, ?_⟩, by simp [fine]⟩
    cases asked with
    | true => exact (Connector.startInLoop_ok tested).1
    | false => trivial

theorem Kept.handleError (kept : client.Kept) (polls : client.next = .poll) (pollErr : Bool) :
    (client.handleError pollErr).Kept ∧ (client.handleError pollErr).failed = client.failed := by
  unfold TcpClient.handleError
  split
  · obtain ⟨connector, handled, sound⟩ := kept.sound.handleError
    refine ⟨kept.settle polls (fun other isOther => ?_) (fun connected other isOther => ?_), ?_⟩
    · cases handled.symm.trans isOther
      exact sound
    · -- it does nothing while there is a connection
      rw [Connector.handleError, if_neg (by rw [connected]; decide)] at isOther
      cases isOther
      exact connected
    · rw [handled]
      rfl
  · exact ⟨kept, rfl⟩

theorem Kept.handleEvent (kept : client.Kept) (polls : client.next = .poll)
    (polled : client.connector.channel.any (·.2.polled) = true) (pollOut pollErr soError selfConnect : Bool) :
    (client.handleEvent pollOut pollErr soError selfConnect).Kept ∧
      (client.handleEvent pollOut pollErr soError selfConnect).failed = client.failed := by
  have connecting := kept.sound.connecting_of_polled polled
  have nobody (sockfd : Nat) : client.connection ≠ some sockfd := fun there => by
    have connected := (kept.current sockfd there).1
    rw [connecting] at connected
    cases connected
  unfold TcpClient.handleEvent
  split
  · obtain ⟨given, connector, handled, sound, -, handsOver⟩ := kept.sound.handleWrite connecting soError selfConnect
    rw [handled]
    cases given with
    | none =>
      rw [Option.toList_none, List.append_nil] at sound
      have written : ({ client with connector } : TcpClient).Kept := by
        refine ⟨sound, fun sockfd isConnection => absurd isConnection (nobody sockfd), ?_⟩
        show Facts _ client.next
        rw [polls]
        trivial
      exact written.handleError polls pollErr
    | some sockfd =>
      exact ⟨⟨sound, fun other isConnection => absurd isConnection (nobody other),
        Option.eq_none_iff_forall_ne_some.mpr nobody, (handsOver rfl).2, List.getLast?_concat⟩, rfl⟩
  · exact kept.handleError polls pollErr

/-- A functor keeps the accounts, and it fails exactly if it is a start that finds another state. -/
theorem Kept.run (kept : client.Kept) (fine : client.failed = none) (polls : client.next = .poll)
    {task : ConnectorTask} {rest : List ConnectorTask} (next : client.connector.pendingFunctors = task :: rest) :
    let done := ({ client with connector.pendingFunctors := rest } : TcpClient).run task
    done.Kept ∧
      (done.failed.isSome = true ↔ task = .startInLoop ∧ client.connector.state ≠ .disconnected) := by
  have fewer : .resetChannel ∉ client.connector.pendingFunctors → .resetChannel ∉ rest := fun absent mem =>
    absent (by rw [next]; exact List.mem_cons_of_mem _ mem)
  have popped (other : task ≠ .resetChannel) :
      ({ client with connector.pendingFunctors := rest } : TcpClient).Kept := by
    refine kept.withConnector (kept.sound.withQueue ?_) rfl rfl fewer
    rw [next, List.count_cons, beq_false_of_ne other]
    rfl
  cases task with
  | startInLoop =>
    obtain ⟨tested, fails⟩ := (popped (by decide)).startInLoop fine
    exact ⟨tested, fails.trans (by simp)⟩
  | stopInLoop =>
    obtain ⟨connector, stopped, sound⟩ := (popped (by decide)).sound.stopInLoop
    refine ⟨(popped (by decide)).settle polls (fun other isOther => ?_) (fun connected other isOther => ?_), ?_⟩
    · cases stopped.symm.trans isOther
      exact sound
    · rw [Connector.stopInLoop, if_neg (by rw [connected]; decide)] at isOther
      cases isOther
      exact connected
    · rw [TcpClient.run, stopped]
      simp [TcpClient.settle, fine]
  | resetChannel =>
    obtain ⟨connector, reset, sound⟩ := kept.sound.resetChannel next
    have still : client.connector.state = .connected → connector.state = .connected := by
      intro connected
      unfold Connector.resetChannel at reset
      split at reset
      · split at reset <;> cases reset
        exact connected
      · cases reset
        exact connected
    have done : (client.settle (.ok connector)).Kept :=
      kept.settle polls (fun other isOther => Except.ok.inj isOther ▸ sound) fun connected other isOther =>
        Except.ok.inj isOther ▸ still connected
    rw [TcpClient.run, reset]
    exact ⟨done, by simp [TcpClient.settle, fine]⟩

/-- The end of a connection, as far as the test. -/
theorem Kept.removeConnection (kept : client.Kept) (fine : client.failed = none) {sockfd : Nat}
    (isConnection : client.connection = some sockfd) (absent : .resetChannel ∉ client.connector.pendingFunctors) :
    (client.removeConnection sockfd).Kept ∧ (client.removeConnection sockfd).failed = none := by
  have connected := (kept.current sockfd isConnection).1
  have channel : client.connector.channel = none := by
    cases kept.sound.holds with
    | idle _ channel => exact channel
    | watching _ state =>
      rw [connected] at state
      cases state
    | leaving _ _ _ once =>
      rw [List.count_eq_zero.mpr absent] at once
      cases once
  rw [TcpClient.removeConnection, if_pos isConnection]
  refine ⟨⟨kept.sound, nofun, ?_⟩, fine⟩
  show Facts _ (if client.retry && client.connect then .restart else .poll)
  split
  · exact ⟨rfl, connected, channel, absent⟩
  · trivial

/-- What follows a test keeps the accounts, and it fails exactly if it is an attempt that clashes. -/
theorem Kept.goOn (kept : client.Kept) (fine : client.failed = none) (errno : ConnectErrno) :
    (client.goOn errno).Kept ∧
      ((client.goOn errno).failed.isSome = true ↔ client.next = .connect ∧ client.connector.Clashes errno) := by
  have facts := kept.facts
  unfold TcpClient.goOn
  cases next : client.next with
  | poll => exact ⟨kept, by simp [fine]⟩
  | connect =>
    rw [next] at facts
    have polls : ({ client with next := .poll } : TcpClient).Kept := ⟨kept.sound, kept.current, trivial⟩
    refine ⟨polls.settle rfl (fun connector made => kept.sound.connectSocket facts made)
      (fun connected connector made => ?_), ?_⟩
    · rw [show client.connector.state = .disconnected from facts] at connected
      cases connected
    · have fails := @settle_failed { client with next := .poll } (client.connector.connectSocket errno) fine
      exact fails.trans (Connector.connectSocket_error_iff.trans (by simp))
  | newConnection sockfd pollErr =>
    rw [next] at facts
    obtain ⟨-, connected, last⟩ := facts
    have made : ({ client with connection := some sockfd, next := .poll } : TcpClient).Kept :=
      ⟨kept.sound, fun other isConnection => by cases isConnection; exact ⟨connected, last⟩, trivial⟩
    obtain ⟨handled, same⟩ := made.handleError rfl pollErr
    have done : (client.newConnection sockfd pollErr).failed = none := same.trans fine
    exact ⟨handled, by simp [done]⟩
  | restart =>
    rw [next] at facts
    obtain ⟨nobody, connected, channel, absent⟩ := facts
    refine ⟨⟨kept.sound.restart (by rw [connected]; decide) channel absent, fun sockfd isConnection => ?_,
      nobody, rfl, channel⟩, by simp [fine]⟩
    cases nobody.symm.trans isConnection
  | startInLoop =>
    rw [next] at facts
    obtain ⟨tested, fails⟩ := kept.startInLoop fine
    exact ⟨tested, fails.trans (by simp [facts.2.1])⟩

/-- Every step keeps the accounts, and fails exactly if it runs a start that clashes. -/
theorem Kept.next (kept : client.Kept) (taken : client.step label = some after) :
    client.failed = none ∧ after.Kept ∧ (after.failed.isSome = true ↔ client.Clashes label) := by
  obtain ⟨fine, taken⟩ := step_cases taken
  refine ⟨fine, ?_⟩
  cases taken with
  | enter call =>
    have same (connect retry : Bool) (entered : List ClientCall) :
        ({ client with connect, retry, entered } : TcpClient).Kept := ⟨kept.sound, kept.current, kept.facts⟩
    cases call <;> exact ⟨same _ _ _, by simp [enter, fine, Clashes]⟩
  | pass call entered =>
    have flagged (connect : Bool) : ({ client with connector.connect := connect } : TcpClient).Kept :=
      kept.withConnector (kept.sound.withConnect connect) rfl rfl id
    have behind (connect : Bool) (entered passed : List ClientCall) :
        ({ client with connector.connect := connect, entered, passed } : TcpClient).Kept :=
      ⟨(flagged connect).sound, (flagged connect).current, (flagged connect).facts⟩
    cases call <;> exact ⟨behind _ _ _, by simp [pass, fine, Clashes]⟩
  | leave call inLoopThread passed polls =>
    have behind : ({ client with passed := client.passed.erase call } : TcpClient).Kept :=
      ⟨kept.sound, kept.current, kept.facts⟩
    cases call with
    | connect =>
      cases inLoopThread with
      | true => exact behind.startInLoop fine
      | false => exact ⟨behind.queueInLoop (by decide), by simp [leave, fine, Clashes]⟩
    | stop => exact ⟨behind.queueInLoop (by decide), by simp [leave, fine, Clashes]⟩
    | disconnect | enableRetry => exact ⟨behind, by simp [leave, fine, Clashes]⟩
  | handleEvent pollOut pollErr soError selfConnect polls polled =>
    obtain ⟨after, same⟩ := kept.handleEvent polls polled pollOut pollErr soError selfConnect
    exact ⟨after, by simp [same, fine, Clashes]⟩
  | doPendingFunctor next polls =>
    obtain ⟨after, failed⟩ := kept.run fine polls next
    exact ⟨after, failed.trans (by simp [Clashes, next])⟩
  | closed polls absent isConnection =>
    obtain ⟨after, same⟩ := kept.removeConnection fine isConnection absent
    exact ⟨after, by simp [same, Clashes]⟩
  | goOn errno goes => exact kept.goOn fine errno

theorem kept_of_run {allowed : TcpClient → Label → Prop} (run : Reaches step allowed initial client) : client.Kept :=
  run.invariant Kept initial_kept fun _ _ _ kept _ taken => (kept.next taken).2.1

/-- Whatever is called and whatever happens, every descriptor that has been made was closed by the connector, was handed
to a connection or is waited for, and only one of these, once; and while there is a connection, it is the last that was
made and no other is tried for. -/
theorem descriptors_accounted (run : Reaches step (fun _ _ => True) initial client) :
    let connector := client.connector
    (connector.closed ++ client.handed ++ connector.watched.toList).Nodup ∧
    (∀ sockfd, sockfd ∈ connector.closed ++ client.handed ++ connector.watched.toList ↔ sockfd < connector.created) ∧
    (connector.watched.isSome = true ↔ connector.state = .connecting) ∧
    ∀ sockfd, client.connection = some sockfd → client.handed.getLast? = some sockfd ∧ connector.watched = none := by
  have kept := kept_of_run run
  have owned := kept.sound.owned
  refine ⟨owned.nodup_iff.mpr List.nodup_range, fun sockfd => owned.mem_iff.trans List.mem_range, ?_, ?_⟩
  · constructor
    · intro waited
      by_contra idle
      rw [Connector.watched_of_ne idle] at waited
      cases waited
    · intro connecting
      obtain ⟨sockfd, -, watched, -⟩ := kept.sound.watching connecting
      rw [watched]
      rfl
  · intro sockfd isConnection
    obtain ⟨connected, last⟩ := kept.current sockfd isConnection
    exact ⟨last, Connector.watched_of_ne (by rw [connected]; decide)⟩

/-- A connection that comes up, ends and is tried for again. -/
def retriedLabels : List Label :=
  [.enter .enableRetry, .enter .connect, .pass .connect, .leave .connect true, .goOn .eInProgress,
    .handleEvent true false false false, .goOn .none, .doPendingFunctor, .closed, .goOn .none, .goOn .none,
    .goOn .eInProgress]

theorem follow_retriedLabels : ∃ client, follow step initial retriedLabels = some client ∧
    client.handed = [0] ∧ client.connector.watched = some 1 ∧ client.connector.created = 2 := by
  have ran : (follow step initial retriedLabels).any (fun client =>
      client.handed = [0] ∧ client.connector.watched = some 1 ∧ client.connector.created = 2) = true := by
    decide +kernel
  obtain ⟨client, run, fields⟩ := (Option.any_eq_true _ _).mp ran
  exact ⟨client, run, of_decide_eq_true fields⟩

theorem descriptors_accounted_retried : ∃ client, follow step initial retriedLabels = some client ∧
    (∀ sockfd, sockfd ∈ client.connector.closed ++ [0] ++ [1] ↔ sockfd < 2) ∧
    (client.connector.closed ++ [0] ++ [1]).Nodup := by
  obtain ⟨client, run, handed, watched, created⟩ := follow_retriedLabels
  obtain ⟨once, all, -, -⟩ := descriptors_accounted (Reaches.of_follow run)
  rw [handed, watched] at once all
  rw [created] at all
  exact ⟨client, run, all, once⟩

end
end TcpClient

end EdgeFlow.Network
