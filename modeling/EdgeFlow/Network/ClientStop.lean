import EdgeFlow.Network.TcpClient

/-! A `TcpClient` that has been stopped. -/

set_option autoImplicit false

namespace EdgeFlow.Network
open Library

namespace TcpClient

section
variable {client after : TcpClient} {label : Label}

theorem settle_cases (result : Except ClientFailure Connector) :
    (∃ failure, client.settle result = { client with failed := some failure }) ∨
      ∃ connector, result = .ok connector ∧ client.settle result = { client with connector } := by
  cases result with
  | error failure => exact .inl ⟨failure, rfl⟩
  | ok connector => exact .inr ⟨connector, rfl, rfl⟩

/-- Nobody wants a connection, and nothing has been decided that goes for one; so much has been made. -/
structure Stopped (created : Nat) (handed : List Nat) (connection : Option Nat) (client : TcpClient) : Prop where
  connect : client.connect = false
  connector : client.connector.connect = false
  entered : .connect ∉ client.entered
  next : client.next = .poll ∨ client.next = .startInLoop
  created : client.connector.created = created
  handed : client.handed = handed
  connection : client.connection = none ∨ client.connection = connection

section
variable {created : Nat} {handed : List Nat} {connection : Option Nat}

/-- A result that leaves the flag and the count alone. -/
theorem Stopped.settle (stopped : client.Stopped created handed connection) {result : Except ClientFailure Connector}
    (calm : ∀ connector, result = .ok connector → client.connector.Calm connector) :
    (client.settle result).Stopped created handed connection := by
  obtain ⟨failure, same⟩ | ⟨connector, done, same⟩ := @settle_cases client result
  · rw [same]
    exact { stopped with }
  · rw [same]
    exact { stopped with
      connector := (calm connector done).connect.trans stopped.connector
      created := (calm connector done).created.trans stopped.created }

/-- A start that is not asked for. -/
theorem Stopped.startInLoop (stopped : client.Stopped created handed connection) :
    client.startInLoop.Stopped created handed connection := by
  unfold TcpClient.startInLoop
  cases tested : client.connector.startInLoop with
  | error failure => exact { stopped with }
  | ok asked =>
    obtain ⟨-, rfl⟩ := Connector.startInLoop_ok tested
    rw [stopped.connector]
    exact { stopped with next := .inl rfl }

theorem Stopped.handleError (stopped : client.Stopped created handed connection) (pollErr : Bool) :
    (client.handleError pollErr).Stopped created handed connection := by
  unfold TcpClient.handleError
  split
  · exact stopped.settle fun _ handled => Connector.handleError_calm handled
  · exact stopped

/-- What is written to is closed. -/
theorem Stopped.handleEvent (stopped : client.Stopped created handed connection) (kept : client.Kept)
    (polled : client.connector.channel.any (·.2.polled) = true) (pollOut pollErr soError selfConnect : Bool) :
    (client.handleEvent pollOut pollErr soError selfConnect).Stopped created handed connection := by
  unfold TcpClient.handleEvent
  split
  · obtain ⟨given, connector, handled, -, -, handsOver⟩ :=
      kept.sound.handleWrite (kept.sound.connecting_of_polled polled) soError selfConnect
    have calm := Connector.handleWrite_calm handled
    rw [handled]
    cases given with
    | some sockfd => cases stopped.connector.symm.trans (handsOver rfl).1
    | none =>
      have written : ({ client with connector } : TcpClient).Stopped created handed connection :=
        { stopped with
          connector := calm.connect.trans stopped.connector
          created := calm.created.trans stopped.created }
      exact written.handleError pollErr
  · exact stopped.handleError pollErr

theorem Stopped.run (stopped : client.Stopped created handed connection) (task : ConnectorTask) :
    (client.run task).Stopped created handed connection := by
  cases task with
  | startInLoop => exact stopped.startInLoop
  | stopInLoop => exact stopped.settle fun _ ran => Connector.stopInLoop_calm ran
  | resetChannel => exact stopped.settle fun _ ran => Connector.resetChannel_calm ran

theorem Stopped.step (stopped : client.Stopped created handed connection) (kept : client.Kept)
    (notConnect : label ≠ .enter .connect) (taken : client.step label = some after) :
    after.Stopped created handed connection := by
  cases (step_cases taken).2 with
  | enter call =>
    cases call with
    | connect => exact absurd rfl notConnect
    | stop =>
      exact { stopped with
        connect := rfl
        entered := fun mem => (List.mem_cons.mp mem).elim nofun stopped.entered }
    | disconnect => exact { stopped with connect := rfl }
    | enableRetry => exact { stopped with }
  | pass call mem =>
    have erased : .connect ∉ client.entered.erase call := fun still => stopped.entered (List.mem_of_mem_erase still)
    cases call with
    | connect => exact absurd mem stopped.entered
    | stop =>
      exact { stopped with
        connector := rfl
        entered := erased }
    | disconnect | enableRetry => exact { stopped with entered := erased }
  | leave call inLoopThread =>
    have behind : Stopped created handed connection { client with passed := client.passed.erase call } :=
      { stopped with }
    cases call with
    | connect =>
      -- a call that was made before
      cases inLoopThread with
      | true => exact behind.startInLoop
      | false => exact { behind with }
    | stop => exact { behind with }
    | disconnect | enableRetry => exact behind
  | handleEvent pollOut pollErr soError selfConnect polls polled =>
    exact stopped.handleEvent kept polled pollOut pollErr soError selfConnect
  | @doPendingFunctor task rest =>
    have popped : Stopped created handed connection { client with connector.pendingFunctors := rest } :=
      { stopped with }
    exact popped.run task
  | closed polls absent isConnection =>
    rw [removeConnection, if_pos isConnection, stopped.connect, Bool.and_false]
    exact { stopped with
      connect := rfl
      next := .inl rfl
      connection := .inl rfl }
  | goOn errno goes =>
    have starts : client.next = .startInLoop := stopped.next.resolve_left goes
    rw [TcpClient.goOn, starts]
    exact stopped.startInLoop

end

/-- Once both flags are cleared no socket is made and no connection until `connect()` is called again, whatever is
queued or on its way, unless a call of `connect()` is between the two flags, or the loop has tested one and has yet to
do what follows. -/
theorem stopped_until_connect (run : Reaches step (fun _ _ => True) initial client) (stops : client.connect = false)
    (stopped : client.connector.connect = false) (whole : .connect ∉ client.entered)
    (undecided : client.next = .poll ∨ client.next = .startInLoop)
    (later : Reaches step (fun _ label => label ≠ .enter .connect) client after) :
    after.connector.created = client.connector.created ∧ after.handed = client.handed ∧
      (after.connection = none ∨ after.connection = client.connection) := by
  have both := later.invariant
    (fun now => now.Kept ∧ now.Stopped client.connector.created client.handed client.connection)
    ⟨kept_of_run run, stops, stopped, whole, undecided, rfl, rfl, .inr rfl⟩
    fun _ _ _ both notConnect taken => ⟨(both.1.next taken).2.1, both.2.step both.1 notConnect taken⟩
  exact ⟨both.2.created, both.2.handed, both.2.connection⟩

/-- `stop()` while the connection is being made, which is up before the loop hears of it. -/
def stoppedLabels : List Label :=
  [.enter .connect, .pass .connect, .leave .connect true, .goOn .eInProgress, .enter .stop, .pass .stop]

theorem stopped_until_connect_late : ∃ client after, follow step initial stoppedLabels = some client ∧
    follow step client [.handleEvent true false false false, .leave .stop false] = some after ∧
    after.connector.created = 1 ∧ after.handed = [] := by
  have ran : (follow step initial stoppedLabels).any (fun client =>
      client.connect = false ∧ client.connector.connect = false ∧ client.connector.created = 1 ∧ client.handed = [] ∧
        client.entered = [] ∧ client.next = .poll ∧
        (follow step client [.handleEvent true false false false, .leave .stop false]).isSome) = true := by
    decide +kernel
  obtain ⟨client, run, fields⟩ := (Option.any_eq_true _ _).mp ran
  obtain ⟨stops, stopped, created, handed, entered, next, goesOn⟩ := of_decide_eq_true fields
  obtain ⟨after, later⟩ := Option.isSome_iff_exists.mp goesOn
  obtain ⟨middle, written, left⟩ : ∃ middle, client.step (.handleEvent true false false false) = some middle ∧
      middle.step (.leave .stop false) = some after := by
    simpa [Option.bind_eq_some_iff] using later
  have first : Reaches step (fun _ label => label ≠ .enter .connect) client middle :=
    Reaches.start.next Label.noConfusion written
  have kept := stopped_until_connect (Reaches.of_follow run) stops stopped (by rw [entered]; exact List.not_mem_nil)
    (.inl next) (first.next Label.noConfusion left)
  exact ⟨client, after, run, later, kept.1.trans created, kept.2.1.trans handed⟩

/-- `stop()` comes when the end of a connection has tested the flags: another socket is made behind it. -/
example : (follow step initial
    [.enter .enableRetry, .enter .connect, .pass .connect, .leave .connect true, .goOn .eInProgress,
      .handleEvent true false false false, .goOn .none, .doPendingFunctor, .closed, .enter .stop, .pass .stop,
      .goOn .none, .goOn .none, .goOn .eInProgress]).map (fun client => (client.connect, client.connector.created)) =
      some (false, 2) := by
  decide +kernel

end
end TcpClient

end EdgeFlow.Network
