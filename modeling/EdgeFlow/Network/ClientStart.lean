import EdgeFlow.Network.TcpClient

/-! The starts of a `TcpClient`, and the assertions that they fail. -/

set_option autoImplicit false

namespace EdgeFlow.Network
open Library

namespace TcpClient

section
variable {client after : TcpClient} {label : Label}

def Label.isConnect : Label → Bool
  | .enter .connect => true
  | _ => false

/-- The starts that have been asked for and have not run. -/
def starts (client : TcpClient) : Nat :=
  client.entered.count .connect + client.passed.count .connect +
    client.connector.pendingFunctors.count .startInLoop

/-- Nothing has been tried. -/
structure Fresh (client : TcpClient) : Prop where
  state : client.connector.state = .disconnected
  channel : client.connector.channel = none
  connection : client.connection = none
  next : client.next = .poll

/-- There is one start at most, with the calls that are to come, and it finds nothing that was tried before. -/
structure Allows (calls : Nat) (client : TcpClient) : Prop where
  starts : client.starts + calls ≤ 1
  fresh : 0 < client.starts + calls → client.Fresh
  attempt : client.next = .connect → client.connector.channel = none

/-- A step that asks for no start and tries nothing. -/
theorem Allows.still {calls : Nat} (allows : client.Allows calls) (starts : after.starts = client.starts)
    (fresh : client.Fresh → after.Fresh) (attempt : after.next = .connect → after.connector.channel = none) :
    after.Allows calls :=
  ⟨starts ▸ allows.starts, fun asked => fresh (allows.fresh (starts ▸ asked)), attempt⟩

/-- A step that runs a start. -/
theorem Allows.started {calls : Nat} (allows : client.Allows calls) (starts : after.starts + 1 = client.starts)
    (channel : client.connector.channel = none → after.connector.channel = none) : after.Allows calls := by
  have one := allows.starts
  exact ⟨by omega, fun asked => by omega, fun _ => channel (allows.fresh (by omega)).channel⟩

/-- The start that a step runs is the one that was asked for. -/
theorem Allows.not_clashes {calls : Nat} (allows : client.Allows calls) (taken : client.step label = some after) :
    ¬ client.Clashes label := by
  intro clashes
  cases (step_cases taken).2 with
  | leave call inLoopThread passed =>
    cases call with
    | connect =>
      cases inLoopThread with
      | true =>
        have asked : 0 < client.passed.count .connect := List.count_pos_iff.mpr passed
        exact clashes (allows.fresh (by unfold TcpClient.starts; omega)).state
      | false => exact clashes
    | stop | disconnect | enableRetry => exact clashes
  | doPendingFunctor =>
    obtain ⟨first, other⟩ := clashes
    have asked : 0 < client.connector.pendingFunctors.count .startInLoop :=
      List.count_pos_iff.mpr (List.mem_of_mem_head? first)
    exact other (allows.fresh (by unfold TcpClient.starts; omega)).state
  | goOn errno =>
    obtain ⟨next, -, held⟩ := clashes
    rw [allows.attempt next] at held
    cases held
  | enter | pass | handleEvent | closed => exact clashes

/-- A result that neither asks for a start nor takes one away. -/
theorem settle_starts {result : Except ClientFailure Connector} (same : ∀ connector, result = .ok connector →
    connector.pendingFunctors.count .startInLoop = client.connector.pendingFunctors.count .startInLoop) :
    (client.settle result).starts = client.starts := by
  cases result with
  | error => rfl
  | ok connector =>
    exact congrArg (client.entered.count .connect + client.passed.count .connect + ·) (same connector rfl)

theorem handleError_starts (pollErr : Bool) : (client.handleError pollErr).starts = client.starts := by
  unfold TcpClient.handleError
  split
  · exact settle_starts fun connector handled => (Connector.handleError_calm handled).starts
  · rfl

theorem startInLoop_frame : client.startInLoop.starts = client.starts ∧
    client.startInLoop.connector = client.connector := by
  unfold TcpClient.startInLoop
  split <;> exact ⟨rfl, rfl⟩

theorem settle_next (result : Except ClientFailure Connector) : (client.settle result).next = client.next := by
  cases result <;> rfl

theorem handleError_next (pollErr : Bool) : (client.handleError pollErr).next = client.next := by
  unfold TcpClient.handleError
  split
  · exact settle_next _
  · rfl

theorem handleEvent_frame (pollOut pollErr soError selfConnect : Bool) (polls : client.next = .poll) :
    (client.handleEvent pollOut pollErr soError selfConnect).starts = client.starts ∧
      (client.handleEvent pollOut pollErr soError selfConnect).next ≠ .connect := by
  have other : client.next ≠ .connect := by
    rw [polls]
    decide
  unfold TcpClient.handleEvent
  split
  · split
    · next handled =>
      exact ⟨congrArg (client.entered.count .connect + client.passed.count .connect + ·)
        (Connector.handleWrite_calm handled).starts, nofun⟩
    · next connector handled =>
      have same : ({ client with connector } : TcpClient).starts = client.starts :=
        congrArg (client.entered.count .connect + client.passed.count .connect + ·)
          (Connector.handleWrite_calm handled).starts
      exact ⟨(handleError_starts pollErr).trans same, by rw [handleError_next]; exact other⟩
    · exact ⟨rfl, other⟩
  · exact ⟨handleError_starts pollErr, by rw [handleError_next]; exact other⟩

theorem count_erase_connect {calls : List ClientCall} {call : ClientCall} (mem : call ∈ calls) :
    (calls.erase call).count .connect + (if call = .connect then 1 else 0) = calls.count .connect := by
  by_cases same : call = .connect
  · subst same
    rw [if_pos rfl, List.count_erase_self]
    exact Nat.sub_add_cancel (List.count_pos_iff.mpr mem)
  · rw [if_neg same, List.count_erase_of_ne (Ne.symm same), Nat.add_zero]

/-- What follows a test asks for no start, and only `restart` comes to an attempt of its own. -/
theorem Allows.goOn {calls : Nat} (allows : client.Allows calls) (kept : client.Kept) (goes : client.next ≠ .poll)
    (errno : ConnectErrno) : (client.goOn errno).Allows calls := by
  have facts := kept.facts
  have tried (fresh : client.Fresh) : (client.goOn errno).Fresh := absurd fresh.next goes
  unfold TcpClient.goOn at tried ⊢
  cases next : client.next with
  | poll => exact absurd next goes
  | connect =>
    rw [next] at tried
    refine allows.still ?_ tried fun still => ?_
    · exact @settle_starts { client with next := .poll } _ fun connector made => by
        rw [Connector.connectSocket_frame made]
    · cases (settle_next _).symm.trans still
  | newConnection sockfd pollErr =>
    rw [next] at tried
    refine allows.still ?_ tried fun still => ?_
    · exact @handleError_starts { client with connection := some sockfd, next := .poll } pollErr
    · cases (handleError_next pollErr).symm.trans still
  | restart =>
    rw [next] at tried
    exact allows.still rfl tried nofun
  | startInLoop =>
    rw [next] at tried facts
    refine allows.still startInLoop_frame.1 tried fun _ => ?_
    rw [startInLoop_frame.2]
    exact facts.2.2

theorem Allows.run {calls : Nat} (allows : client.Allows calls) (polls : client.next = .poll) {task : ConnectorTask}
    {rest : List ConnectorTask} (next : client.connector.pendingFunctors = task :: rest) :
    (({ client with connector.pendingFunctors := rest } : TcpClient).run task).Allows calls := by
  have others (other : task ≠ .startInLoop) :
      ({ client with connector.pendingFunctors := rest } : TcpClient).starts = client.starts := by
    simp only [TcpClient.starts, next, List.count_cons, beq_false_of_ne other]
    rfl
  have settled (result : Except ClientFailure Connector) :
      (({ client with connector.pendingFunctors := rest } : TcpClient).settle result).next ≠ .connect := by
    rw [settle_next, polls]
    decide
  cases task with
  | startInLoop =>
    have first : ({ client with connector.pendingFunctors := rest } : TcpClient).starts + 1 = client.starts := by
      simp only [TcpClient.starts, next, List.count_cons_self]
      omega
    refine allows.started ?_ fun channel => ?_
    · rw [← first]
      exact congrArg (· + 1) startInLoop_frame.1
    · rw [TcpClient.run, startInLoop_frame.2]
      exact channel
  | stopInLoop =>
    refine allows.still ?_ (fun fresh => ?_) fun still => absurd still (settled _)
    · rw [← others (by decide)]
      exact settle_starts fun connector stopped => (Connector.stopInLoop_calm stopped).starts
    · have idle : ¬ client.connector.state = .connecting := by
        rw [fresh.state]
        decide
      rw [TcpClient.run, Connector.stopInLoop, if_neg idle]
      exact { fresh with }
  | resetChannel =>
    refine allows.still ?_ (fun fresh => ?_) fun still => absurd still (settled _)
    · rw [← others (by decide)]
      exact settle_starts fun connector reset => (Connector.resetChannel_calm reset).starts
    · simp only [TcpClient.run, Connector.resetChannel, fresh.channel]
      exact ⟨fresh.state, rfl, fresh.connection, fresh.next⟩

theorem Allows.enter {calls : Nat} {call : ClientCall}
    (allows : client.Allows (calls + if (Label.enter call).isConnect then 1 else 0)) :
    (client.enter call).Allows calls := by
  cases call with
  | connect =>
    -- the one call
    have same : (client.enter .connect).starts + calls = client.starts + (calls + 1) := by
      simp [TcpClient.starts, TcpClient.enter]
      omega
    exact ⟨same ▸ allows.starts, fun asked => { allows.fresh (same ▸ asked) with }, allows.attempt⟩
  | stop =>
    exact allows.still (by simp [TcpClient.starts, TcpClient.enter]) (fun fresh => { fresh with }) allows.attempt
  | disconnect | enableRetry => exact allows.still rfl (fun fresh => { fresh with }) allows.attempt

theorem Allows.pass {calls : Nat} (allows : client.Allows calls) {call : ClientCall} (entered : call ∈ client.entered) :
    (client.pass call).Allows calls := by
  have erased := count_erase_connect entered
  have moved : (client.pass call).starts = client.starts := by
    cases call with
    | connect =>
      simp [TcpClient.starts, TcpClient.pass] at erased ⊢
      omega
    | stop | disconnect | enableRetry => simp [TcpClient.starts, TcpClient.pass]
  cases call <;> exact allows.still moved (fun fresh => { fresh with }) allows.attempt

theorem Allows.leave {calls : Nat} (allows : client.Allows calls) {call : ClientCall} (passed : call ∈ client.passed)
    (inLoopThread : Bool) : (client.leave call inLoopThread).Allows calls := by
  have erased := count_erase_connect passed
  cases call with
  | connect =>
    have first : TcpClient.starts { client with passed := client.passed.erase .connect } + 1 = client.starts := by
      simp only [TcpClient.starts, ← erased, if_true]
      omega
    cases inLoopThread with
    | true =>
      refine allows.started ?_ fun channel => ?_
      · rw [← first]
        exact congrArg (· + 1) startInLoop_frame.1
      · rw [TcpClient.leave, if_pos rfl, startInLoop_frame.2]
        exact channel
    | false =>
      refine allows.still ?_ (fun fresh => { fresh with }) allows.attempt
      rw [← first]
      simp [TcpClient.starts, TcpClient.leave, Connector.queueInLoop, Nat.add_assoc]
  | stop =>
    refine allows.still ?_ (fun fresh => { fresh with }) allows.attempt
    simp [TcpClient.starts, TcpClient.leave, Connector.queueInLoop]
  | disconnect | enableRetry =>
    refine allows.still ?_ (fun fresh => { fresh with }) allows.attempt
    simp [TcpClient.starts, TcpClient.leave]

theorem Allows.next {calls : Nat} (kept : client.Kept)
    (allows : client.Allows (calls + if label.isConnect then 1 else 0)) (taken : client.step label = some after) :
    after.failed = none ∧ after.Allows calls := by
  have fine : after.failed = none := by
    have fails := (kept.next taken).2.2
    simpa [allows.not_clashes taken] using fails
  refine ⟨fine, ?_⟩
  cases (step_cases taken).2 with
  | enter call => exact allows.enter
  | pass call entered => exact allows.pass entered
  | leave call inLoopThread passed => exact allows.leave passed inLoopThread
  | handleEvent pollOut pollErr soError selfConnect polls polled =>
    obtain ⟨starts, other⟩ := handleEvent_frame pollOut pollErr soError selfConnect polls
    refine allows.still starts (fun fresh => ?_) fun still => absurd still other
    rw [fresh.channel] at polled
    cases polled
  | doPendingFunctor next polls => exact allows.run polls next
  | closed polls absent isConnection =>
    rw [removeConnection, if_pos isConnection]
    refine allows.still rfl (fun fresh => ?_) fun still => ?_
    · rw [fresh.connection] at isConnection
      cases isConnection
    · simp only at still
      split at still <;> cases still
  | goOn errno goes => exact allows.goOn kept goes errno

theorem failed_none_of_allows {labels : List Label} (kept : client.Kept) (fine : client.failed = none)
    (allows : client.Allows (labels.countP Label.isConnect)) (run : follow step client labels = some after) :
    after.failed = none := by
  induction labels generalizing client with
  | nil =>
    cases run
    exact fine
  | cons label labels ih =>
    rw [follow_cons, Option.bind_eq_some_iff] at run
    obtain ⟨middle, taken, rest⟩ := run
    rw [List.countP_cons] at allows
    obtain ⟨fine, allows⟩ := allows.next kept taken
    exact ih (kept.next taken).2.1 fine allows rest

/-- A run fails no assertion exactly if every start that it runs finds the connector disconnected, and every attempt the
channel of the one before gone; and so it is where `connect()` is called once, whatever else is called and happens. -/
theorem no_assertion_fails {labels : List Label} (run : follow step initial labels = some client) :
    (client.failed = none ↔ Throughout step (fun client label => ¬ client.Clashes label) initial labels) ∧
      (labels.countP Label.isConnect ≤ 1 → client.failed = none) := by
  constructor
  · refine (good_iff_throughout Kept (·.failed = none) (fun _ _ _ kept taken => (kept.next taken).2.1)
      (fun now label after kept taken => ?_) initial_kept run).trans (and_iff_right rfl)
    obtain ⟨fine, -, fails⟩ := kept.next taken
    rw [and_iff_right fine, ← fails]
    simp
  · intro once
    refine failed_none_of_allows initial_kept rfl ⟨?_, fun _ => ⟨rfl, rfl, rfl, rfl⟩, nofun⟩ run
    exact Nat.le_trans (Nat.le_of_eq (Nat.zero_add _)) once

theorem no_assertion_fails_retried : ∃ client, follow step initial retriedLabels = some client ∧
    client.failed = none := by
  obtain ⟨client, run, -, -, -⟩ := follow_retriedLabels
  exact ⟨client, run, (no_assertion_fails run).2 (by decide)⟩

/-- A second `connect()` while the first is under way fails the assertion of `startInLoop`. -/
example : (follow step initial
    [.enter .connect, .pass .connect, .leave .connect true, .goOn .eInProgress, .enter .connect, .pass .connect,
      .leave .connect true]).map (·.failed) = some (some .startInLoop) := by
  decide +kernel

/-- So does one behind a `stop()`, where the channel is still there, in `connecting`. -/
example : (follow step initial
    [.enter .connect, .pass .connect, .leave .connect true, .goOn .eInProgress, .enter .stop, .pass .stop,
      .leave .stop true, .enter .connect, .pass .connect, .leave .connect false, .doPendingFunctor, .doPendingFunctor,
      .goOn .eInProgress]).map (·.failed) = some (some .connecting) := by
  decide +kernel

end
end TcpClient

end EdgeFlow.Network
