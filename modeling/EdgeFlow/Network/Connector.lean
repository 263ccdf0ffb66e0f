import EdgeFlow.Library.Except
import EdgeFlow.Network.TcpConnection
import Mathlib.Data.List.Perm.Basic
import Mathlib.Data.List.Range

/-! `Connector`: the socket that waits to be connected, and its channel.

A descriptor is known by its place in the order in which the connector makes them.
-/

set_option autoImplicit false

namespace EdgeFlow.Network
open Library

/-- `errno` behind `sockets::connect`; `none` where it returns 0. -/
inductive ConnectErrno where
  | none
  | eInProgress
  | eIntr
  | eIsConn
  | eAgain
  | eAddrInUse
  | eAddrNotAvail
  | eConnRefused
  | eNetUnreach
  | eAcces
  | ePerm
  | eAfNoSupport
  | eAlready
  | eBadF
  | eFault
  | eNotSock
  | other
  deriving DecidableEq

/-- What becomes of the socket. -/
inductive ConnectCase where
  | connecting
  | retry
  | close
  deriving DecidableEq

/-- The `switch` of `connect` -/
def ConnectErrno.case : ConnectErrno → ConnectCase
  | none | eInProgress | eIntr | eIsConn => .connecting
  | eAgain | eAddrInUse | eAddrNotAvail | eConnRefused | eNetUnreach => .retry
  | eAcces | ePerm | eAfNoSupport | eAlready | eBadF | eFault | eNotSock | other => .close

/-- `States` -/
inductive ConnectorState where
  | disconnected
  | connecting
  | connected
  deriving DecidableEq

/-- What a connector queues for its loop. -/
inductive ConnectorTask where
  | startInLoop
  | stopInLoop
  | resetChannel
  deriving DecidableEq

inductive ClientFailure where
  /-- `state_ == kDisconnected` in `startInLoop` -/
  | startInLoop
  /-- `!channel_` in `connecting` -/
  | connecting
  /-- `state_ == kDisconnected` at the end of `handleWrite` -/
  | handleWrite
  /-- `channel_` is null where it is followed -/
  | nullChannel
  /-- of `Channel` and `Poller` -/
  | channel (failure : Failure)
  /-- `connection_ == conn` in `TcpClient::removeConnection` -/
  | removeConnection
  deriving DecidableEq

structure Connector where
  connect : Bool
  state : ConnectorState
  /-- `channel_`, with its descriptor -/
  channel : Option (Nat × Channel)
  pendingFunctors : List ConnectorTask
  /-- how many sockets have been made -/
  created : Nat
  /-- the descriptors that have been closed -/
  closed : List Nat

namespace Connector

def initial : Connector := ⟨false, .disconnected, none, [], 0, []⟩

variable (c : Connector)

def queueInLoop (task : ConnectorTask) : Connector := { c with pendingFunctors := c.pendingFunctors ++ [task] }

def close (sockfd : Nat) : Connector := { c with closed := c.closed ++ [sockfd] }

/-- The timer behind it is commented out, so nothing is tried again. -/
def retry (sockfd : Nat) : Connector := { c.close sockfd with state := .disconnected }

/-- The channel stays, as it may be the one whose event is handled. -/
def removeAndResetChannel : Except ClientFailure (Nat × Connector) :=
  match c.channel with
  | none => .error .nullChannel
  | some (sockfd, channel) => do
    let channel ← (channel.disableAll >>= Channel.remove).mapError .channel
    .ok (sockfd, { c with channel := some (sockfd, channel) }.queueInLoop .resetChannel)

/-- `~Channel` asks whether it was removed. -/
def resetChannel : Except ClientFailure Connector :=
  match c.channel with
  | some (_, channel) =>
    if channel.addedToLoop then .error (.channel .destructor) else .ok { c with channel := none }
  | none => .ok c

def connecting (sockfd : Nat) : Except ClientFailure Connector :=
  if c.channel.isSome then .error .connecting
  else do
    let channel ← Channel.created.enableWriting.mapError .channel
    .ok { c with state := .connecting, channel := some (sockfd, channel) }

/-- `connect` -/
def connectSocket (errno : ConnectErrno) : Except ClientFailure Connector :=
  let sockfd := c.created
  let c := { c with created := c.created + 1 }
  match errno.case with
  | .connecting => c.connecting sockfd
  | .retry => .ok (c.retry sockfd)
  | .close => .ok (c.close sockfd)

/-- `startInLoop` as far as its test, which says whether to `connect`. -/
def startInLoop : Except ClientFailure Bool := if c.state = .disconnected then .ok c.connect else .error .startInLoop

def stopInLoop : Except ClientFailure Connector :=
  if c.state = .connecting then do
    let (sockfd, c) ← { c with state := .disconnected }.removeAndResetChannel
    .ok (c.retry sockfd)
  else .ok c

/-- `restart` as far as `startInLoop` -/
def restart : Connector := { c with state := .disconnected, connect := true }

/-- The descriptor is what the new connection is made of; `soError` and `selfConnect` are what the socket says. -/
def handleWrite (soError selfConnect : Bool) : Except ClientFailure (Option Nat × Connector) :=
  if c.state = .connecting then do
    let (sockfd, c) ← c.removeAndResetChannel
    if soError || selfConnect then .ok (none, c.retry sockfd)
    else
      let c := { c with state := .connected }
      if c.connect then .ok (some sockfd, c) else .ok (none, c.close sockfd)
  else if c.state = .disconnected then .ok (none, c)
  else .error .handleWrite

def handleError : Except ClientFailure Connector :=
  if c.state = .connecting then do
    let (sockfd, c) ← c.removeAndResetChannel
    .ok (c.retry sockfd)
  else .ok c

end Connector

/-! ## The channel of a connector -/

/-- Added to the loop, and waited for until it can be written to. -/
def Channel.watching : Channel := ⟨false, true, .added, true, true, true⟩

theorem Channel.enableWriting_created : Channel.created.enableWriting = .ok .watching := rfl

theorem Channel.remove_watching : (Channel.watching.disableAll >>= Channel.remove) = .ok .created := by decide +kernel

namespace Connector

/-- The descriptor whose channel waits. -/
def watched (c : Connector) : Option Nat := if c.state = .connecting then c.channel.map (·.1) else none

/-- There is a channel that waits just while the state says so; one that has been removed is about to be reset. -/
inductive Holds (c : Connector) : Prop where
  | idle : c.state ≠ .connecting → c.channel = none → .resetChannel ∉ c.pendingFunctors → Holds c
  | watching (sockfd : Nat) : c.state = .connecting → c.channel = some (sockfd, .watching) →
      .resetChannel ∉ c.pendingFunctors → Holds c
  | leaving (sockfd : Nat) : c.state ≠ .connecting → c.channel = some (sockfd, .created) →
      c.pendingFunctors.count .resetChannel = 1 → Holds c

/-- Every descriptor is closed, handed over or waited for, and only one of these. -/
structure Sound (handed : List Nat) (c : Connector) : Prop where
  holds : c.Holds
  owned : (c.closed ++ handed ++ c.watched.toList).Perm (List.range c.created)

/-- An attempt that meets the channel of the one before. -/
def Clashes (c : Connector) (errno : ConnectErrno) : Prop := errno.case = .connecting ∧ c.channel.isSome = true

section
variable {c after : Connector} {handed : List Nat} {errno : ConnectErrno}

theorem watched_of_ne (notConnecting : c.state ≠ .connecting) : c.watched = none := if_neg notConnecting

theorem initial_sound : initial.Sound [] where
  holds := .idle (by decide) rfl (by decide)
  owned := .refl _

theorem closed_perm (closed handed : List Nat) (sockfd : Nat) :
    (closed ++ [sockfd] ++ handed).Perm (closed ++ handed ++ [sockfd]) := by
  rw [List.append_assoc, List.append_assoc]
  exact List.perm_append_comm.append_left closed

/-- A new descriptor that is closed at once. -/
theorem Sound.closeNew (sound : c.Sound handed) (still : c.state ≠ .connecting) {state : ConnectorState}
    (left : state ≠ .connecting) :
    Sound handed { c with state, created := c.created + 1, closed := c.closed ++ [c.created] } := by
  refine ⟨?_, ?_⟩
  · cases sound.holds with
    | idle _ channel absent => exact .idle left channel absent
    | watching sockfd state => exact absurd state still
    | leaving sockfd _ channel once => exact .leaving sockfd left channel once
  · have owned := sound.owned
    rw [watched_of_ne still, Option.toList_none, List.append_nil] at owned
    rw [watched_of_ne left, Option.toList_none, List.append_nil, List.range_succ]
    exact (closed_perm c.closed handed c.created).trans (owned.append_right [c.created])

/-- A queue that goes on otherwise says the same of the channel. -/
theorem Sound.withQueue (sound : c.Sound handed) {queue : List ConnectorTask}
    (same : queue.count .resetChannel = c.pendingFunctors.count .resetChannel) :
    Sound handed { c with pendingFunctors := queue } := by
  refine ⟨?_, sound.owned⟩
  have absent (before : .resetChannel ∉ c.pendingFunctors) : .resetChannel ∉ queue := by
    rw [← List.count_eq_zero, same, List.count_eq_zero]
    exact before
  cases sound.holds with
  | idle state channel before => exact .idle state channel (absent before)
  | watching sockfd state channel before => exact .watching sockfd state channel (absent before)
  | leaving sockfd state channel once => exact .leaving sockfd state channel (same.trans once)

theorem Sound.queueInLoop (sound : c.Sound handed) {task : ConnectorTask} (other : task ≠ .resetChannel) :
    (c.queueInLoop task).Sound handed :=
  sound.withQueue (by rw [List.count_append, List.count_singleton, beq_false_of_ne other]; rfl)

theorem Sound.withConnect (sound : c.Sound handed) (connect : Bool) : Sound handed { c with connect } := by
  refine ⟨?_, sound.owned⟩
  cases sound.holds with
  | idle state channel absent => exact .idle state channel absent
  | watching sockfd state channel absent => exact .watching sockfd state channel absent
  | leaving sockfd state channel once => exact .leaving sockfd state channel once

/-- While the state says so the channel waits. -/
theorem Sound.watching (sound : c.Sound handed) (connecting : c.state = .connecting) :
    ∃ sockfd, c.channel = some (sockfd, .watching) ∧ c.watched = some sockfd ∧
      .resetChannel ∉ c.pendingFunctors := by
  cases sound.holds with
  | idle state => exact absurd connecting state
  | watching sockfd state channel absent => exact ⟨sockfd, channel, by rw [watched, if_pos state, channel]; rfl, absent⟩
  | leaving sockfd state => exact absurd connecting state

theorem removeAndResetChannel_watching {sockfd : Nat} (channel : c.channel = some (sockfd, .watching)) :
    c.removeAndResetChannel =
      .ok (sockfd, { c with channel := some (sockfd, .created) }.queueInLoop .resetChannel) := by
  simp only [removeAndResetChannel, channel, Channel.remove_watching]
  rfl

/-- The channel goes, and its descriptor is closed or handed over. -/
theorem Sound.leave (sound : c.Sound handed) {sockfd : Nat} (connecting : c.state = .connecting)
    (channel : c.channel = some (sockfd, .watching)) {state : ConnectorState} (left : state ≠ .connecting)
    (closed handed' : List Nat) (gone : (closed ++ handed').Perm (c.closed ++ handed ++ [sockfd])) :
    Sound handed' { c with
      state
      channel := some (sockfd, .created)
      pendingFunctors := c.pendingFunctors ++ [.resetChannel]
      closed } := by
  obtain ⟨same, isChannel, watched, absent⟩ := sound.watching connecting
  obtain rfl : sockfd = same := by simpa [channel] using isChannel
  refine ⟨.leaving sockfd left rfl ?_, ?_⟩
  · rw [List.count_append, List.count_eq_zero.mpr absent]
    rfl
  · rw [watched_of_ne left, Option.toList_none, List.append_nil]
    have owned := sound.owned
    rw [watched] at owned
    exact gone.trans owned

/-! ### The functions -/

theorem connecting_ok {sockfd : Nat} (absent : c.channel = none) :
    c.connecting sockfd = .ok { c with state := .connecting, channel := some (sockfd, .watching) } := by
  rw [connecting, absent, Channel.enableWriting_created]
  rfl

theorem startInLoop_error_iff : (∃ failure, c.startInLoop = .error failure) ↔ c.state ≠ .disconnected := by
  unfold startInLoop
  by_cases disconnected : c.state = .disconnected
  · simp [disconnected]
  · simp [disconnected]

theorem startInLoop_ok {asked : Bool} (tested : c.startInLoop = .ok asked) :
    c.state = .disconnected ∧ asked = c.connect := by
  unfold startInLoop at tested
  split at tested
  · next disconnected => exact ⟨disconnected, (Except.ok.inj tested).symm⟩
  · cases tested

theorem connectSocket_error_iff : (∃ failure, c.connectSocket errno = .error failure) ↔ c.Clashes errno := by
  unfold Clashes
  rw [connectSocket]
  cases which : errno.case with
  | connecting =>
    by_cases held : c.channel.isSome = true
    · simp [connecting, held]
    · simp [connecting, held, Channel.enableWriting_created, Except.mapError, bind, Except.bind]
  | retry | close => simp

theorem Sound.connectSocket (sound : c.Sound handed) (disconnected : c.state = .disconnected)
    (made : c.connectSocket errno = .ok after) : after.Sound handed := by
  have still : c.state ≠ .connecting := disconnected ▸ (by decide)
  unfold Connector.connectSocket at made
  cases which : errno.case with
  | connecting =>
    simp only [which] at made
    cases sound.holds with
    | idle state channel absent =>
      have done : Connector.connecting { c with created := c.created + 1 } c.created = _ := connecting_ok channel
      cases done.symm.trans made
      refine ⟨.watching c.created rfl rfl absent, ?_⟩
      have owned := sound.owned
      rw [watched_of_ne state, Option.toList_none, List.append_nil] at owned
      rw [List.range_succ]
      exact owned.append_right _
    | watching sockfd state => exact absurd state still
    | leaving sockfd state channel =>
      simp only [Connector.connecting, channel] at made
      cases made
  | retry =>
    rw [which] at made
    cases made
    exact sound.closeNew still (by decide)
  | close =>
    rw [which] at made
    cases made
    exact sound.closeNew still still

/-- The connector starts again as it did first. -/
theorem Sound.restart (sound : c.Sound handed) (state : c.state ≠ .connecting) (channel : c.channel = none)
    (absent : .resetChannel ∉ c.pendingFunctors) : c.restart.Sound handed := by
  refine ⟨.idle nofun channel absent, ?_⟩
  have owned := sound.owned
  rw [watched_of_ne state] at owned
  rwa [watched_of_ne (show c.restart.state ≠ .connecting from nofun)]

theorem Sound.stopInLoop (sound : c.Sound handed) : ∃ after, c.stopInLoop = .ok after ∧ after.Sound handed := by
  unfold Connector.stopInLoop
  split
  · next connecting =>
    obtain ⟨sockfd, channel, -, -⟩ := sound.watching connecting
    refine ⟨_, ?_, sound.leave connecting channel (by decide : ConnectorState.disconnected ≠ .connecting)
      (c.closed ++ [sockfd]) handed (closed_perm _ _ _)⟩
    rw [show ({ c with state := .disconnected } : Connector).removeAndResetChannel = _ from
      removeAndResetChannel_watching channel]
    rfl
  · exact ⟨c, rfl, sound⟩

theorem Sound.resetChannel (sound : c.Sound handed) {rest : List ConnectorTask}
    (next : c.pendingFunctors = .resetChannel :: rest) :
    ∃ after, { c with pendingFunctors := rest }.resetChannel = .ok after ∧ after.Sound handed := by
  cases sound.holds with
  | idle _ _ absent => simp [next] at absent
  | watching _ _ _ absent => simp [next] at absent
  | leaving sockfd state channel once =>
    refine ⟨{ c with pendingFunctors := rest, channel := none }, ?_, .idle state rfl ?_, ?_⟩
    · simp only [Connector.resetChannel, channel]
      rfl
    · rw [next, List.count_cons_self] at once
      exact List.count_eq_zero.mp (Nat.succ.inj once)
    · have owned := sound.owned
      rw [watched_of_ne state] at owned
      rw [watched_of_ne (c := { c with pendingFunctors := rest, channel := none }) state]
      exact owned

/-- The write event closes the descriptor, or hands it over if a connection is still asked for. -/
theorem Sound.handleWrite (sound : c.Sound handed) (connecting : c.state = .connecting) (soError selfConnect : Bool) :
    ∃ given after, c.handleWrite soError selfConnect = .ok (given, after) ∧
      after.Sound (handed ++ given.toList) ∧ after.state ≠ .connecting ∧
      (given.isSome = true → c.connect = true ∧ after.state = .connected) := by
  obtain ⟨sockfd, channel, -, -⟩ := sound.watching connecting
  have closes {state : ConnectorState} (left : state ≠ .connecting) := sound.leave connecting channel left
    (c.closed ++ [sockfd]) (handed ++ []) (by rw [List.append_nil]; exact closed_perm _ _ _)
  unfold Connector.handleWrite
  rw [if_pos connecting, removeAndResetChannel_watching channel]
  by_cases failed : (soError || selfConnect) = true
  · exact ⟨none, _, by simp only [failed, bind, Except.bind, if_true]; rfl,
      closes (by decide : ConnectorState.disconnected ≠ .connecting), nofun, nofun⟩
  · by_cases asked : c.connect = true
    · have gives := sound.leave connecting channel (by decide : ConnectorState.connected ≠ .connecting) c.closed
        (handed ++ [sockfd]) (by rw [List.append_assoc])
      refine ⟨some sockfd, _, ?_, gives, nofun, fun _ => ⟨asked, rfl⟩⟩
      simp only [failed, bind, Except.bind, Connector.queueInLoop, asked, if_true]
      rfl
    · refine ⟨none, _, ?_, closes (by decide : ConnectorState.connected ≠ .connecting), nofun, nofun⟩
      simp only [failed, bind, Except.bind, Connector.queueInLoop, asked]
      rfl

theorem Sound.handleError (sound : c.Sound handed) : ∃ after, c.handleError = .ok after ∧ after.Sound handed := by
  unfold Connector.handleError
  split
  · next connecting =>
    obtain ⟨sockfd, channel, -, -⟩ := sound.watching connecting
    refine ⟨_, ?_, sound.leave connecting channel (by decide : ConnectorState.disconnected ≠ .connecting)
      (c.closed ++ [sockfd]) handed (closed_perm _ _ _)⟩
    rw [removeAndResetChannel_watching channel]
    rfl
  · exact ⟨c, rfl, sound⟩

/-- An event comes while the channel waits only. -/
theorem Sound.connecting_of_polled (sound : c.Sound handed) (polled : c.channel.any (·.2.polled) = true) :
    c.state = .connecting := by
  cases sound.holds with
  | idle _ channel =>
    rw [channel] at polled
    cases polled
  | watching _ state => exact state
  | leaving _ _ channel =>
    rw [channel] at polled
    cases polled

/-! ### What the functions leave alone -/

/-- Nothing is made, and nobody asks for a start. -/
structure Calm (c after : Connector) : Prop where
  connect : after.connect = c.connect
  created : after.created = c.created
  starts : after.pendingFunctors.count .startInLoop = c.pendingFunctors.count .startInLoop

theorem removeAndResetChannel_calm {sockfd : Nat} (removed : c.removeAndResetChannel = .ok (sockfd, after)) :
    c.Calm after := by
  unfold removeAndResetChannel at removed
  split at removed
  · cases removed
  · obtain ⟨channel, -, same⟩ := ok_of_bind removed
    cases same
    exact ⟨rfl, rfl, by simp [Connector.queueInLoop]⟩

theorem stopInLoop_calm (stopped : c.stopInLoop = .ok after) : c.Calm after := by
  unfold Connector.stopInLoop at stopped
  split at stopped
  · obtain ⟨⟨sockfd, middle⟩, removed, same⟩ := ok_of_bind stopped
    cases same
    exact { removeAndResetChannel_calm removed with }
  · cases stopped
    exact ⟨rfl, rfl, rfl⟩

theorem handleError_calm (handled : c.handleError = .ok after) : c.Calm after := by
  unfold Connector.handleError at handled
  split at handled
  · obtain ⟨⟨sockfd, middle⟩, removed, same⟩ := ok_of_bind handled
    cases same
    exact { removeAndResetChannel_calm removed with }
  · cases handled
    exact ⟨rfl, rfl, rfl⟩

theorem handleWrite_calm {soError selfConnect : Bool} {given : Option Nat}
    (handled : c.handleWrite soError selfConnect = .ok (given, after)) : c.Calm after := by
  unfold Connector.handleWrite at handled
  split at handled
  · obtain ⟨⟨sockfd, middle⟩, removed, rest⟩ := ok_of_bind handled
    have calm := removeAndResetChannel_calm removed
    simp only at rest
    split at rest
    · cases rest
      exact { calm with }
    · split at rest
      · cases rest
        exact { calm with }
      · cases rest
        exact { calm with }
  · split at handled
    · cases handled
      exact ⟨rfl, rfl, rfl⟩
    · cases handled

theorem resetChannel_calm (reset : c.resetChannel = .ok after) : c.Calm after := by
  unfold Connector.resetChannel at reset
  split at reset
  · split at reset
    · cases reset
    · cases reset
      exact ⟨rfl, rfl, rfl⟩
  · cases reset
    exact ⟨rfl, rfl, rfl⟩

theorem connectSocket_frame (made : c.connectSocket errno = .ok after) : after.pendingFunctors = c.pendingFunctors := by
  unfold connectSocket at made
  simp only at made
  split at made
  · unfold Connector.connecting at made
    split at made
    · cases made
    · obtain ⟨channel, -, same⟩ := ok_of_bind made
      cases same
      rfl
  · cases made
    rfl
  · cases made
    rfl

end
end Connector

end EdgeFlow.Network
