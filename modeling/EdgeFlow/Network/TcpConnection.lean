import EdgeFlow.Network.Buffer

/-! `TcpConnection` and the `Channel` it is polled through.

What the loop thread calls is a function here that ends in the first assertion
that fails. The `Poller` is kept for one descriptor: whether `channels_` has its
channel and whether the epoll set has it.
-/

set_option autoImplicit false

namespace EdgeFlow.Network
open Library

inductive Failure where
  /-- of `Poller::updateChannel` -/
  | updateChannel
  /-- of `Channel::remove` or `Poller::removeChannel` -/
  | removeChannel
  /-- `LOG(FATAL)` of `Poller::update` -/
  | epollCtl
  | connectEstablished
  | handleClose
  | removeConnectionInLoop
  /-- of `~TcpConnection` or `~Channel` -/
  | destructor
  /-- a callback bound to a destroyed `TcpServer` is run -/
  | danglingServer
  deriving DecidableEq, Repr

/-! ## `Channel` and `Poller` -/

/-- `kNew`, `kAdded` and `kDeleted` -/
inductive Index where
  | new
  | added
  | deleted
  deriving DecidableEq, Repr

structure Channel where
  /-- `events_ & ReadEvent` -/
  reading : Bool
  /-- `events_ & WriteEvent` -/
  writing : Bool
  index : Index
  /-- `channels_` of the poller has it -/
  listed : Bool
  /-- the epoll set has its descriptor -/
  polled : Bool
  addedToLoop : Bool
  deriving DecidableEq, Repr

namespace Channel

def created : Channel := ⟨false, false, .new, false, false, false⟩

variable (c : Channel)

def isNoneEvent : Bool := !c.reading && !c.writing

/-- `EPOLL_CTL_ADD` of what is in the set already is refused. -/
def epollAdd : Except Failure Channel :=
  if c.polled then .error .epollCtl else .ok { c with index := .added, polled := true }

/-- `EPOLL_CTL_MOD` of what is not in the set is refused. -/
def epollMod : Except Failure Channel := if c.polled then .ok c else .error .epollCtl

/-- `Channel::update` and `Poller::updateChannel` -/
def update : Except Failure Channel :=
  let c := { c with addedToLoop := true }
  match c.index with
  | .new => if c.listed then .error .updateChannel else { c with listed := true }.epollAdd
  -- added again whatever its events are
  | .deleted => if c.listed then c.epollAdd else .error .updateChannel
  | .added =>
    if c.listed then
      if c.isNoneEvent then .ok { c with index := .deleted, polled := false } else c.epollMod
    else .error .updateChannel

def enableReading : Except Failure Channel := { c with reading := true }.update
def disableReading : Except Failure Channel := { c with reading := false }.update
def enableWriting : Except Failure Channel := { c with writing := true }.update
def disableWriting : Except Failure Channel := { c with writing := false }.update
def disableAll : Except Failure Channel := { c with reading := false, writing := false }.update

/-- `Channel::remove` and `Poller::removeChannel` -/
def remove : Except Failure Channel :=
  if c.isNoneEvent ∧ c.listed ∧ c.index ≠ .new then
    .ok { c with addedToLoop := false, listed := false, polled := false, index := .new }
  else .error .removeChannel

/-- The poller and the channel agree that it has been added. -/
structure Listed : Prop where
  listed : c.listed = true
  notNew : c.index ≠ .new
  polled : c.polled = true ↔ c.index = .added

/-- The poller has never heard of it, or not since it was removed. -/
structure Unlisted : Prop where
  listed : c.listed = false
  index : c.index = .new
  polled : c.polled = false
  none : c.isNoneEvent = true

variable {c}

/-- An update keeps the events, and what has events is in the epoll set after it. -/
theorem update_ok (known : c.Listed ∨ (c.listed = false ∧ c.index = .new ∧ c.polled = false)) :
    ∃ c', c.update = .ok c' ∧ c'.Listed ∧ c'.reading = c.reading ∧ c'.writing = c.writing ∧
      (c'.isNoneEvent = false → c'.polled = true) := by
  rcases known with ⟨listed, notNew, polled⟩ | ⟨listed, index, polled⟩
  · cases place : c.index with
    | new => exact absurd place notNew
    | deleted =>
      have idle : c.polled = false := by
        rw [place] at polled
        simpa using polled
      refine ⟨{ c with addedToLoop := true, index := .added, polled := true }, ?_, ⟨listed, by simp, by simp⟩,
        rfl, rfl, fun _ => rfl⟩
      simp [update, place, listed, epollAdd, idle]
    | added =>
      have there : c.polled = true := polled.mpr place
      by_cases quiet : c.isNoneEvent = true
      · refine ⟨{ c with addedToLoop := true, index := .deleted, polled := false }, ?_, ⟨listed, by simp, by simp⟩,
          rfl, rfl, fun some => ?_⟩
        · simp only [isNoneEvent] at quiet
          simp [update, place, listed, isNoneEvent, quiet]
        · exact absurd (quiet.symm.trans some) (by decide)
      · refine ⟨{ c with addedToLoop := true }, ?_, ⟨listed, notNew, polled⟩, rfl, rfl, fun _ => there⟩
        simp only [isNoneEvent] at quiet
        simp [update, place, listed, isNoneEvent, quiet, epollMod, there]
  · refine ⟨{ c with addedToLoop := true, listed := true, index := .added, polled := true }, ?_,
      ⟨rfl, by simp, by simp⟩, rfl, rfl, fun _ => rfl⟩
    simp [update, index, listed, epollAdd, polled]

end Channel

/-! ## `TcpConnection` -/

inductive StateE where
  | disconnected
  | connecting
  | connected
  | disconnecting
  deriving DecidableEq, Repr

structure TcpConnection where
  state : StateE
  reading : Bool
  channel : Channel
  outputBuffer : Buffer
  /-- what the kernel has taken -/
  written : Bytes
  /-- what `outputBuffer_` held at each `shutdownWrite` -/
  shutdownWrites : List Bytes
  /-- what `connected()` was in each run of the connection callback, oldest first -/
  callbacks : List Bool

/-- What `sockets::write` returns, and `errno` when that is -1. -/
inductive WriteResult where
  | wrote (count : Nat)
  | wouldBlock
  /-- `EPIPE` or `ECONNRESET` -/
  | reset
  | failed
  deriving DecidableEq

/-- What `inputBuffer_.readFd` returns: more than nought, nought or less. -/
inductive ReadResult where
  | data
  | closed
  | failed
  deriving DecidableEq

/-- The bytes that were written. -/
def WriteResult.nwrote : WriteResult → Nat
  | .wrote count => count
  | _ => 0

namespace TcpConnection

def created : TcpConnection := ⟨.connecting, true, .created, .empty, [], [], []⟩

variable (c : TcpConnection)

def connectionCallback : TcpConnection := { c with callbacks := c.callbacks ++ [c.state == .connected] }

/-- `result` is what the kernel would say to a direct write. -/
def sendInLoop (message : Bytes) (result : WriteResult) : Except Failure TcpConnection :=
  if c.state = .disconnected then .ok c
  else
    let direct := !c.channel.writing && c.outputBuffer.readableBytes == 0
    let nwrote := if direct then result.nwrote else 0
    let faultError := direct && result == .reset
    let c := { c with written := c.written ++ message.take nwrote }
    if !faultError && 0 < message.length - nwrote then
      let c := { c with outputBuffer := c.outputBuffer.append (message.drop nwrote) }
      if c.channel.writing then .ok c
      else do
        let channel ← c.channel.enableWriting
        .ok { c with channel }
    else .ok c

def shutdownInLoop : TcpConnection :=
  if c.channel.writing then c
  else { c with shutdownWrites := c.shutdownWrites ++ [c.outputBuffer.readable] }

def startReadInLoop : Except Failure TcpConnection :=
  if !c.reading || !c.channel.reading then do
    let channel ← c.channel.enableReading
    .ok { c with channel, reading := true }
  else .ok c

def stopReadInLoop : Except Failure TcpConnection :=
  if c.reading || c.channel.reading then do
    let channel ← c.channel.disableReading
    .ok { c with channel, reading := false }
  else .ok c

def connectEstablished : Except Failure TcpConnection :=
  if c.state = .connecting then do
    let channel ← c.channel.enableReading
    .ok { c with state := .connected, channel }.connectionCallback
  else .error .connectEstablished

/-- What `handleClose` and `connectDestroyed` do alike. -/
def disconnect : Except Failure TcpConnection := do
  let channel ← c.channel.disableAll
  .ok { c with state := .disconnected, channel }.connectionCallback

def connectDestroyed : Except Failure TcpConnection := do
  let c ← if c.state = .connected then c.disconnect else .ok c
  let channel ← c.channel.remove
  .ok { c with channel }

/-- `handleClose` as far as the close callback. -/
def handleClose : Except Failure TcpConnection :=
  if c.state = .connected ∨ c.state = .disconnecting then c.disconnect else .error .handleClose

def handleWrite (result : WriteResult) : Except Failure TcpConnection :=
  if c.channel.writing then
    if 0 < result.nwrote then
      let c := { c with
        written := c.written ++ c.outputBuffer.readable.take result.nwrote
        outputBuffer := c.outputBuffer.retrieve result.nwrote }
      if c.outputBuffer.readableBytes = 0 then do
        let channel ← c.channel.disableWriting
        let c := { c with channel }
        .ok (if c.state = .disconnecting then c.shutdownInLoop else c)
      else .ok c
    else .ok c
  else .ok c

end TcpConnection

/-- What a user calls on a connection that asks for its state first. -/
inductive Call where
  | send (message : Bytes)
  | shutdown
  | forceClose
  deriving DecidableEq

/-- The test at the head of the call. -/
def Call.admitted (state : StateE) : Call → Bool
  | .send _ | .shutdown => state == .connected
  | .forceClose => state == .connected || state == .disconnecting

/-- What becomes of the state behind the test. -/
def Call.setState (state : StateE) : Call → StateE
  | .send _ => state
  | .shutdown | .forceClose => .disconnecting

end EdgeFlow.Network
