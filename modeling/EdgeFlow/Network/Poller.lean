import EdgeFlow.Library.Run
import EdgeFlow.Network.TcpConnection

/-! `Poller`: the channels of a loop, the map of their descriptors and the epoll set.

A channel is added to the epoll set by any update that finds it outside, whatever its
events are.
-/

set_option autoImplicit false

namespace EdgeFlow.Network
open Library

/-- `events_` -/
structure Interest where
  reading : Bool
  writing : Bool
  deriving DecidableEq, Repr

namespace Interest

def none : Interest := ⟨false, false⟩

def enableReading (events : Interest) : Interest := { events with reading := true }
def disableReading (events : Interest) : Interest := { events with reading := false }
def enableWriting (events : Interest) : Interest := { events with writing := true }
def disableWriting (events : Interest) : Interest := { events with writing := false }
def disableAll (_ : Interest) : Interest := none

theorem eq_none_iff (events : Interest) : events = none ↔ events.reading = false ∧ events.writing = false := by
  obtain ⟨reading, writing⟩ := events
  simp [none]

end Interest

/-- What a channel knows of itself. -/
structure PolledChannel where
  events : Interest
  index : Index
  addedToLoop : Bool

inductive EpollOperation where
  | add
  | mod
  | del
  deriving DecidableEq, Repr

/-- A call of `epoll_ctl`, and whether the epoll set has the descriptor then. -/
structure EpollCall where
  operation : EpollOperation
  fd : Int
  registered : Bool

/-- What is added was outside, and what is modified or deleted was inside. -/
def EpollCall.Proper (call : EpollCall) : Prop := call.registered = true ↔ call.operation ≠ .add

/-- What the epoll set has for a descriptor: the mask, and the pointer that comes with an event. -/
structure Registration (Id : Type) where
  events : Interest
  channel : Id
  deriving DecidableEq

structure Poller (Id : Type) where
  channel : Id → PolledChannel
  /-- `channels_` -/
  channels : Int → Option Id
  epoll : Int → Option (Registration Id)
  /-- the calls of `epoll_ctl` so far -/
  calls : List EpollCall

namespace Poller

section
variable {Id : Type} [DecidableEq Id] (fd : Id → Int) (id : Id) (poller : Poller Id)

def initial : Poller Id where
  channel _ := ⟨.none, .new, false⟩
  channels _ := none
  epoll _ := none
  calls := []

def set (channel : PolledChannel) : Poller Id :=
  { poller with channel := Function.update poller.channel id channel }

def setIndex (index : Index) : Poller Id := poller.set id { poller.channel id with index }

/-- `Poller::update`; a call that is refused ends the program, unless it was to delete. -/
def update (operation : EpollOperation) : Except Failure (Poller Id) :=
  let registered := (poller.epoll (fd id)).isSome
  let poller := { poller with calls := poller.calls ++ [⟨operation, fd id, registered⟩] }
  match operation, registered with
  | .add, false | .mod, true =>
    .ok { poller with epoll := Function.update poller.epoll (fd id) (some ⟨(poller.channel id).events, id⟩) }
  | .del, true => .ok { poller with epoll := Function.update poller.epoll (fd id) none }
  | .del, false => .ok poller
  | .add, true | .mod, false => .error .epollCtl

def updateChannel : Except Failure (Poller Id) :=
  match (poller.channel id).index with
  | .new =>
    if poller.channels (fd id) = none then
      ({ poller with channels := Function.update poller.channels (fd id) (some id) }.setIndex id .added).update fd id .add
    else .error .updateChannel
  | .deleted =>
    if poller.channels (fd id) = some id then (poller.setIndex id .added).update fd id .add else .error .updateChannel
  | .added =>
    if poller.channels (fd id) = some id then
      if (poller.channel id).events = .none then do .ok ((← poller.update fd id .del).setIndex id .deleted)
      else poller.update fd id .mod
    else .error .updateChannel

/-- `Poller::removeChannel` -/
def removeChannel : Except Failure (Poller Id) :=
  if poller.channels (fd id) = some id ∧ (poller.channel id).events = .none ∧ (poller.channel id).index ≠ .new then
    let erased := { poller with channels := Function.update poller.channels (fd id) none }
    if (poller.channel id).index = .added then do .ok ((← erased.update fd id .del).setIndex id .new)
    else .ok (erased.setIndex id .new)
  else .error .removeChannel

/-- A change of the events, and `Channel::update`. -/
def change (events : Interest → Interest) : Except Failure (Poller Id) :=
  (poller.set id { poller.channel id with events := events (poller.channel id).events, addedToLoop := true }).updateChannel
    fd id

def enableReading : Except Failure (Poller Id) := poller.change fd id Interest.enableReading
def disableReading : Except Failure (Poller Id) := poller.change fd id Interest.disableReading
def enableWriting : Except Failure (Poller Id) := poller.change fd id Interest.enableWriting
def disableWriting : Except Failure (Poller Id) := poller.change fd id Interest.disableWriting
def disableAll : Except Failure (Poller Id) := poller.change fd id Interest.disableAll

/-- `Channel::remove` -/
def remove : Except Failure (Poller Id) :=
  if (poller.channel id).events = .none then
    (poller.set id { poller.channel id with addedToLoop := false }).removeChannel fd id
  else .error .removeChannel

end

/-- A call of one of the methods of a channel. -/
inductive Call (Id : Type) where
  | enableReading (id : Id)
  | disableReading (id : Id)
  | enableWriting (id : Id)
  | disableWriting (id : Id)
  | disableAll (id : Id)
  | remove (id : Id)
  deriving DecidableEq

section
variable {Id : Type} [DecidableEq Id] (fd : Id → Int)

def perform (poller : Poller Id) : Call Id → Except Failure (Poller Id)
  | .enableReading id => poller.enableReading fd id
  | .disableReading id => poller.disableReading fd id
  | .enableWriting id => poller.enableWriting fd id
  | .disableWriting id => poller.disableWriting fd id
  | .disableAll id => poller.disableAll fd id
  | .remove id => poller.remove fd id

/-- A failure ends the program. -/
def step (poller : Poller Id) (call : Call Id) : Option (Poller Id) := (poller.perform fd call).toOption

/-- A channel is removed when it has no events and the poller knows it. -/
def Removable (poller : Poller Id) : Call Id → Prop
  | .remove id => (poller.channel id).events = .none ∧ poller.channels (fd id) = some id
  | _ => True

/-- The descriptors that have events are in the epoll set, with these; indices, map and set go together. -/
structure Mirrors (poller : Poller Id) : Prop where
  polled : ∀ id entry, poller.epoll (fd id) = some entry ↔
    (poller.channel id).events ≠ .none ∧ entry = ⟨(poller.channel id).events, id⟩
  added : ∀ id, (poller.channel id).index = .added ↔ (poller.epoll (fd id)).isSome = true
  listed : ∀ id, poller.channels (fd id) = some id ↔ (poller.channel id).index ≠ .new
  proper : ∀ call ∈ poller.calls, call.Proper

/-- What is disabled has events. -/
def HasEvents (poller : Poller Id) : Call Id → Prop
  | .disableReading id | .disableWriting id | .disableAll id => (poller.channel id).events ≠ .none
  | .enableReading _ | .enableWriting _ | .remove _ => True

/-- What holds even if channels without events are disabled. -/
structure Sound (poller : Poller Id) : Prop where
  listed : ∀ id, poller.channels (fd id) = if (poller.channel id).index = .new then none else some id
  polled : ∀ id, poller.epoll (fd id) =
    if (poller.channel id).index = .added then some ⟨(poller.channel id).events, id⟩ else none
  quiet : ∀ id, (poller.channel id).index ≠ .added → (poller.channel id).events = .none
  proper : ∀ call ∈ poller.calls, call.Proper

/-- Every channel in the epoll set has events. -/
def Busy (poller : Poller Id) : Prop := ∀ id, (poller.channel id).index = .added → (poller.channel id).events ≠ .none

end

/-! ## One call -/

section
variable {Id : Type} [DecidableEq Id] {fd : Id → Int} {id : Id} {poller after : Poller Id}

@[simp] theorem set_channels (channel : PolledChannel) : (poller.set id channel).channels = poller.channels := rfl
@[simp] theorem set_epoll (channel : PolledChannel) : (poller.set id channel).epoll = poller.epoll := rfl
@[simp] theorem set_calls (channel : PolledChannel) : (poller.set id channel).calls = poller.calls := rfl

@[simp] theorem set_channel_self (channel : PolledChannel) : (poller.set id channel).channel id = channel :=
  Function.update_self _ _ _

theorem set_channel_of_ne {other : Id} (differs : other ≠ id) (channel : PolledChannel) :
    (poller.set id channel).channel other = poller.channel other := Function.update_of_ne differs _ _

/-- What a call on a channel leaves to the others. -/
structure Frames (fd : Id → Int) (id : Id) (poller after : Poller Id) : Prop where
  channel : ∀ other, other ≠ id → after.channel other = poller.channel other
  channels : ∀ other, other ≠ id → after.channels (fd other) = poller.channels (fd other)
  epoll : ∀ other, other ≠ id → after.epoll (fd other) = poller.epoll (fd other)

theorem Sound.of_frames (sound : Sound fd poller) (frames : Frames fd id poller after)
    (listed : after.channels (fd id) = if (after.channel id).index = .new then none else some id)
    (polled : after.epoll (fd id) =
      if (after.channel id).index = .added then some ⟨(after.channel id).events, id⟩ else none)
    (quiet : (after.channel id).index ≠ .added → (after.channel id).events = .none)
    (proper : ∀ call ∈ after.calls, call.Proper) : Sound fd after := by
  refine ⟨fun other => ?_, fun other => ?_, fun other => ?_, proper⟩
  · by_cases same : other = id
    · rw [same, listed]
    · rw [frames.channels other same, frames.channel other same, sound.listed]
  · by_cases same : other = id
    · rw [same, polled]
    · rw [frames.epoll other same, frames.channel other same, sound.polled]
  · by_cases same : other = id
    · rw [same]
      exact quiet
    · rw [frames.channel other same]
      exact sound.quiet other

omit [DecidableEq Id] in
/-- A call of `epoll_ctl` that is proper goes through. -/
theorem update_ok (operation : EpollOperation) (distinct : Function.Injective fd)
    (fits : (poller.epoll (fd id)).isSome = true ↔ operation ≠ .add) (proper : ∀ call ∈ poller.calls, call.Proper) :
    ∃ after, poller.update fd id operation = .ok after ∧ Frames fd id poller after ∧
      after.channel = poller.channel ∧ after.channels = poller.channels ∧
      after.epoll (fd id) = (if operation = .del then none else some ⟨(poller.channel id).events, id⟩) ∧
      ∀ call ∈ after.calls, call.Proper := by
  have logged : ∀ call ∈ poller.calls ++ [⟨operation, fd id, (poller.epoll (fd id)).isSome⟩], call.Proper := by
    intro call member
    rcases List.mem_append.mp member with earlier | now
    · exact proper call earlier
    · rw [List.mem_singleton.mp now]
      exact fits
  have others (entry : Option (Registration Id)) (other : Id) (differs : other ≠ id) :
      Function.update poller.epoll (fd id) entry (fd other) = poller.epoll (fd other) :=
    Function.update_of_ne (fun same => differs (distinct same)) _ _
  unfold update
  cases operation with
  | add =>
    have outside : (poller.epoll (fd id)).isSome = false := by simpa using fits
    rw [outside] at logged ⊢
    exact ⟨_, rfl, ⟨fun _ _ => rfl, fun _ _ => rfl, others _⟩, rfl, rfl, Function.update_self _ _ _, logged⟩
  | mod =>
    have inside : (poller.epoll (fd id)).isSome = true := by simpa using fits
    rw [inside] at logged ⊢
    exact ⟨_, rfl, ⟨fun _ _ => rfl, fun _ _ => rfl, others _⟩, rfl, rfl, Function.update_self _ _ _, logged⟩
  | del =>
    have inside : (poller.epoll (fd id)).isSome = true := by simpa using fits
    rw [inside] at logged ⊢
    exact ⟨_, rfl, ⟨fun _ _ => rfl, fun _ _ => rfl, others _⟩, rfl, rfl, Function.update_self _ _ _, logged⟩

/-- A channel that is outside comes into the epoll set, once the map has it. -/
theorem add_ok (distinct : Function.Injective fd) (sound : Sound fd poller)
    (outside : (poller.channel id).index ≠ .added)
    {known : Poller Id} (frames : Frames fd id poller known) (isListed : known.channels (fd id) = some id)
    (sameEpoll : known.epoll = poller.epoll) (sameCalls : known.calls = poller.calls) :
    ∃ after, (known.setIndex id .added).update fd id .add = .ok after ∧ Sound fd after ∧
      (∀ other, other ≠ id → after.channel other = poller.channel other) ∧
      after.channel id = { known.channel id with index := .added } := by
  have fits : ((known.setIndex id .added).epoll (fd id)).isSome = true ↔ EpollOperation.add ≠ .add := by
    rw [setIndex, set_epoll, sameEpoll, sound.polled, if_neg outside]
    simp
  obtain ⟨after, done, rest, channel, channels, epoll, proper⟩ := update_ok .add distinct fits
    (by rw [setIndex, set_calls, sameCalls]; exact sound.proper)
  have others (other : Id) (differs : other ≠ id) : after.channel other = poller.channel other := by
    rw [channel, setIndex, set_channel_of_ne differs, frames.channel other differs]
  have itself : after.channel id = { known.channel id with index := .added } := by
    rw [channel, setIndex, set_channel_self]
  refine ⟨after, done, sound.of_frames ⟨others, fun other differs => ?_, fun other differs => ?_⟩ ?_ ?_ ?_ proper, others,
    itself⟩
  · rw [channels]
    exact frames.channels other differs
  · rw [rest.epoll other differs, setIndex, set_epoll, sameEpoll]
  · rw [channels, itself]
    exact isListed
  · rw [epoll, setIndex, set_channel_self, itself]
    rfl
  · rw [itself]
    exact fun notAdded => absurd rfl notAdded

/-- A change of the events of a channel goes through. A channel outside the epoll set comes into it, and one inside
stays there unless it is left without events. -/
theorem change_ok (distinct : Function.Injective fd) (sound : Sound fd poller) (id : Id)
    (events : Interest → Interest) : ∃ after, poller.change fd id events = .ok after ∧ Sound fd after ∧
      (∀ other, other ≠ id → after.channel other = poller.channel other) ∧
      after.channel id = ⟨events (poller.channel id).events,
        if (poller.channel id).index = .added ∧ events (poller.channel id).events = .none then .deleted else .added,
        true⟩ := by
  have listed := sound.listed id
  have polled := sound.polled id
  -- the poller as `Channel::update` finds it
  generalize isChannel : ({ poller.channel id with
    events := events (poller.channel id).events, addedToLoop := true } : PolledChannel) = channel
  have isEvents : channel.events = events (poller.channel id).events := by rw [← isChannel]
  have isIndex : channel.index = (poller.channel id).index := by rw [← isChannel]
  have isAddedToLoop : channel.addedToLoop = true := by rw [← isChannel]
  have changed : poller.change fd id events = (poller.set id channel).updateChannel fd id := by rw [← isChannel]; rfl
  have frames : Frames fd id poller (poller.set id channel) :=
    ⟨fun other differs => set_channel_of_ne differs channel, fun _ _ => rfl, fun _ _ => rfl⟩
  rw [changed, updateChannel, set_channel_self, isIndex]
  cases index : (poller.channel id).index with
  | new =>
    rw [index] at listed
    have absent : (poller.set id channel).channels (fd id) = none := listed
    let known : Poller Id :=
      { poller.set id channel with channels := Function.update (poller.set id channel).channels (fd id) (some id) }
    have knownFrames : Frames fd id poller known :=
      ⟨frames.channel, fun other differs => Function.update_of_ne (fun same => differs (distinct same)) _ _,
        frames.epoll⟩
    obtain ⟨after, done, soundAfter, others, itself⟩ := add_ok distinct sound (by rw [index]; decide) knownFrames
      (Function.update_self _ _ _) rfl rfl
    have knownId : known.channel id = channel := set_channel_self channel
    refine ⟨after, by rw [if_pos absent]; exact done, soundAfter, others, ?_⟩
    simp [itself, knownId, isEvents, isAddedToLoop]
  | deleted =>
    rw [index] at listed
    have present : (poller.set id channel).channels (fd id) = some id := listed
    obtain ⟨after, done, soundAfter, others, itself⟩ :=
      add_ok distinct sound (by rw [index]; decide) frames present rfl rfl
    refine ⟨after, by rw [if_pos present]; exact done, soundAfter, others, ?_⟩
    simp [itself, isEvents, isAddedToLoop]
  | added =>
    rw [index] at listed polled
    have present : (poller.set id channel).channels (fd id) = some id := listed
    have inside : ((poller.set id channel).epoll (fd id)).isSome = true := by
      rw [set_epoll, polled]
      rfl
    by_cases unwatched : channel.events = .none
    · obtain ⟨after, done, rest, sameChannel, sameChannels, epoll, proper⟩ := update_ok .del distinct
        (iff_of_true inside (by decide)) sound.proper
      have others (other : Id) (differs : other ≠ id) :
          (after.setIndex id .deleted).channel other = poller.channel other := by
        rw [setIndex, set_channel_of_ne differs, sameChannel, frames.channel other differs]
      have itself : (after.setIndex id .deleted).channel id = { channel with index := .deleted } := by
        rw [setIndex, set_channel_self, sameChannel, set_channel_self]
      refine ⟨after.setIndex id .deleted, ?_, sound.of_frames ⟨others, ?_, ?_⟩ ?_ ?_ ?_ proper, others,
        ?_⟩
      · simp only [if_pos present, if_pos unwatched, done, bind, Except.bind]
      · exact fun other _ => congrFun sameChannels (fd other)
      · exact rest.epoll
      · rw [itself, setIndex, set_channels, sameChannels]
        exact present
      · rw [itself, setIndex, set_epoll, epoll]
        rfl
      · rw [itself]
        exact fun _ => unwatched
      · simp [itself, ← isEvents, unwatched, isAddedToLoop]
    · obtain ⟨after, done, rest, sameChannel, sameChannels, epoll, proper⟩ := update_ok .mod distinct
        (iff_of_true inside (by decide)) sound.proper
      have others (other : Id) (differs : other ≠ id) : after.channel other = poller.channel other := by
        rw [sameChannel, frames.channel other differs]
      have itself : after.channel id = channel := by rw [sameChannel, set_channel_self]
      have isAdded : channel.index = .added := isIndex.trans index
      refine ⟨after, by simp only [if_pos present, if_neg unwatched, done],
        sound.of_frames ⟨others, ?_, rest.epoll⟩ ?_ ?_ ?_ proper, others,
        ?_⟩
      · exact fun other _ => congrFun sameChannels (fd other)
      · rw [itself, sameChannels, isAdded]
        exact present
      · rw [itself, epoll, isAdded, set_channel_self]
        rfl
      · rw [itself]
        exact fun outside => absurd isAdded outside
      · simp only [itself, ← isEvents, unwatched, and_false, if_false, ← isAdded, ← isAddedToLoop]

/-- A channel that the poller knows is removed when it has no events. -/
theorem remove_ok (distinct : Function.Injective fd) (sound : Sound fd poller)
    (quiet : (poller.channel id).events = .none) (known : poller.channels (fd id) = some id) :
    ∃ after, poller.remove fd id = .ok after ∧ Sound fd after ∧
      (∀ other, other ≠ id → after.channel other = poller.channel other) ∧ (after.channel id).index = .new := by
  have listed := sound.listed id
  have polled := sound.polled id
  have notNew : (poller.channel id).index ≠ .new := by
    intro isNew
    rw [if_pos isNew, known] at listed
    cases listed
  -- the poller as `removeChannel` has erased the channel
  generalize isErased : ({ poller.set id { poller.channel id with addedToLoop := false } with
    channels := Function.update poller.channels (fd id) none } : Poller Id) = erased
  have erasedId : erased.channel id = { poller.channel id with addedToLoop := false } := by
    rw [← isErased]
    exact set_channel_self _
  have frames : Frames fd id poller erased := by
    rw [← isErased]
    exact ⟨fun other differs => set_channel_of_ne differs _,
      fun other differs => Function.update_of_ne (fun same => differs (distinct same)) _ _, fun _ _ => rfl⟩
  have absent : erased.channels (fd id) = none := by rw [← isErased]; exact Function.update_self _ _ _
  have sameEpoll : erased.epoll = poller.epoll := by rw [← isErased]; rfl
  have sameCalls : erased.calls = poller.calls := by rw [← isErased]; rfl
  have removed : poller.remove fd id =
      if (poller.channel id).index = .added then do .ok ((← erased.update fd id .del).setIndex id .new)
      else .ok (erased.setIndex id .new) := by
    rw [← isErased]
    simp only [remove, removeChannel, set_channel_self, set_channels, quiet, known, if_true, true_and, ne_eq, notNew,
      not_false_eq_true]
  have leaves {left : Poller Id} (sameChannel : left.channel = erased.channel)
      (sameChannels : left.channels = erased.channels)
      (others : ∀ other, other ≠ id → left.epoll (fd other) = poller.epoll (fd other))
        (outside : left.epoll (fd id) = none)
      (proper : ∀ call ∈ left.calls, call.Proper) : Sound fd (left.setIndex id .new) ∧
        (∀ other, other ≠ id → (left.setIndex id .new).channel other = poller.channel other) ∧
          ((left.setIndex id .new).channel id).index = .new := by
    have kept (other : Id) (differs : other ≠ id) : (left.setIndex id .new).channel other = poller.channel other := by
      rw [setIndex, set_channel_of_ne differs, sameChannel, frames.channel other differs]
    have itself : (left.setIndex id .new).channel id =
        { poller.channel id with addedToLoop := false, index := .new } := by
      rw [setIndex, set_channel_self, sameChannel, erasedId]
    refine ⟨sound.of_frames ⟨kept, fun other differs => ?_, others⟩ ?_ ?_ ?_ proper, kept, by rw [itself]⟩
    · rw [setIndex, set_channels, sameChannels]
      exact frames.channels other differs
    · rw [itself, setIndex, set_channels, sameChannels]
      exact absent
    · rw [itself]
      exact outside
    · rw [itself]
      exact fun _ => quiet
  rw [removed]
  by_cases isAdded : (poller.channel id).index = .added
  · rw [if_pos isAdded] at polled ⊢
    have inside : (erased.epoll (fd id)).isSome = true := by
      rw [sameEpoll, polled]
      rfl
    obtain ⟨after, done, rest, sameChannel, sameChannels, epoll, proper⟩ := update_ok .del distinct
      (iff_of_true inside (by decide)) (by rw [sameCalls]; exact sound.proper)
    refine ⟨after.setIndex id
      .new, by rw [done]; rfl, leaves sameChannel sameChannels (fun other differs => ?_) epoll proper⟩
    rw [rest.epoll other differs, sameEpoll]
  · rw [if_neg isAdded] at polled ⊢
    refine ⟨erased.setIndex id .new, rfl, leaves rfl rfl (fun other _ => ?_) ?_ ?_⟩
    · rw [sameEpoll]
    · rw [sameEpoll, polled]
    · rw [sameCalls]
      exact sound.proper

/-- The channel and what the poller has of it, as the model of a connection keeps them. -/
def seen (fd : Id → Int) (id : Id) (poller : Poller Id) : Channel where
  reading := (poller.channel id).events.reading
  writing := (poller.channel id).events.writing
  index := (poller.channel id).index
  listed := poller.channels (fd id) = some id
  polled := (poller.epoll (fd id)).isSome
  addedToLoop := (poller.channel id).addedToLoop

/-- One channel of many behaves as a channel by itself. -/
theorem seen_change (distinct : Function.Injective fd) (sound : Sound fd poller) (id : Id)
    (events : Interest → Interest) : (poller.change fd id events).map (seen fd id) =
      ({ seen fd id poller with
        reading := (events (poller.channel id).events).reading
        writing := (events (poller.channel id).events).writing } : Channel).update := by
  obtain ⟨after, changed, soundAfter, -, itself⟩ := change_ok distinct sound id events
  have listed := sound.listed id
  have polled := sound.polled id
  have listedAfter := soundAfter.listed id
  have polledAfter := soundAfter.polled id
  rw [itself] at listedAfter polledAfter
  rw [changed]
  cases index : (poller.channel id).index with
  | new | deleted =>
    simp only [index, reduceCtorEq, false_and, if_false, if_true] at listed polled itself listedAfter polledAfter
    simp [Except.map, seen, Channel.update, Channel.epollAdd, itself, index, listed, polled, listedAfter, polledAfter]
  | added =>
    simp only [index, reduceCtorEq, true_and, if_false, if_true] at listed polled itself listedAfter polledAfter
    by_cases unwatched : events (poller.channel id).events = .none
    · simp [Except.map, seen, Channel.update, Channel.isNoneEvent, itself, index, listed, polled,
        listedAfter, polledAfter,
        unwatched, Interest.none]
    · have busy : ((events (poller.channel id).events).reading || (events (poller.channel id).events).writing) = true := by
        rw [Interest.eq_none_iff, ← Bool.or_eq_false_iff, Bool.not_eq_false] at unwatched
        exact unwatched
      simp [Except.map, seen, Channel.update, Channel.isNoneEvent, Channel.epollMod, itself, index, listed, polled,
        listedAfter, polledAfter, unwatched, ← Bool.not_or, busy]

/-! ## All calls -/

theorem perform_ok (distinct : Function.Injective fd) (sound : Sound fd poller) {call : Call Id}
    (removable : Removable fd poller call) : ∃ after, poller.step fd call = some after ∧ Sound fd after := by
  have done {result : Except Failure (Poller Id)} (ok : ∃ after, result = .ok after ∧ Sound fd after) :
      ∃ after, result.toOption = some after ∧ Sound fd after := by
    obtain ⟨after, rfl, soundAfter⟩ := ok
    exact ⟨after, rfl, soundAfter⟩
  have changes (id : Id) (events : Interest → Interest) :
      ∃ after, (poller.change fd id events).toOption = some after ∧ Sound fd after := by
    obtain ⟨after, changed, soundAfter, -⟩ := change_ok distinct sound id events
    exact done ⟨after, changed, soundAfter⟩
  cases call with
  | enableReading id => exact changes id _
  | disableReading id => exact changes id _
  | enableWriting id => exact changes id _
  | disableWriting id => exact changes id _
  | disableAll id => exact changes id _
  | remove id =>
    obtain ⟨after, removed, soundAfter, -⟩ := remove_ok distinct sound removable.1 removable.2
    exact done ⟨after, removed, soundAfter⟩

/-- No assertion fails and no call of `epoll_ctl` is out of place, whatever is disabled. -/
theorem follow_sound (distinct : Function.Injective fd) (sound : Sound fd poller) {calls : List (Call Id)}
    (removable : Throughout (step fd) (Removable fd) poller calls) :
    ∃ final, follow (step fd) poller calls = some final ∧ Sound fd final := by
  induction calls generalizing poller with
  | nil => exact ⟨poller, rfl, sound⟩
  | cons call calls ih =>
    obtain ⟨after, taken, soundAfter⟩ := perform_ok distinct sound removable.1
    obtain ⟨final, run, soundFinal⟩ := ih soundAfter (removable.2 after taken)
    exact ⟨final, by rw [follow_cons, taken]; exact run, soundFinal⟩

omit [DecidableEq Id] in
/-- What is out of step in the poller can only be channels in the epoll set without events. -/
theorem mirrors_iff (sound : Sound fd poller) : Mirrors fd poller ↔ Busy poller := by
  constructor
  · intro mirrors id isAdded
    have inside := sound.polled id
    rw [if_pos isAdded] at inside
    exact ((mirrors.polled id _).mp inside).1
  · intro busy
    refine ⟨fun id entry => ?_, fun id => ?_, fun id => ?_, sound.proper⟩
    · rw [sound.polled]
      by_cases isAdded : (poller.channel id).index = .added
      · rw [if_pos isAdded, and_iff_right (busy id isAdded), Option.some.injEq, eq_comm]
      · rw [if_neg isAdded]
        exact iff_of_false (by simp) fun both => both.1 (sound.quiet id isAdded)
    · rw [sound.polled]
      by_cases isAdded : (poller.channel id).index = .added
      · simp [isAdded]
      · simp [isAdded]
    · rw [sound.listed]
      by_cases isNew : (poller.channel id).index = .new
      · simp [isNew]
      · simp [isNew]

theorem busy_of_others (busy : Busy poller)
    (others : ∀ other, other ≠ id → after.channel other = poller.channel other) :
    Busy after ↔ ((after.channel id).index = .added → (after.channel id).events ≠ .none) := by
  refine ⟨fun busyAfter => busyAfter id, fun itself other => ?_⟩
  by_cases same : other = id
  · rw [same]
    exact itself
  · rw [others other same]
    exact busy other

/-- After a change, no channel is in the epoll set without events, unless the change finds none and leaves none. -/
theorem change_busy_iff (distinct : Function.Injective fd) (sound : Sound fd poller) (busy : Busy poller)
    {events : Interest → Interest} (changed : poller.change fd id events = .ok after) :
    Busy after ↔ (poller.channel id).events ≠ .none ∨ events (poller.channel id).events ≠ .none := by
  obtain ⟨after', changed', -, others, itself⟩ := change_ok distinct sound id events
  cases changed.symm.trans changed'
  rw [busy_of_others busy others, itself]
  by_cases unwatched : events (poller.channel id).events = .none
  · by_cases isAdded : (poller.channel id).index = .added
    · simp only [if_pos (And.intro isAdded unwatched)]
      exact iff_of_true (fun impossible => by cases impossible) (.inl (busy id isAdded))
    · simp only [isAdded, false_and, if_false]
      exact iff_of_false (fun kept => kept trivial unwatched)
        fun either => either.elim (fun some => some (sound.quiet id isAdded)) fun some => some unwatched
  · exact iff_of_true (fun _ => unwatched) (.inr unwatched)

theorem step_busy_iff (distinct : Function.Injective fd) (sound : Sound fd poller) (busy : Busy poller) {call : Call Id}
    (removable : Removable fd poller call) (taken : poller.step fd call = some after) :
    Busy after ↔ HasEvents poller call := by
  have changed {id : Id} {events : Interest → Interest} (taken : (poller.change fd id events).toOption = some after) :
      Busy after ↔ (poller.channel id).events ≠ .none ∨ events (poller.channel id).events ≠ .none := by
    obtain ⟨after', done, -⟩ := change_ok distinct sound id events
    rw [done] at taken
    cases taken
    exact change_busy_iff distinct sound busy done
  have enables {id : Id} {events : Interest → Interest} (leaves : ∀ before, events before ≠ .none)
      (taken : (poller.change fd id events).toOption = some after) : Busy after ↔ True := by
    rw [changed taken]
    exact iff_true_intro (.inr (leaves _))
  have disables {id : Id} {events : Interest → Interest} (unwatched : events .none = .none)
      (taken : (poller.change fd id events).toOption = some after) : Busy after ↔
        (poller.channel id).events ≠ .none := by
    rw [changed taken]
    refine or_iff_left_of_imp fun left isNone => left ?_
    rw [isNone, unwatched]
  cases call with
  | enableReading id => exact enables (fun _ same => Bool.noConfusion (congrArg Interest.reading same)) taken
  | disableReading id => exact disables rfl taken
  | enableWriting id => exact enables (fun _ same => Bool.noConfusion (congrArg Interest.writing same)) taken
  | disableWriting id => exact disables rfl taken
  | disableAll id => exact disables rfl taken
  | remove id =>
    obtain ⟨after', done, -, others, itsIndex⟩ := remove_ok distinct sound removable.1 removable.2
    have same : after' = after := by
      have taken : (poller.remove fd id).toOption = some after := taken
      rw [done] at taken
      exact Option.some.inj taken
    subst same
    rw [busy_of_others busy others, itsIndex]
    exact iff_of_true (fun impossible => by cases impossible) trivial

omit [DecidableEq Id] in
theorem sound_initial : Sound fd (initial : Poller Id) :=
  ⟨fun _ => rfl, fun _ => rfl, fun _ _ => rfl, fun _ member => by cases member⟩

omit [DecidableEq Id] in
theorem busy_initial : Busy (initial : Poller Id) := fun _ impossible => by cases impossible

/-- In every run the calls succeed and the poller stays sound; and after every call its map, its indices and the
epoll set mirror the events of the channels exactly when no channel without events is disabled. -/
theorem mirrors_throughout_iff (distinct : Function.Injective fd) {calls : List (Call Id)}
    (removable : Throughout (step fd) (Removable fd) initial calls) :
    (∃ final, follow (step fd) initial calls = some final ∧ Sound fd final) ∧
      (Throughout (step fd) (fun poller call => ∃ after, poller.step fd call = some after ∧
        Mirrors fd after) initial calls ↔
        Throughout (step fd) HasEvents initial calls) := by
  refine ⟨follow_sound distinct sound_initial removable, ?_⟩
  refine throughout_iff (fun poller => Sound fd poller ∧ Busy poller) ?_ ?_ ⟨sound_initial, busy_initial⟩ removable
  · rintro poller call ⟨sound, busy⟩ removes
    obtain ⟨after, taken, soundAfter⟩ := perform_ok distinct sound removes
    rw [← step_busy_iff distinct sound busy removes taken, ← mirrors_iff soundAfter]
    constructor
    · rintro ⟨after', taken', mirrors⟩
      cases taken.symm.trans taken'
      exact mirrors
    · exact fun mirrors => ⟨after, taken, mirrors⟩
  · rintro poller call after ⟨sound, busy⟩ removes ⟨after', taken', mirrors⟩ taken
    cases taken.symm.trans taken'
    obtain ⟨after'', taken'', soundAfter⟩ := perform_ok distinct sound removes
    cases taken.symm.trans taken''
    exact ⟨soundAfter, (mirrors_iff soundAfter).mp mirrors⟩

instance (poller : Poller Id) : (call : Call Id) → Decidable (Removable fd poller call)
  | .remove _ => inferInstanceAs (Decidable (_ ∧ _))
  | .enableReading _ | .disableReading _ | .enableWriting _ | .disableWriting _ | .disableAll _ => isTrue trivial

instance (poller : Poller Id) : (call : Call Id) → Decidable (HasEvents poller call)
  | .disableReading _ | .disableWriting _ | .disableAll _ => inferInstanceAs (Decidable (_ ≠ _))
  | .enableReading _ | .enableWriting _ | .remove _ => isTrue trivial

end

/-! ## Two channels -/

/-- The first is enabled, disabled, removed and enabled again while the second stays. -/
def twoChannels : List (Call Nat) := [.enableReading 0, .enableWriting 1, .disableAll 0, .remove 0, .enableReading 0]

theorem mirrors_twoChannels :
    Throughout (step Int.ofNat)
      (fun poller call => ∃ after, Poller.step Int.ofNat poller call = some after ∧
        Mirrors Int.ofNat after) initial twoChannels := by
  have removable : Throughout (step Int.ofNat) (fun poller call => Removable Int.ofNat poller call) initial
      twoChannels := by
    simpa only [decide_eq_true_eq] using (@throughout_of_followAllowed _ _ (step Int.ofNat)
      (fun poller call => decide (Removable Int.ofNat poller call)) _ _ (by decide +kernel)).2
  have hasEvents : Throughout (step Int.ofNat) HasEvents initial twoChannels := by
    simpa only [decide_eq_true_eq] using (@throughout_of_followAllowed _ _ (step Int.ofNat)
      (fun poller call => decide (HasEvents poller call)) _ _ (by decide +kernel)).2
  exact (mirrors_throughout_iff (fun _ _ same => Int.ofNat.inj same) removable).2.mpr hasEvents

/-- An acceptor that never listened is destroyed: the channel gets into the epoll set with no events. -/
theorem disableAll_unused : ¬ ∀ (Id : Type) [DecidableEq Id] (fd : Id → Int)
    (calls : List (Call Id)), Function.Injective fd → Throughout (step fd) (Removable fd) initial calls →
      Throughout (step fd)
        (fun poller call => ∃ after, poller.step fd call = some after ∧ Mirrors fd after) initial calls := by
  intro mirrors
  have removable : Throughout (step Int.ofNat) (Removable Int.ofNat) initial [Call.disableAll 0] :=
    ⟨trivial, fun _ _ => trivial⟩
  obtain ⟨after, taken, mirrored⟩ :=
    (mirrors Nat Int.ofNat [.disableAll 0] (fun _ _ same => Int.ofNat.inj same) removable).1
  have inside : after.epoll (Int.ofNat 0) = some ⟨.none, 0⟩ := by
    cases taken
    rfl
  have channel : (after.channel 0).events = .none := by
    cases taken
    rfl
  exact ((mirrored.polled 0 _).mp inside).1 channel

end Poller

end EdgeFlow.Network
