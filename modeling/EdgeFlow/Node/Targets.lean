import EdgeFlow.Library.Keyed
import EdgeFlow.Node.ChannelObj

/-! What a channel is subscribed to, and the SUB sockets it has for that. -/

set_option autoImplicit false

namespace EdgeFlow.Node
open Library Library.Printf

inductive Target where
  /-- the input of the session itself -/
  | own
  | workId (workId : Bytes)
  | url (zmqUrl : Bytes)
  deriving DecidableEq

/-- `subscriber_work_id` with an empty work id. -/
def Target.ofWorkId (workId : Bytes) : Target := if workId = [] then .own else .workId workId

inductive TargetCall where
  /-- with what `sql_select` answers -/
  | subscriberWorkId (sqlSelect : Bytes → Bytes) (workId : Bytes)
  | stopSubscriberWorkId (workId : Bytes)
  | subscriber (zmqUrl : Bytes)
  | stopSubscriber (zmqUrl : Bytes)

def TargetCall.target : TargetCall → Target
  | .subscriberWorkId _ workId | .stopSubscriberWorkId workId => .ofWorkId workId
  | .subscriber zmqUrl | .stopSubscriber zmqUrl => .url zmqUrl

/-- A channel, and the URL of each target that is subscribed and has not been stopped since. -/
structure Targets where
  channel : LlmChannelObj
  live : Target → Option Bytes

namespace Targets

/-- What a call is meant to do. -/
def record (targets : Targets) : TargetCall → Target → Option Bytes
  | .subscriberWorkId sqlSelect workId =>
    Function.update targets.live (.ofWorkId workId) (some (targets.channel.workIdUrl sqlSelect workId))
  | .stopSubscriberWorkId workId => Function.update targets.live (.ofWorkId workId) none
  | .subscriber zmqUrl => Function.update targets.live (.url zmqUrl) (some zmqUrl)
  | .stopSubscriber zmqUrl => Function.update targets.live (.url zmqUrl) none

/-- What a call does; `std::stoi` throws before anything is changed. -/
def call (channel : LlmChannelObj) : TargetCall → LlmChannelObj
  | .subscriberWorkId sqlSelect workId =>
    match channel.subscriberWorkId sqlSelect workId with
    | .ok (_, after) => { channel with toChannel := after }
    | .error _ => channel
  | .stopSubscriberWorkId workId =>
    match channel.stopSubscriberWorkId workId with
    | .ok after => { channel with toChannel := after }
    | .error _ => channel
  | .subscriber zmqUrl => channel.subscriber zmqUrl
  | .stopSubscriber zmqUrl => { channel with toChannel := channel.stopSubscriber zmqUrl }

def step (targets : Targets) (made : TargetCall) : Option Targets :=
  some ⟨call targets.channel made, targets.record made⟩

/-- The key in `zmq_` that a target has. -/
def key (channel : LlmChannelObj) : Target → Option Int
  | .own => some 0
  | .workId workId => (Channel.idNum workId).toOption
  | .url zmqUrl => channel.zmqUrlMap zmqUrl

/-- The URL of a SUB socket. -/
def subscribedUrl : Option Socket → Option Bytes
  | some ⟨.sub, url⟩ => some url
  | _ => none

/-- The SUB sockets of `zmq_` are one for each target that is subscribed. -/
def Exact (targets : Targets) : Prop :=
  Keyed.Exact (key targets.channel) targets.live fun idNum => subscribedUrl (targets.channel.zmq idNum)

/-- Calls with work ids `name.number` that `sql_select` knows, and with URLs. -/
def WellFormed : TargetCall → Prop
  | .subscriberWorkId sqlSelect workId =>
    workId = [] ∨ (Channel.matchNumber workId).isSome ∧ sqlSelect (workId ++ ascii ".out_port") ≠ []
  | .stopSubscriberWorkId workId => workId = [] ∨ (Channel.matchNumber workId).isSome
  | .subscriber zmqUrl | .stopSubscriber zmqUrl => zmqUrl ≠ []

/-- No other target that is subscribed has this key. -/
def Unshared (targets : Targets) (target : Target) (idNum : Int) : Prop :=
  ∀ other, (targets.live other).isSome → key targets.channel other = some idNum → other = target

/-- The key a call works on is an `int` and no other target's, no URL is subscribed twice, and the counter has not come
round to a key in use. -/
def Separate (targets : Targets) : TargetCall → Prop
  | .subscriberWorkId _ workId => ∃ idNum, Channel.idNum workId = .ok idNum ∧ Unshared targets (.ofWorkId workId) idNum
  | .stopSubscriberWorkId workId => ∀ idNum, Channel.idNum workId = .ok idNum →
      Unshared targets (.ofWorkId workId) idNum
  | .subscriber zmqUrl =>
    targets.live (.url zmqUrl) = none ∧ targets.channel.zmqUrlIndex ≠ -1 ∧ targets.channel.zmqUrlIndex ≠ -2 ∧
      ∀ other, (targets.live other).isSome → key targets.channel other ≠ some targets.channel.zmqUrlIndex
  | .stopSubscriber _ => True

/-! ## Keys -/

theorem key_ofWorkId (channel : LlmChannelObj) (workId : Bytes) :
    key channel (.ofWorkId workId) = (Channel.idNum workId).toOption := by
  unfold Target.ofWorkId
  split
  · next empty =>
    subst empty
    rfl
  · rfl

theorem ofWorkId_ne_url (workId zmqUrl : Bytes) : Target.ofWorkId workId ≠ .url zmqUrl := by
  unfold Target.ofWorkId
  split
  · exact Target.noConfusion
  · exact Target.noConfusion

theorem subscribedUrl_update (zmq : Int → Option Socket) (idNum : Int) (socket : Option Socket) :
    (fun other => subscribedUrl (Function.update zmq idNum socket other)) =
      Function.update (fun other => subscribedUrl (zmq other)) idNum (subscribedUrl socket) := by
  funext other
  by_cases same : other = idNum
  · subst same
    rw [Function.update_self, Function.update_self]
  · rw [Function.update_of_ne same, Function.update_of_ne same]

/-- The keys that `subscriber` has given out are those of URLs that are subscribed, and not those of the results. -/
structure Mapped (targets : Targets) : Prop where
  isLive : ∀ zmqUrl idNum, targets.channel.zmqUrlMap zmqUrl = some idNum → (targets.live (.url zmqUrl)).isSome
  spare : ∀ zmqUrl idNum, targets.channel.zmqUrlMap zmqUrl = some idNum → idNum ≠ -1 ∧ idNum ≠ -2

/-- What a call leaves as it was: the sockets of results, and those of all other targets under their keys. -/
structure Untouched (before after : LlmChannelObj) (live : Target → Option Bytes) (target : Target) : Prop where
  pub : after.zmq (-1) = before.zmq (-1)
  push : after.zmq (-2) = before.zmq (-2)
  others : ∀ other idNum, other ≠ target → (live other).isSome → key before other = some idNum →
    key after other = some idNum ∧ after.zmq idNum = before.zmq idNum

theorem untouched_refl (channel : LlmChannelObj) (live : Target → Option Bytes) (target : Target) :
    Untouched channel channel live target :=
  ⟨rfl, rfl, fun _ _ _ _ found => ⟨found, rfl⟩⟩

variable {targets : Targets}

/-- One entry of `zmq_` is changed, which is no other target's and not of the results. -/
theorem untouched_update {zmqUrlMap : Bytes → Option Int} {zmqUrlIndex : Int} {target : Target} {idNum : Int}
    (socket : Option Socket) (notPub : idNum ≠ -1) (notPush : idNum ≠ -2) (unshared : Unshared targets target idNum)
    (others : ∀ zmqUrl, .url zmqUrl ≠ target → zmqUrlMap zmqUrl = targets.channel.zmqUrlMap zmqUrl) :
    Untouched targets.channel { targets.channel with
      zmq := Function.update targets.channel.zmq idNum socket
      zmqUrlMap
      zmqUrlIndex } targets.live target where
  pub := Function.update_of_ne notPub.symm ..
  push := Function.update_of_ne notPush.symm ..
  others other found different isLive same := by
    refine ⟨?_, Function.update_of_ne ?_ ..⟩
    · cases other with
      | own => exact same
      | workId workId => exact same
      | url zmqUrl => exact (others zmqUrl different).trans same
    · rintro rfl
      exact different (unshared other isLive same)

/-- All that a call can do: one target gets or loses its socket. -/
structure Changes (targets : Targets) (made : TargetCall) (idNum : Int) (value : Option Bytes)
    (zmqUrlMap : Bytes → Option Int) (zmqUrlIndex : Int) : Prop where
  call : call targets.channel made = { targets.channel with
    zmq := Function.update targets.channel.zmq idNum (value.map (Socket.mk .sub))
    zmqUrlMap
    zmqUrlIndex }
  record : targets.record made = Function.update targets.live made.target value
  notPub : idNum ≠ -1
  notPush : idNum ≠ -2
  unshared : Unshared targets made.target idNum
  vacated : (targets.live made.target).isSome → key targets.channel made.target = some idNum
  placed : value.isSome → key { targets.channel with zmqUrlMap } made.target = some idNum
  others : ∀ zmqUrl, .url zmqUrl ≠ made.target → zmqUrlMap zmqUrl = targets.channel.zmqUrlMap zmqUrl
  own : ∀ zmqUrl, .url zmqUrl = made.target → zmqUrlMap zmqUrl = value.map fun _ => idNum

/-- A call changes nothing, or the one entry of its target. -/
def Made (targets : Targets) (made : TargetCall) : Prop :=
  (call targets.channel made = targets.channel ∧ targets.record made = targets.live) ∨
    ∃ idNum value zmqUrlMap zmqUrlIndex, targets.Changes made idNum value zmqUrlMap zmqUrlIndex

theorem made_subscriberWorkId {sqlSelect : Bytes → Bytes} {workId : Bytes}
    (wellFormed : WellFormed (.subscriberWorkId sqlSelect workId))
    (separate : targets.Separate (.subscriberWorkId sqlSelect workId)) :
    targets.Made (.subscriberWorkId sqlSelect workId) := by
  obtain ⟨idNum, number, unshared⟩ := separate
  have isKey : key targets.channel (.ofWorkId workId) = some idNum := by
    rw [key_ofWorkId, number]
    rfl
  have answered : ¬ ((Channel.matchNumber workId).isSome = true ∧ targets.channel.workIdUrl sqlSelect workId = []) := by
    rintro ⟨isMatch, empty⟩
    rcases wellFormed with rfl | ⟨-, known⟩
    · cases isMatch
    · rw [Channel.workIdUrl, if_pos isMatch] at empty
      exact known empty
  have nonneg := Channel.idNum_nonneg number
  refine .inr ⟨idNum, some (targets.channel.workIdUrl sqlSelect workId), targets.channel.zmqUrlMap,
    targets.channel.zmqUrlIndex, ?_⟩
  exact {
    call := by simp only [Targets.call, Channel.subscriberWorkId_eq, number, if_neg answered, Option.map_some]
    record := rfl
    notPub := by omega
    notPush := by omega
    unshared
    vacated := fun _ => isKey
    placed := fun _ => isKey
    others := fun _ _ => rfl
    own := fun zmqUrl same => absurd same.symm (ofWorkId_ne_url workId zmqUrl) }

theorem made_stopSubscriberWorkId (exact : targets.Exact) {workId : Bytes}
    (separate : targets.Separate (.stopSubscriberWorkId workId)) : targets.Made (.stopSubscriberWorkId workId) := by
  cases number : Channel.idNum workId with
  | error error =>
    -- a number that is no `int` was not subscribed either
    have noKey : key targets.channel (.ofWorkId workId) = none := by
      rw [key_ofWorkId, number]
      rfl
    refine .inl ⟨by simp only [call, Channel.stopSubscriberWorkId_eq, number], ?_⟩
    exact Function.update_eq_self_iff.mpr (exact.not_held noKey).symm
  | ok idNum =>
    have isKey : key targets.channel (.ofWorkId workId) = some idNum := by
      rw [key_ofWorkId, number]
      rfl
    have nonneg := Channel.idNum_nonneg number
    refine .inr ⟨idNum, none, targets.channel.zmqUrlMap, targets.channel.zmqUrlIndex, ?_⟩
    exact {
      call := by simp only [Targets.call, Channel.stopSubscriberWorkId_eq, number, Option.map_none]
      record := rfl
      notPub := by omega
      notPush := by omega
      unshared := separate idNum number
      vacated := fun _ => isKey
      placed := fun isSome => by cases isSome
      others := fun _ _ => rfl
      own := fun zmqUrl same => absurd same.symm (ofWorkId_ne_url workId zmqUrl) }

theorem made_subscriber {zmqUrl : Bytes} (separate : targets.Separate (.subscriber zmqUrl)) :
    targets.Made (.subscriber zmqUrl) := by
  obtain ⟨isNew, notPub, notPush, free⟩ := separate
  refine .inr ⟨targets.channel.zmqUrlIndex, some zmqUrl,
    Function.update targets.channel.zmqUrlMap zmqUrl (some targets.channel.zmqUrlIndex),
    (targets.channel.subscriber zmqUrl).zmqUrlIndex, ?_⟩
  exact {
    call := rfl
    record := rfl
    notPub
    notPush
    unshared := fun other isLive same => absurd same (free other isLive)
    vacated := fun isLive => by
      rw [show (TargetCall.subscriber zmqUrl).target = .url zmqUrl from rfl, isNew] at isLive
      cases isLive
    placed := fun _ => Function.update_self ..
    others := fun other different => Function.update_of_ne (fun same => different (congrArg Target.url same)) ..
    own := fun other same => by
      cases same
      exact Function.update_self .. }

theorem made_stopSubscriber (exact : targets.Exact) (mapped : targets.Mapped) {zmqUrl : Bytes}
    (wellFormed : WellFormed (.stopSubscriber zmqUrl)) : targets.Made (.stopSubscriber zmqUrl) := by
  have nonempty : zmqUrl ≠ [] := wellFormed
  cases found : targets.channel.zmqUrlMap zmqUrl with
  | none =>
    have noKey : key targets.channel (.url zmqUrl) = none := found
    refine .inl ⟨by simp only [call, Channel.stopSubscriber, if_neg nonempty, found], ?_⟩
    exact Function.update_eq_self_iff.mpr (exact.not_held noKey).symm
  | some idNum =>
    have isLive := mapped.isLive zmqUrl idNum found
    refine .inr ⟨idNum, none, Function.update targets.channel.zmqUrlMap zmqUrl none, targets.channel.zmqUrlIndex, ?_⟩
    exact {
      call := by simp only [Targets.call, Channel.stopSubscriber, if_neg nonempty, found, Option.map_none]
      record := rfl
      notPub := (mapped.spare zmqUrl idNum found).1
      notPush := (mapped.spare zmqUrl idNum found).2
      unshared := fun other otherLive same => exact.apart other (.url zmqUrl) idNum otherLive isLive same found
      vacated := fun _ => found
      placed := fun isSome => by cases isSome
      others := fun other different => Function.update_of_ne (fun same => different (congrArg Target.url same)) ..
      own := fun other same => by
        cases same
        exact Function.update_self .. }

theorem made_of_separate (exact : targets.Exact) (mapped : targets.Mapped) {made : TargetCall}
    (wellFormed : WellFormed made) (separate : targets.Separate made) : targets.Made made := by
  cases made with
  | subscriberWorkId sqlSelect workId => exact made_subscriberWorkId wellFormed separate
  | stopSubscriberWorkId workId => exact made_stopSubscriberWorkId exact separate
  | subscriber zmqUrl => exact made_subscriber separate
  | stopSubscriber zmqUrl => exact made_stopSubscriber exact mapped wellFormed

/-! ## What is kept -/

theorem subscribedUrl_sub (value : Option Bytes) : subscribedUrl (value.map (Socket.mk .sub)) = value := by
  cases value with
  | none => rfl
  | some url => rfl

theorem Changes.key_others {made : TargetCall} {idNum : Int} {value : Option Bytes} {zmqUrlMap : Bytes → Option Int}
    {zmqUrlIndex : Int} (changes : targets.Changes made idNum value zmqUrlMap zmqUrlIndex) {other : Target}
    (different : other ≠ made.target) :
    key { targets.channel with zmqUrlMap } other = key targets.channel other := by
  cases other with
  | own => rfl
  | workId workId => rfl
  | url zmqUrl => exact changes.others zmqUrl different

theorem Made.exact (exact : targets.Exact) {made : TargetCall} (isMade : targets.Made made) :
    Exact ⟨call targets.channel made, targets.record made⟩ := by
  rcases isMade with ⟨same, sameRecord⟩ | ⟨idNum, value, zmqUrlMap, zmqUrlIndex, changes⟩
  · rw [same, sameRecord]
    exact exact
  · rw [changes.call, changes.record, Exact]
    simp only [subscribedUrl_update, subscribedUrl_sub]
    apply Keyed.Exact.update exact
    · intro other different
      exact changes.key_others different
    · intro other different isLive same
      exact different (changes.unshared other isLive same)
    · exact changes.vacated
    · exact changes.placed

theorem Made.mapped (mapped : targets.Mapped) {made : TargetCall} (isMade : targets.Made made) :
    Mapped ⟨call targets.channel made, targets.record made⟩ := by
  rcases isMade with ⟨same, sameRecord⟩ | ⟨idNum, value, zmqUrlMap, zmqUrlIndex, changes⟩
  · rw [same, sameRecord]
    exact mapped
  · rw [changes.call, changes.record]
    constructor
    · intro zmqUrl other found
      change zmqUrlMap zmqUrl = some other at found
      by_cases own : .url zmqUrl = made.target
      · rw [changes.own zmqUrl own] at found
        obtain ⟨url, isSome, -⟩ := Option.map_eq_some_iff.mp found
        simp only [own, Function.update_self, isSome, Option.isSome_some]
      · rw [changes.others zmqUrl own] at found
        simp only [Function.update_of_ne own]
        exact mapped.isLive zmqUrl other found
    · intro zmqUrl other found
      change zmqUrlMap zmqUrl = some other at found
      by_cases own : .url zmqUrl = made.target
      · rw [changes.own zmqUrl own] at found
        obtain ⟨url, -, rfl⟩ := Option.map_eq_some_iff.mp found
        exact ⟨changes.notPub, changes.notPush⟩
      · rw [changes.others zmqUrl own] at found
        exact mapped.spare zmqUrl other found

theorem Made.untouched {made : TargetCall} (isMade : targets.Made made) :
    Untouched targets.channel (call targets.channel made) targets.live made.target := by
  rcases isMade with ⟨same, -⟩ | ⟨idNum, value, zmqUrlMap, zmqUrlIndex, changes⟩
  · rw [same]
    exact untouched_refl ..
  · rw [changes.call]
    exact untouched_update _ changes.notPub changes.notPush changes.unshared changes.others

/-! ## Runs -/

def created (flags : Bool × Bool) (publisherUrl inferenceUrl unitName : Bytes) : Targets :=
  ⟨.create flags publisherUrl inferenceUrl unitName, fun _ => none⟩

theorem exact_created (flags : Bool × Bool) (publisherUrl inferenceUrl unitName : Bytes) :
    (created flags publisherUrl inferenceUrl unitName).Exact := by
  have noSub : (fun idNum => subscribedUrl ((created flags publisherUrl inferenceUrl unitName).channel.zmq idNum)) =
      fun _ => none := by
    funext idNum
    by_cases pub : idNum = -1
    · subst pub
      rfl
    · have empty : (created flags publisherUrl inferenceUrl unitName).channel.zmq idNum = none := by
        simp [created, LlmChannelObj.create, Channel.create, pub]
      rw [empty]
      rfl
  rw [Exact, noSub]
  exact Keyed.exact_empty _

theorem mapped_created (flags : Bool × Bool) (publisherUrl inferenceUrl unitName : Bytes) :
    (created flags publisherUrl inferenceUrl unitName).Mapped where
  isLive _ _ found := by cases found
  spare _ _ found := by cases found

/-- Calls that are well formed and keep targets apart. -/
def Allowed (targets : Targets) (made : TargetCall) : Prop := WellFormed made ∧ targets.Separate made

variable {flags : Bool × Bool} {publisherUrl inferenceUrl unitName : Bytes}

theorem reaches_exact (run : Reaches step Allowed (created flags publisherUrl inferenceUrl unitName) targets) :
    targets.Exact ∧ targets.Mapped := by
  apply run.invariant fun targets => targets.Exact ∧ targets.Mapped
  · exact ⟨exact_created .., mapped_created ..⟩
  · rintro targets made after ⟨exact, mapped⟩ ⟨wellFormed, separate⟩ taken
    cases taken
    have isMade := made_of_separate exact mapped wellFormed separate
    exact ⟨isMade.exact exact, isMade.mapped mapped⟩

/-- Where calls keep their targets apart, the SUB sockets are one for each target that is subscribed, and each call
leaves the sockets of all other targets and of the results as they are. -/
theorem subscriptions_exact (run : Reaches step Allowed (created flags publisherUrl inferenceUrl unitName) targets) :
    targets.Exact ∧ ∀ made, Allowed targets made →
      Untouched targets.channel (call targets.channel made) targets.live made.target := by
  obtain ⟨exact, mapped⟩ := reaches_exact run
  refine ⟨exact, fun made allowed => ?_⟩
  exact (made_of_separate exact mapped allowed.1 allowed.2).untouched

/-- The session's own input and a URL. -/
theorem subscriptions_exact_two : ∃ targets : Targets, targets.live .own = some (ascii "ipc:///tmp/own") ∧
    targets.live (.url (ascii "ipc:///tmp/a")) = some (ascii "ipc:///tmp/a") ∧ targets.Exact := by
  let start := created (false, false) [] (ascii "ipc:///tmp/own") []
  let own : TargetCall := .subscriberWorkId (fun _ => []) []
  let url : TargetCall := .subscriber (ascii "ipc:///tmp/a")
  have nobody : ∀ other, start.live other = none := fun _ => rfl
  have first : Allowed start own := by
    refine ⟨.inl rfl, 0, rfl, fun other isLive => ?_⟩
    rw [nobody] at isLive
    cases isLive
  have second : Allowed ⟨call start.channel own, start.record own⟩ url := by
    have nonempty : WellFormed url := show ascii "ipc:///tmp/a" ≠ [] by decide
    refine ⟨nonempty, rfl, by decide, by decide, fun other isLive => ?_⟩
    by_cases isOwn : other = .own
    · subst isOwn
      decide
    · change (Function.update start.live .own _ other).isSome = true at isLive
      rw [Function.update_of_ne isOwn, nobody] at isLive
      cases isLive
  have run : Reaches step Allowed start
      ⟨call (call start.channel own) url, record ⟨call start.channel own, start.record own⟩ url⟩ :=
    (Reaches.start.next first rfl).next second rfl
  exact ⟨_, rfl, rfl, (subscriptions_exact run).1⟩

/-- The session's own input has the number of the first unit. -/
theorem own_replaced : ¬ ∀ targets : Targets,
    Reaches step (fun _ made => WellFormed made) (created (false, false) [] (ascii "ipc:///tmp/own") []) targets →
      targets.Exact := by
  intro all
  let asr : TargetCall := .subscriberWorkId (fun _ => ascii "ipc:///tmp/asr") (ascii "asr.0")
  have known : WellFormed asr := .inr ⟨by decide, by decide⟩
  have first : Reaches step (fun _ made => WellFormed made) (created (false, false) [] (ascii "ipc:///tmp/own") [])
      ⟨_, _⟩ := Reaches.start.next (show WellFormed (.subscriberWorkId (fun _ => []) []) from .inl rfl) rfl
  obtain ⟨idNum, isKey, isSub⟩ := (all _ (first.next known rfl)).present .own (ascii "ipc:///tmp/own") rfl
  cases isKey
  exact absurd isSub (by decide)

end Targets

end EdgeFlow.Node
