import EdgeFlow.Library.Run
import EdgeFlow.Node.Channel

/-! All calls that change the sockets of an `llm_channel_obj`, and where its push
socket goes. -/

set_option autoImplicit false

namespace EdgeFlow.Node
open Library Library.Printf Library.Byte

namespace Channel

def cearPushUrl (channel : Channel) : Channel := { channel with zmq := Function.update channel.zmq (-2) none }

def stopSubscriberWorkId (workId : Bytes) (channel : Channel) : Except Fault Channel :=
  match matchNumber workId with
  | some digits =>
    match stoi digits with
    | .error error => .error (.stoi error)
    | .ok idNum => .ok { channel with zmq := Function.update channel.zmq idNum none }
  | none => .ok { channel with zmq := Function.update channel.zmq 0 none }

/-- `send_raw_to_usr`: what is sent and through which socket; there is nothing to send through where it returns -1. -/
def sendRawToUsr (raw : Bytes) (channel : Channel) : Option (Socket × Bytes) :=
  (channel.zmq (-2)).map fun push => (push, raw)

/-- `id_num` of a work id. -/
def idNum (workId : Bytes) : Except StoiError Int :=
  match matchNumber workId with
  | some digits => stoi digits
  | none => .ok 0

end Channel

/-- A channel with the counter that `subscriber` numbers its sockets by. -/
structure LlmChannelObj extends Channel where
  zmqUrlIndex : Int

namespace LlmChannelObj

def create (flags : Bool × Bool) (publisherUrl inferenceUrl unitName : Bytes) : LlmChannelObj where
  toChannel := .create flags publisherUrl inferenceUrl unitName
  zmqUrlIndex := -1000

def subscriber (zmqUrl : Bytes) (channel : LlmChannelObj) : LlmChannelObj :=
  let idNum := channel.zmqUrlIndex
  { channel with
    -- a `std::atomic<int>` wraps
    zmqUrlIndex := Int.bmod (idNum - 1) (2 ^ 32)
    zmqUrlMap := Function.update channel.zmqUrlMap zmqUrl (some idNum)
    zmq := Function.update channel.zmq idNum (some ⟨.sub, zmqUrl⟩) }

end LlmChannelObj

namespace Channel

theorem matchNumber_isDigit {workId digits : Bytes} (isMatch : matchNumber workId = some digits) :
    ∀ b ∈ digits, isDigit b = true := by
  unfold matchNumber at isMatch
  extract_lets name at isMatch
  split at isMatch
  · split at isMatch
    · next shape =>
      cases isMatch
      exact List.all_eq_true.mp shape.2.2.2
    · cases isMatch
  · cases isMatch

theorem stoi_nonneg {digits : Bytes} (areDigits : ∀ b ∈ digits, isDigit b = true) {n : Int}
    (read : stoi digits = .ok n) : 0 ≤ n := by
  by_cases nonempty : digits = []
  · subst nonempty
    cases read
  · obtain ⟨noSpace, noSign⟩ := dropWhile_isSpace_digits nonempty areDigits []
    rw [List.append_nil] at noSpace noSign
    simp only [stoi, noSpace, noSign] at read
    split at read
    · cases read
    · split at read
      · cases read
        exact Int.natCast_nonneg _
      · cases read

/-- The number of a work id is not a key of the two sockets of results. -/
theorem idNum_nonneg {workId : Bytes} {number : Int} (read : idNum workId = .ok number) : 0 ≤ number := by
  unfold idNum at read
  split at read
  · next digits isMatch => exact stoi_nonneg (matchNumber_isDigit isMatch) read
  · cases read
    exact Int.le_refl 0

/-- The URL that a work id is subscribed at. -/
def workIdUrl (sqlSelect : Bytes → Bytes) (workId : Bytes) (channel : Channel) : Bytes :=
  if (matchNumber workId).isSome then sqlSelect (workId ++ ascii ".out_port") else channel.inferenceUrl

theorem subscriberWorkId_eq (sqlSelect : Bytes → Bytes) (workId : Bytes) (channel : Channel) :
    channel.subscriberWorkId sqlSelect workId =
      match idNum workId with
      | .error error => .error (.stoi error)
      | .ok idNum =>
        if (matchNumber workId).isSome ∧ channel.workIdUrl sqlSelect workId = [] then .ok (-1, channel)
        else .ok (0, { channel with
          zmq := Function.update channel.zmq idNum (some ⟨.sub, channel.workIdUrl sqlSelect workId⟩) }) := by
  unfold subscriberWorkId idNum workIdUrl
  cases matchNumber workId with
  | none => simp
  | some digits =>
    cases read : stoi digits with
    | error error => simp only [read]
    | ok number => simp [read]

theorem stopSubscriberWorkId_eq (workId : Bytes) (channel : Channel) :
    channel.stopSubscriberWorkId workId =
      match idNum workId with
      | .error error => .error (.stoi error)
      | .ok idNum => .ok { channel with zmq := Function.update channel.zmq idNum none } := by
  unfold stopSubscriberWorkId idNum
  cases matchNumber workId with
  | none => rfl
  | some digits =>
    cases read : stoi digits with
    | error error => simp only [read]
    | ok number => simp only [read]

end Channel

/-! ## The push socket -/

/-- The calls that the push socket may depend on. -/
inductive PushCall where
  | setPushUrl (url : Bytes)
  | cearPushUrl
  | stopSubscriber (zmqUrl : Bytes)
  | subscriber (zmqUrl : Bytes)
  /-- with what `sql_select` answers -/
  | subscriberWorkId (sqlSelect : Bytes → Bytes) (workId : Bytes)

/-- A channel, and the URL that was set last unless it has been taken back. -/
structure PushTarget where
  channel : LlmChannelObj
  wanted : Option Bytes

namespace PushTarget

def step (target : PushTarget) : PushCall → Option PushTarget
  | .setPushUrl url =>
    some ⟨{ target.channel with toChannel := target.channel.setPushUrl url }, some url⟩
  | .cearPushUrl =>
    some ⟨{ target.channel with toChannel := target.channel.cearPushUrl }, none⟩
  | .stopSubscriber zmqUrl =>
    some ⟨{ target.channel with toChannel := target.channel.stopSubscriber zmqUrl },
      if zmqUrl = [] then none else target.wanted⟩
  | .subscriber zmqUrl => some ⟨target.channel.subscriber zmqUrl, target.wanted⟩
  | .subscriberWorkId sqlSelect workId =>
    match target.channel.subscriberWorkId sqlSelect workId with
    | .ok (_, channel) => some ⟨{ target.channel with toChannel := channel }, target.wanted⟩
    -- `std::stoi` throws before anything is changed
    | .error _ => some target

/-- No URL is set again whose socket was dropped, and the counter has not come round to the push socket. -/
def Afresh (target : PushTarget) : PushCall → Prop
  | .setPushUrl url => url ≠ [] → target.channel.outputUrl = url → target.channel.zmq (-2) ≠ none
  | .subscriber _ => target.channel.zmqUrlIndex ≠ -2
  | _ => True

instance (target : PushTarget) : (call : PushCall) → Decidable (Afresh target call)
  | .setPushUrl url =>
    inferInstanceAs (Decidable (url ≠ [] → target.channel.outputUrl = url → target.channel.zmq (-2) ≠ none))
  | .subscriber _ => inferInstanceAs (Decidable (_ ≠ _))
  | .cearPushUrl | .stopSubscriber _ | .subscriberWorkId _ _ => isTrue trivial

/-- The push socket is what `output_url_` says, and is there where it is wanted. -/
structure Sound (target : PushTarget) : Prop where
  connected : ∀ socket, target.channel.zmq (-2) = some socket → socket = ⟨.push, target.channel.outputUrl⟩
  apart : ∀ url idNum, target.channel.zmqUrlMap url = some idNum → idNum ≠ -2
  wanted : ∀ url, target.wanted = some url → url ≠ [] → target.channel.zmq (-2) = some ⟨.push, url⟩

theorem sound_create (flags : Bool × Bool) (publisherUrl inferenceUrl unitName : Bytes) :
    Sound ⟨.create flags publisherUrl inferenceUrl unitName, none⟩ where
  connected socket isSome := by
    simp [LlmChannelObj.create, Channel.create] at isSome
  apart url idNum isSome := by
    cases isSome
  wanted url isWanted := by
    cases isWanted

theorem Sound.setPushUrl {target : PushTarget} (sound : target.Sound) {url : Bytes}
    (afresh : target.Afresh (.setPushUrl url)) :
    Sound ⟨{ target.channel with toChannel := target.channel.setPushUrl url }, some url⟩ := by
  by_cases same : target.channel.outputUrl = url
  · have unchanged : target.channel.setPushUrl url = target.channel.toChannel := by
      rw [Channel.setPushUrl, if_neg (not_not.mpr same)]
    rw [unchanged]
    refine ⟨sound.connected, sound.apart, fun wanted isWanted nonempty => ?_⟩
    cases isWanted
    -- the socket is still there, so it is connected to this URL
    obtain ⟨socket, present⟩ := Option.ne_none_iff_exists'.mp (afresh nonempty same)
    obtain rfl := sound.connected socket present
    rw [present, same]
  · have opened : (target.channel.setPushUrl url).zmq (-2) = some ⟨.push, url⟩ := by
      rw [Channel.setPushUrl, if_pos same]
      exact Function.update_self (-2 : Int) _ target.channel.zmq
    have remembered : (target.channel.setPushUrl url).outputUrl = url := by
      rw [Channel.setPushUrl, if_pos same]
    have mapped : (target.channel.setPushUrl url).zmqUrlMap = target.channel.zmqUrlMap := by
      rw [Channel.setPushUrl, if_pos same]
    refine ⟨fun socket present => ?_, fun other idNum found => ?_, fun wanted isWanted _ => ?_⟩
    · cases opened.symm.trans present
      exact congrArg (Socket.mk .push) remembered.symm
    · exact sound.apart other idNum ((congrFun mapped other).symm.trans found)
    · cases isWanted
      exact opened

theorem Sound.step {target after : PushTarget} (sound : target.Sound) {call : PushCall} (afresh : target.Afresh call)
    (taken : target.step call = some after) : after.Sound := by
  cases call with
  | setPushUrl url =>
    cases taken
    exact sound.setPushUrl afresh
  | cearPushUrl =>
    cases taken
    have cleared : target.channel.cearPushUrl.zmq (-2) = none := by
      rw [Channel.cearPushUrl]
      exact Function.update_self (-2 : Int) _ target.channel.zmq
    exact ⟨fun socket present => (by cases cleared.symm.trans present), sound.apart,
      fun url isWanted => by cases isWanted⟩
  | stopSubscriber zmqUrl =>
    cases taken
    -- without a URL every socket goes, the push socket too
    by_cases all : zmqUrl = []
    · rw [Channel.stopSubscriber, if_pos all, if_pos all]
      exact ⟨fun socket present => (by cases present), fun url idNum found => (by cases found),
        fun url isWanted => (by cases isWanted)⟩
    · rw [Channel.stopSubscriber, if_neg all, if_neg all]
      cases found : target.channel.zmqUrlMap zmqUrl with
      | none => exact sound
      | some idNum =>
        have others : (-2 : Int) ≠ idNum := (sound.apart zmqUrl idNum found).symm
        have kept : Function.update target.channel.zmq idNum none (-2) = target.channel.zmq (-2) :=
          Function.update_of_ne others ..
        refine ⟨fun socket present => sound.connected socket (kept.symm.trans present), fun url other mapped => ?_,
          fun url isWanted nonempty => kept.trans (sound.wanted url isWanted nonempty)⟩
        change Function.update target.channel.zmqUrlMap zmqUrl none url = some other at mapped
        by_cases same : url = zmqUrl
        · subst same
          rw [Function.update_self] at mapped
          cases mapped
        · rw [Function.update_of_ne same] at mapped
          exact sound.apart url other mapped
  | subscriber zmqUrl =>
    cases taken
    -- the index is not that of the push socket
    have others : (-2 : Int) ≠ target.channel.zmqUrlIndex := Ne.symm afresh
    have kept : (target.channel.subscriber zmqUrl).zmq (-2) = target.channel.zmq (-2) := Function.update_of_ne others ..
    refine ⟨fun socket present => sound.connected socket (kept.symm.trans present), fun url idNum mapped => ?_,
      fun url isWanted nonempty => kept.trans (sound.wanted url isWanted nonempty)⟩
    change Function.update target.channel.zmqUrlMap zmqUrl (some target.channel.zmqUrlIndex) url = some idNum at mapped
    by_cases same : url = zmqUrl
    · subst same
      rw [Function.update_self] at mapped
      cases mapped
      exact afresh
    · rw [Function.update_of_ne same] at mapped
      exact sound.apart url idNum mapped
  | subscriberWorkId sqlSelect workId =>
    simp only [PushTarget.step, Channel.subscriberWorkId_eq] at taken
    cases number : Channel.idNum workId with
    | error error =>
      simp only [number] at taken
      cases taken
      exact sound
    | ok idNum =>
      simp only [number] at taken
      split at taken
      · next ret channel subscribed =>
        split at subscribed
        · cases subscribed
          cases taken
          exact sound
        · cases subscribed
          cases taken
          have others : (-2 : Int) ≠ idNum := by
            have := Channel.idNum_nonneg number
            omega
          have kept (socket : Option Socket) : Function.update target.channel.zmq idNum socket (-2) =
              target.channel.zmq (-2) :=
            Function.update_of_ne others ..
          exact ⟨fun socket present => sound.connected socket ((kept _).symm.trans present), sound.apart,
            fun url isWanted nonempty => (kept _).trans (sound.wanted url isWanted nonempty)⟩
      · cases taken
        exact sound

variable {flags : Bool × Bool} {publisherUrl inferenceUrl unitName : Bytes} {target : PushTarget}

theorem reaches_sound (run : Reaches step Afresh ⟨.create flags publisherUrl inferenceUrl unitName, none⟩ target) :
    target.Sound := by
  apply run.invariant Sound (sound_create flags publisherUrl inferenceUrl unitName)
  intro target call after sound afresh taken
  exact sound.step afresh taken

/-- What is sent to the user goes to the URL that was set last, and a push socket to the URL that is remembered. -/
theorem sendRawToUsr_wanted
    (run : Reaches step Afresh ⟨.create flags publisherUrl inferenceUrl unitName, none⟩ target) :
    (∀ url raw, target.wanted = some url → url ≠ [] → target.channel.sendRawToUsr raw = some (⟨.push, url⟩, raw)) ∧
      ∀ socket, target.channel.zmq (-2) = some socket → socket = ⟨.push, target.channel.outputUrl⟩ := by
  have sound := reaches_sound run
  refine ⟨fun url raw isWanted nonempty => ?_, sound.connected⟩
  rw [Channel.sendRawToUsr, sound.wanted url isWanted nonempty]
  rfl

/-- A session with two clients, one after the other, and subscriptions in between. -/
theorem sendRawToUsr_second : ∃ target : PushTarget, target.wanted = some (ascii "ipc:///tmp/llm/9.sock") ∧
    target.channel.sendRawToUsr [] = some (⟨.push, ascii "ipc:///tmp/llm/9.sock"⟩, []) := by
  let calls : List PushCall :=
    [.setPushUrl (ascii "ipc:///tmp/llm/8.sock"), .subscriberWorkId (fun _ => []) [],
      .subscriber (ascii "ipc:///tmp/a"),
      .stopSubscriber [], .setPushUrl (ascii "ipc:///tmp/llm/9.sock")]
  have run : ∃ final, followAllowed step (fun target call => decide (Afresh target call))
      ⟨.create (false, false) [] [] [], none⟩ calls = some final ∧
        final.wanted = some (ascii "ipc:///tmp/llm/9.sock") :=
    ⟨_, rfl, rfl⟩
  obtain ⟨final, run, isWanted⟩ := run
  exact ⟨final, isWanted, (sendRawToUsr_wanted (Reaches.of_decide run)).1 _ [] isWanted (by decide)⟩

/-- The same URL is set, cleared and set again. -/
theorem sendRawToUsr_cleared : ¬ ∀ target : PushTarget,
    Reaches step (fun _ _ => True) ⟨.create (false, false) [] [] [], none⟩ target →
      ∀ url raw, target.wanted = some url → url ≠ [] → target.channel.sendRawToUsr raw = some (⟨.push, url⟩, raw) := by
  intro all
  let calls : List PushCall :=
    [.setPushUrl (ascii "ipc:///tmp/llm/8.sock"), .cearPushUrl, .setPushUrl (ascii "ipc:///tmp/llm/8.sock")]
  have run : ∃ final, follow step ⟨.create (false, false) [] [] [], none⟩ calls = some final ∧
      final.wanted = some (ascii "ipc:///tmp/llm/8.sock") ∧ final.channel.sendRawToUsr [] = none := ⟨_, rfl, rfl, rfl⟩
  obtain ⟨final, run, isWanted, unsent⟩ := run
  have sent := all final (Reaches.of_follow run) _ [] isWanted (by decide)
  rw [unsent] at sent
  cases sent

/-- A URL that is set again after its socket was dropped is not sent to. -/
theorem sendRawToUsr_dropped {url : Bytes} (same : target.channel.outputUrl = url)
    (dropped : target.channel.zmq (-2) = none) (raw : Bytes) :
    ∃ after, target.step (.setPushUrl url) = some after ∧ after.wanted = some url ∧
      after.channel.sendRawToUsr raw = none := by
  refine ⟨_, rfl, rfl, ?_⟩
  have unchanged : target.channel.setPushUrl url = target.channel.toChannel := by
    rw [Channel.setPushUrl, if_neg (not_not.mpr same)]
  simp only [unchanged, Channel.sendRawToUsr, dropped, Option.map_none]

end PushTarget

end EdgeFlow.Node
