import EdgeFlow.Node.Survival
import EdgeFlow.System.Envelope

/-! The header of a request, as unit-manager routes on it and as the node it goes to
reads it again.
-/

set_option autoImplicit false

namespace EdgeFlow.System
open Library Library.Byte Library.Printf Comm Manager Node

/-! ## A member and the scanner -/

section
variable {text key : Bytes} (member : Member text key)

/-- What follows the key. -/
def afterKey : Bytes := (member.beforeColon ++ colon :: member.afterColon) ++ quoted member.raw ++ member.rest

/-- The first place the quoted key stands at in a text is the member's. -/
def FirstIn (scanned : Bytes) : Prop := ∃ before, Search.FirstAt (quoted key) scanned before (afterKey member)

/-- Spelled without an escape, with nothing but spaces behind the colon. -/
def PlainlySpelled : Prop := backslash ∉ member.raw ∧ ∀ b ∈ member.afterColon, b = space

instance : Decidable (PlainlySpelled member) := inferInstanceAs (Decidable (_ ∧ _))

variable {member}

theorem scanned_iff {scanned : Bytes} (first : FirstIn member scanned) :
    sampleJsonStrGet scanned key = member.value ↔ PlainlySpelled member := by
  obtain ⟨before, here⟩ := first
  rw [sampleJsonStrGet_of_first here]
  exact scan_member_iff member.blankBefore member.blankAfter member.spelled member.rest

/-- A member is read off what follows its key. -/
theorem value_of_afterKey {other : Member text key} (same : afterKey member = afterKey other) :
    member.value = other.value := by
  have read (m : Member text key) :
      Json.readString .plain ((((afterKey m).dropWhile fun b => IsBlank b).tail.dropWhile fun b => IsBlank b).tail) =
        some (m.value, m.rest) := by
    have cut : afterKey m = m.beforeColon ++ colon :: (m.afterColon ++ quote :: (m.raw ++ quote :: m.rest)) := by
      simp [afterKey, quoted]
    have gapBefore : ((afterKey m).dropWhile fun b => IsBlank b) =
        colon :: (m.afterColon ++ quote :: (m.raw ++ quote :: m.rest)) := by
      rw [cut, List.dropWhile_append_of_pos fun b inside => by simpa using m.blankBefore b inside]
      exact List.dropWhile_cons_of_neg (by decide)
    have gapAfter : ((m.afterColon ++ quote :: (m.raw ++ quote :: m.rest)).dropWhile fun b => IsBlank b) =
        quote :: (m.raw ++ quote :: m.rest) := by
      rw [List.dropWhile_append_of_pos fun b inside => by simpa using m.blankAfter b inside]
      exact List.dropWhile_cons_of_neg (by decide)
    rw [gapBefore, List.tail_cons, gapAfter, List.tail_cons]
    exact Json.readString_of_unescape m.spelled m.rest
  have values := (read member).symm.trans (same ▸ read other)
  exact congrArg Prod.fst (Option.some.inj values)

theorem FirstIn.value_eq {other : Member text key} {scanned : Bytes} (first : FirstIn member scanned)
    (second : FirstIn other scanned) : member.value = other.value := by
  obtain ⟨_, here⟩ := first
  obtain ⟨_, there⟩ := second
  exact value_of_afterKey (here.unique there).2

end

/-! ## What reaches a node -/

inductive Delivery where
  | rpc (event : LocalEvent) (payload : Bytes)
  | inference (raw : Bytes)

namespace Delivery

/-- Unit-manager sends it for a request. -/
def In (sent : List Sent) : Delivery → Prop
  | .rpc event payload => ∃ unit, .called unit event.action payload ∈ sent
  | .inference raw => ∃ unit, .published unit raw ∈ sent

/-- The text the node looks the fields up in. -/
def text (jsonStr : Bytes) : Delivery → Bytes
  | .rpc _ _ => jsonStr
  | .inference raw => raw

/-- `_pause` takes the URL for the request. -/
def Unpacked : Delivery → Prop
  | .rpc .pause _ => False
  | _ => True

/-- A set up makes a work id of its own. -/
def ReadsWorkId : Delivery → Prop
  | .rpc .setup _ => False
  | _ => True

end Delivery

/-- The node works on the header that unit-manager has routed on, and an RPC handler on the
session's URL and the whole request. -/
def SameHeader (bus : Bus) (comId : Int) {jsonStr : Bytes} (header : Header jsonStr) : Delivery → Prop
  | .rpc event payload => ∃ zmqUrl raw, event.unpack payload = .ok (zmqUrl, raw) ∧
      zmqUrl = zmqPushUrl bus.zmqCFormat comId ∧ raw = jsonStr ∧
      (∀ node : StackFlow, (node.receive zmqUrl raw).requestId = header.requestId.value) ∧
      (event ≠ .setup → sampleJsonStrGet raw (ascii "work_id") = header.workId.value ∧
        sampleJsonStrGet raw (ascii "work_id") = bus.simdjson.getString jsonStr [] (ascii "work_id"))
  | .inference raw => ∀ channel : Channel,
      (channel.subscriberEventCall raw).2.requestId = header.requestId.value ∧
        (channel.subscriberEventCall raw).2.workId = header.workId.value

/-- The keys are found where unit-manager has found them, in both of its lookups of the work id. -/
structure FirstPlaces (bus : Bus) {jsonStr : Bytes} (header : Header jsonStr) (delivery : Delivery) : Prop where
  requestId : FirstIn header.requestId (delivery.text jsonStr)
  workId : delivery.ReadsWorkId → FirstIn header.workId (delivery.text jsonStr)
  again : delivery.ReadsWorkId → ∀ found, bus.simdjson.field jsonStr [] (ascii "work_id") = some found →
    FirstIn found jsonStr

/-- The scanner reads the fields as they are meant. -/
def Legible {jsonStr : Bytes} (header : Header jsonStr) (delivery : Delivery) : Prop :=
  delivery.Unpacked ∧ PlainlySpelled header.requestId ∧ (delivery.ReadsWorkId → PlainlySpelled header.workId)

section
variable {bus : Bus} (addressable : Addressable bus.zmqCFormat) {comId : Int} (fits : IsInt32 comId)
  {jsonStr : Bytes} {sent : List Sent} (returned : unitActionMatch bus comId jsonStr = .ok sent)
  {header : Header jsonStr} (read : readHeader bus.simdjson jsonStr = some header)

include addressable fits returned

/-- What a listener takes out of a call: the URL twice in `_pause`. -/
theorem unpack_called {unit : Bytes} {event : LocalEvent} {payload : Bytes}
    (called : .called unit event.action payload ∈ sent) :
    event.unpack payload = .ok (zmqPushUrl bus.zmqCFormat comId,
      if event = .pause then zmqPushUrl bus.zmqCFormat comId else jsonStr) := by
  obtain ⟨header, -, -, -, -, rfl⟩ := unitActionMatch_called returned called
  have length := addressable.fits comId fits
  rw [← pushUrl_eq] at length
  have whole : (zmqPushUrl bus.zmqCFormat comId).take 254 = zmqPushUrl bus.zmqCFormat comId :=
    List.take_of_length_le (by omega)
  have bound : maxParam = 127 := rfl
  have short : (zmqPushUrl bus.zmqCFormat comId).length ≤ maxParam := by omega
  rw [whole]
  by_cases isPause : event = .pause
  · rw [isPause, unpack_pause short, if_pos rfl]
  · rw [unpack_setParam isPause short, if_neg isPause]

omit addressable fits in
/-- `remote_call` has found a work id of its own. -/
theorem getString_of_called {unit action payload : Bytes} (called : .called unit action payload ∈ sent) :
    ∃ found, bus.simdjson.field jsonStr [] (ascii "work_id") = some found ∧
      bus.simdjson.getString jsonStr [] (ascii "work_id") = found.value := by
  obtain ⟨header, ret, made, -, -, result, -⟩ := unitActionMatch_remoteCall returned called
  have nonempty := ((remoteCall_isOk_iff bus comId jsonStr).mp ⟨_, result⟩).1
  unfold Simdjson.getString at nonempty ⊢
  split at nonempty
  · next found lookup => exact ⟨found, lookup, rfl⟩
  · exact absurd rfl nonempty

/-- Whatever reaches a node for a request, where the keys are found first: the node has the
header right exactly when the scanner can read it. -/
theorem sameHeader_iff (read : readHeader bus.simdjson jsonStr = some header) {delivery : Delivery}
    (delivered : delivery.In sent) (first : delivery.Unpacked → FirstPlaces bus header delivery) :
    SameHeader bus comId header delivery ↔ Legible header delivery := by
  cases delivery with
  | inference raw =>
    obtain ⟨unit, published⟩ := delivered
    have places := first trivial
    have action := (published_envelope addressable returned published).1
    have requestId := scanned_iff places.requestId
    have workId := scanned_iff (places.workId trivial)
    have read (channel : Channel) :
        (channel.subscriberEventCall raw).2.requestId = sampleJsonStrGet raw (ascii "request_id") ∧
          (channel.subscriberEventCall raw).2.workId = sampleJsonStrGet raw (ascii "work_id") := by
      rw [Channel.subscriberEventCall, if_pos action]
      exact ⟨rfl, rfl⟩
    constructor
    · intro same
      obtain ⟨sameRequest, sameWork⟩ := same someChannel
      rw [(read someChannel).1] at sameRequest
      rw [(read someChannel).2] at sameWork
      exact ⟨trivial, requestId.mp sameRequest, fun _ => workId.mp sameWork⟩
    · rintro ⟨-, plainRequest, plainWork⟩ channel
      exact ⟨(read channel).1.trans (requestId.mpr plainRequest),
        (read channel).2.trans (workId.mpr (plainWork trivial))⟩
  | rpc event payload =>
    obtain ⟨unit, called⟩ := delivered
    have unpacked := unpack_called addressable fits returned called
    by_cases isPause : event = .pause
    · -- the URL is no request with a header in it
      subst isPause
      rw [if_pos rfl] at unpacked
      refine iff_of_false ?_ fun legible => legible.1
      rintro ⟨zmqUrl, raw, unpacked', -, rfl, -, -⟩
      rw [unpacked] at unpacked'
      have same := congrArg Prod.snd (Except.ok.inj unpacked')
      have whole := header.requestId.located
      have quoteInUrl : quote ∈ zmqPushUrl bus.zmqCFormat comId := by
        rw [show zmqPushUrl bus.zmqCFormat comId = _ from same.trans whole]
        simp [quoted]
      exact (addressable.plain comId quote quoteInUrl).1 rfl
    · have wellUnpacked : Delivery.Unpacked (.rpc event payload) := by
        cases event <;> trivial
      rw [if_neg isPause] at unpacked
      have places := first wellUnpacked
      have requestId := scanned_iff places.requestId
      have reads : event ≠ .setup ↔ Delivery.ReadsWorkId (.rpc event payload) := by
        cases event <;> simp [Delivery.ReadsWorkId]
      constructor
      · rintro ⟨zmqUrl, raw, -, -, rfl, sameRequest, sameWork⟩
        refine ⟨wellUnpacked, requestId.mp (sameRequest (.started .asr 0 0)), fun needed => ?_⟩
        exact (scanned_iff (places.workId needed)).mp (sameWork (reads.mpr needed)).1
      · rintro ⟨-, plainRequest, plainWork⟩
        refine ⟨_, jsonStr, unpacked, rfl, rfl, fun node => requestId.mpr plainRequest, fun notSetup => ?_⟩
        have needed := reads.mp notSetup
        have scanned := (scanned_iff (places.workId needed)).mpr (plainWork needed)
        obtain ⟨found, lookup, value⟩ := getString_of_called returned called
        have same := (places.workId needed).value_eq (places.again needed found lookup)
        exact ⟨scanned, scanned.trans (same.trans value.symm)⟩

end

theorem firstIn_of_find {text key : Bytes} {member : Member text key}
    (found : Search.find (quoted key) text = some member.before.length) : FirstIn member text := by
  obtain ⟨before, after, length, here⟩ := Search.find_some found
  have located : text = member.before ++ (quoted key ++ afterKey member) := by
    simpa [afterKey] using member.located
  have occurs : text = before ++ (quoted key ++ after) := by
    simpa [Search.OccursAt] using here.occurs
  obtain ⟨-, rests⟩ := List.append_inj (occurs.symm.trans located) length
  exact ⟨before, List.append_cancel_left rests ▸ here⟩

/-- An exit of `asr.0`, with another id in its data. -/
def nestedRequest : Bytes :=
  ascii "\x7b\"data\":\x7b\"work_id\":\"asr.1\"\x7d,\"request_id\":\"3\",\"work_id\":\"asr.0\",\"action\":\"exit\"\x7d"

def exitAsr : Bytes := ascii "\x7b\"request_id\":\"3\",\"work_id\":\"asr.0\",\"action\":\"exit\"\x7d"

def payloadOf (request : Bytes) : Bytes := setParam (ascii "ipc:///tmp/llm/8000.sock") request

theorem nested_work_id_differs : ∃ header : Header nestedRequest,
    unitActionMatch .unattended 8000 nestedRequest =
      .ok [.called (ascii "asr") (ascii "exit") (payloadOf nestedRequest)] ∧
      readHeader Simdjson.firstMember nestedRequest = some header ∧
      ¬ SameHeader .unattended 8000 header (.rpc .exit (payloadOf nestedRequest)) := by
  have routed : (readHeader Simdjson.firstMember nestedRequest).map (fun header => header.workId.value) =
      some (ascii "asr.0") := by
    decide +kernel
  have scanned : sampleJsonStrGet nestedRequest (ascii "work_id") = ascii "asr.1" := by decide +kernel
  obtain ⟨header, read, value⟩ := Option.map_eq_some_iff.mp routed
  refine ⟨header, by decide +kernel, read, ?_⟩
  rintro ⟨zmqUrl, raw, -, -, rfl, -, workId⟩
  have same := (workId LocalEvent.noConfusion).1
  rw [scanned, value] at same
  exact absurd same (by decide)

theorem sameHeader_exit : ∃ header : Header exitAsr,
    SameHeader .unattended 8000 header (.rpc .exit (payloadOf exitAsr)) := by
  have called : unitActionMatch .unattended 8000 exitAsr =
      .ok [.called (ascii "asr") (ascii "exit") (payloadOf exitAsr)] := by
    decide +kernel
  have shape : (readHeader Simdjson.firstMember exitAsr).map (fun header =>
      (Search.find (quoted (ascii "request_id")) exitAsr == some header.requestId.before.length,
        Search.find (quoted (ascii "work_id")) exitAsr == some header.workId.before.length,
        decide (PlainlySpelled header.requestId), decide (PlainlySpelled header.workId))) =
      some (true, true, true, true) := by
    decide +kernel
  have again : (Simdjson.firstMember.field exitAsr [] (ascii "work_id")).all (fun found =>
      Search.find (quoted (ascii "work_id")) exitAsr == some found.before.length) = true := by
    decide +kernel
  obtain ⟨header, read, places⟩ := Option.map_eq_some_iff.mp shape
  simp only [Prod.mk.injEq, beq_iff_eq, decide_eq_true_eq] at places
  obtain ⟨firstRequest, firstWork, plainRequest, plainWork⟩ := places
  have first : FirstPlaces .unattended header (.rpc .exit (payloadOf exitAsr)) := by
    refine ⟨firstIn_of_find firstRequest, fun _ => firstIn_of_find firstWork, fun _ found lookup => ?_⟩
    have lookup : Simdjson.firstMember.field exitAsr [] (ascii "work_id") = some found := lookup
    rw [lookup] at again
    exact firstIn_of_find (by simpa using again)
  have delivered : Delivery.In [.called (ascii "asr") (ascii "exit") (payloadOf exitAsr)]
      (.rpc .exit (payloadOf exitAsr)) :=
    ⟨_, List.mem_singleton_self _⟩
  refine ⟨header, ?_⟩
  apply (sameHeader_iff zmqCFormat_addressable (by decide) called read delivered fun _ => first).mpr
  exact ⟨trivial, plainRequest, fun _ => plainWork⟩

end EdgeFlow.System
