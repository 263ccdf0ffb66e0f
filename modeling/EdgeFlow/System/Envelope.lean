import EdgeFlow.Manager.Rpc
import EdgeFlow.Node.Inference

/-! The envelope of an inference request, from unit-manager to the channel it is for:
the reply address it carries is the one unit-manager wrote, whatever the request says.
-/

set_option autoImplicit false

namespace EdgeFlow.System
open Library Library.Byte Library.Printf Library.Decimal Manager Node

/-- The address reads back out of a literal, and fits the buffer it is printed into. -/
structure Addressable (format : IntFormat) : Prop where
  literal : ∀ b ∈ format.before ++ format.after, b ≠ quote ∧ b ≠ backslash
  fits : ∀ n, IsInt32 n → (format.render n).length < 128

theorem zmqCFormat_addressable : Addressable zmqCFormat where
  literal := by decide +kernel
  fits n small := by
    have digits := ofInt_length_le small.1 small.2
    have before : zmqCFormat.before.length = 15 := rfl
    have after : zmqCFormat.after.length = 5 := rfl
    rw [IntFormat.render, List.length_append, List.length_append, before, after]
    omega

theorem pushUrl_eq (format : IntFormat) (comId : Int) : zmqPushUrl format comId = format.render comId := by
  rw [zmqPushUrl, format.sprintf_alone, Option.getD_some]

theorem Addressable.plain {format : IntFormat} (addressable : Addressable format) (comId : Int) :
    ∀ b ∈ zmqPushUrl format comId, b ≠ quote ∧ b ≠ backslash := by
  intro b member
  rw [pushUrl_eq, IntFormat.render, List.append_assoc, List.mem_append, List.mem_append] at member
  obtain inBefore | inNumber | inAfter := member
  · exact addressable.literal b (List.mem_append_left _ inBefore)
  · have digitOrMinus := mem_ofInt inNumber
    constructor <;> rintro rfl <;> exact absurd digitOrMinus (by decide)
  · exact addressable.literal b (List.mem_append_right _ inAfter)

theorem pushUrl_ne_nil (format : IntFormat) (comId : Int) : zmqPushUrl format comId ≠ [] := by
  rw [pushUrl_eq, IntFormat.render]
  simp [ofInt_ne_nil]

/-! ## The address -/

/-- What follows the address. -/
def inferenceRest (jsonStr : Bytes) : Bytes := comma :: jsonStr.drop 1

theorem inferenceRawData_eq (format : IntFormat) (comId : Int) (jsonStr : Bytes) :
    inferenceRawData format comId jsonStr =
      [openBrace] ++ quoted (ascii "zmq_com") ++
        (colon :: (quoted (zmqPushUrl format comId) ++ inferenceRest jsonStr)) := by
  have opening : ascii "\x7b\"zmq_com\":\"" = [openBrace] ++ quoted (ascii "zmq_com") ++ [colon, quote] := by
    decide +kernel
  have closing : ascii "\"," = [quote, comma] := by decide +kernel
  rw [inferenceRawData, opening, closing]
  simp [inferenceRest, quoted]

/-- The first `"zmq_com"` of the envelope is the one unit-manager puts in front. -/
theorem zmqCom_first (format : IntFormat) (comId : Int) (jsonStr : Bytes) :
    Search.FirstAt (quoted (ascii "zmq_com")) (inferenceRawData format comId jsonStr) [openBrace]
      (colon :: (quoted (zmqPushUrl format comId) ++ inferenceRest jsonStr)) := by
  refine ⟨inferenceRawData_eq format comId jsonStr, fun before after occurs => ?_⟩
  cases before with
  | nil =>
    rw [Search.OccursAt, inferenceRawData_eq] at occurs
    have heads := congrArg List.head? occurs
    have mark : openBrace ≠ quote := by decide
    simp [quoted, mark] at heads
  | cons b before => simp

/-- The reply address a node scans is the one of the session. -/
theorem scanned_zmqCom {format : IntFormat} (addressable : Addressable format) (comId : Int) (jsonStr : Bytes) :
    sampleJsonStrGet (inferenceRawData format comId jsonStr) (ascii "zmq_com") = zmqPushUrl format comId := by
  rw [sampleJsonStrGet_of_first (zmqCom_first format comId jsonStr)]
  exact scan_plainLiteral (addressable.plain comId) _

/-! ## The guard -/

/-- The search loop gets to a flag that stands behind a brace, a comma or a blank: no match
overlaps it, and it passes the test. -/
theorem findsAction_of_occurs {raw before after : Bytes} {b : Byte}
    (occurs : Search.OccursAt actionFlag raw before after)
    (last : before.getLast? = some b) (opened : b = openBrace ∨ b = comma ∨ IsBlank b) (turns start : Nat)
    (ahead : start ≤ before.length) (enough : before.length < start + 8 * turns) :
    findsAction turns raw start = true := by
  have inFlag : b ∉ actionFlag := by
    intro member
    obtain rfl | rfl | rfl | rfl | rfl | rfl := opened <;> exact absurd member (by decide)
  have notBackslash : b ≠ backslash := by
    rintro rfl
    exact absurd opened (by decide)
  have nonempty : before ≠ [] := by
    rintro rfl
    cases last
  have position : 0 < before.length := List.length_pos_iff.mpr nonempty
  have previous : raw[before.length - 1]? = some b := by
    rw [occurs, List.append_assoc, List.getElem?_append_left (by omega), ← last, List.getLast?_eq_getElem?]
  induction turns generalizing start with
  | zero => omega
  | succ turns ih =>
    rw [findsAction]
    have inRest : Search.OccursAt actionFlag (raw.drop start) (before.drop start) after := by
      rw [Search.OccursAt, occurs, List.append_assoc, List.drop_append_of_le_length ahead, List.append_assoc]
    cases found : Search.find actionFlag (raw.drop start) with
    | none => exact absurd inRest (Search.find_none found _ _)
    | some offset =>
      obtain ⟨before', after', length, first⟩ := Search.find_some found
      have notLater := first.first _ _ inRest
      rw [length, List.length_drop] at notLater
      simp only
      split
      · rfl
      · next failed =>
        have different : start + offset ≠ before.length := by
          intro same
          refine failed ⟨by omega, ?_⟩
          rw [same, previous]
          exact fun isBackslash => notBackslash (Option.some.inj isBackslash)
        have apart : start + offset + 8 ≤ before.length := by
          -- otherwise the byte before the flag is one of the flag that was found
          by_contra overlap
          have inside : raw[before.length - 1]? = actionFlag[before.length - 1 - (start + offset)]? := by
            have cutThere : raw.drop start = before' ++ actionFlag ++ after' := first.occurs
            have here : raw[before.length - 1]? = (raw.drop start)[before.length - 1 - start]? := by
              rw [List.getElem?_drop]
              congr 1
              omega
            have flagLength : actionFlag.length = 8 := rfl
            rw [here, cutThere, List.append_assoc, List.getElem?_append_right (by omega),
              List.getElem?_append_left (by omega)]
            congr 1
            omega
          rw [previous] at inside
          exact inFlag (List.mem_of_getElem? inside.symm)
        exact ih (start + offset + 8) apart (by omega)

/-- The action of an accepted request is found in its envelope. -/
theorem hasAction_envelope {jsonStr : Bytes} (action : Member jsonStr (ascii "action")) (format : IntFormat)
    (comId : Int) : hasAction (inferenceRawData format comId jsonStr) = true := by
  obtain ⟨b, last, opened⟩ := action.opened
  have last : action.before.getLast? = some b := last
  have nonempty : action.before ≠ [] := by
    intro none
    rw [none] at last
    cases last
  let front := [openBrace] ++ quoted (ascii "zmq_com") ++ (colon :: (quoted (zmqPushUrl format comId) ++ [comma]))
  let after := (action.beforeColon ++ colon :: action.afterColon) ++ quoted action.raw ++ action.rest
  have occurs : Search.OccursAt actionFlag (inferenceRawData format comId jsonStr)
      (front ++ action.before.drop 1) after := by
    have request : jsonStr.drop 1 = action.before.drop 1 ++ (quoted (ascii "action") ++ after) := by
      have whole : jsonStr = action.before ++ (quoted (ascii "action") ++ after) := by
        simpa [after] using action.located
      have room : 1 ≤ action.before.length := List.length_pos_iff.mpr nonempty
      conv_lhs => rw [whole]
      rw [List.drop_append_of_le_length room]
    have flag : actionFlag = quoted (ascii "action") := by decide
    rw [Search.OccursAt, inferenceRawData_eq, inferenceRest, request, flag]
    simp [front]
  -- the byte before the key: the request's own, or the comma behind the URL when the key came first
  obtain ⟨c, lastFront, openedFront⟩ : ∃ c, (front ++ action.before.drop 1).getLast? = some c ∧
      (c = openBrace ∨ c = comma ∨ IsBlank c) := by
    cases rest : action.before.drop 1 with
    | nil =>
      refine ⟨comma, ?_, .inr (.inl rfl)⟩
      show ([openBrace] ++ quoted (ascii "zmq_com") ++
        (colon :: (quoted (zmqPushUrl format comId) ++ [comma])) ++ []).getLast? = some comma
      rw [List.append_nil, List.getLast?_append, List.getLast?_cons, List.getLast?_append]
      rfl
    | cons d tail =>
      refine ⟨b, ?_, opened⟩
      rw [← rest, List.getLast?_append, List.getLast?_drop, last, if_neg]
      · rfl
      · intro short
        have empty := List.drop_eq_nil_of_le short
        rw [rest] at empty
        cases empty
  refine findsAction_of_occurs occurs lastFront openedFront _ 0 (Nat.zero_le _) ?_
  have flagLength : actionFlag.length = 8 := rfl
  have total := congrArg List.length occurs
  rw [List.length_append, List.length_append] at total
  omega

/-! ## The push URL -/

theorem adoptPushUrl_outputUrl {raw : Bytes} (addressed : sampleJsonStrGet raw (ascii "zmq_com") ≠ [])
    (channel : Channel) : (channel.adoptPushUrl raw).outputUrl = sampleJsonStrGet raw (ascii "zmq_com") := by
  have adopted : channel.adoptPushUrl raw = channel.setPushUrl (sampleJsonStrGet raw (ascii "zmq_com")) :=
      if_pos addressed
  rw [adopted, Channel.setPushUrl]
  split
  · rfl
  · next same => exact not_not.mp same

section
variable {bus : Bus} (addressable : Addressable bus.zmqCFormat) {comId : Int} {jsonStr : Bytes} {sent : List Sent}
  (returned : unitActionMatch bus comId jsonStr = .ok sent) {unit : UnitData} {raw : Bytes}
  (published : .published unit raw ∈ sent)

include addressable returned published

/-- What is published has an action the guard finds, and the address of the session. -/
theorem published_envelope :
    hasAction raw = true ∧ sampleJsonStrGet raw (ascii "zmq_com") = zmqPushUrl bus.zmqCFormat comId := by
  obtain ⟨header, -, -, -, rfl⟩ := unitActionMatch_published returned published
  exact ⟨hasAction_envelope header.action _ _, scanned_zmqCom addressable comId jsonStr⟩

theorem pushUrl_of_session (channel : Channel) :
    (channel.subscriberEventCall raw).2.outputUrl = zmqPushUrl bus.zmqCFormat comId := by
  obtain ⟨action, address⟩ := published_envelope addressable returned published
  have addressed : sampleJsonStrGet raw (ascii "zmq_com") ≠ [] := address ▸ pushUrl_ne_nil _ _
  rw [Channel.subscriberEventCall, if_pos action]
  exact (adoptPushUrl_outputUrl addressed channel).trans address

/-- As the one channel of an `Exchange` gets it. -/
def envelopeOf : Envelope where
  raw
  action := (published_envelope addressable returned published).1
  addressed := by
    rw [(published_envelope addressable returned published).2]
    exact pushUrl_ne_nil _ _

end

/-- Two requests of one session, whatever is in them, leave the channels they reach with the
push URL of the session. -/
theorem reply_address_noninterference {format : IntFormat} (addressable : Addressable format) (comId : Int)
    {first second : Bus} (sameFormat : first.zmqCFormat = format ∧ second.zmqCFormat = format)
    {firstJson secondJson : Bytes} {firstSent secondSent : List Sent}
    (firstReturned : unitActionMatch first comId firstJson = .ok firstSent)
    (secondReturned : unitActionMatch second comId secondJson = .ok secondSent)
    {firstUnit secondUnit : UnitData} {firstRaw secondRaw : Bytes}
    (firstPublished : .published firstUnit firstRaw ∈ firstSent)
    (secondPublished : .published secondUnit secondRaw ∈ secondSent) (firstChannel secondChannel : Channel) :
    (firstChannel.subscriberEventCall firstRaw).2.outputUrl = (sprintf format.text [comId]).getD [] ∧
      (secondChannel.subscriberEventCall secondRaw).2.outputUrl = (sprintf format.text [comId]).getD [] := by
  obtain ⟨rfl, same⟩ := sameFormat
  refine ⟨pushUrl_of_session addressable firstReturned firstPublished firstChannel, ?_⟩
  rw [pushUrl_of_session (same ▸ addressable) secondReturned secondPublished secondChannel, same]
  rfl

/-- A registry with the unit of session `asr.0`. -/
def oneUnit : UnitData :=
  ⟨0, ascii "asr.0", ascii "ipc:///tmp/llm/5010.sock.asr.output_url",
    ascii "ipc:///tmp/llm/5011.sock.asr.inference_url"⟩

def Bus.attended : Bus :=
  { Bus.unattended with registry := ⟨1, 5010, [true, true], fun key => if key = ascii "asr.0" then some (.unit oneUnit) else none⟩ }

/-- A request that brings addresses of its own. -/
def spoofedRequest : Bytes :=
  ascii "\x7b\"zmq_com\":\"ipc:///tmp/llm/8001.sock\",\"request_id\":\"\\\"action\\\"\",\"work_id\":\"asr.0\",\"action\":\"inference\"\x7d"

def plainRequest : Bytes :=
  ascii "\x7b\"request_id\":\"2\",\"work_id\":\"asr.0\",\"action\":\"inference\"\x7d"

/-- A channel that pushes nowhere yet. -/
def someChannel : Channel := .create (false, false) [] [] []

theorem reply_address_noninterference_spoofed :
    (someChannel.subscriberEventCall (inferenceRawData zmqCFormat 8000 spoofedRequest)).2.outputUrl =
        (sprintf zmqCFormat.text [8000]).getD [] ∧
      (someChannel.subscriberEventCall (inferenceRawData zmqCFormat 8000 plainRequest)).2.outputUrl =
        (sprintf zmqCFormat.text [8000]).getD [] := by
  have spoofed : unitActionMatch Bus.attended 8000 spoofedRequest =
      .ok [.published oneUnit (inferenceRawData zmqCFormat 8000 spoofedRequest)] := by
    decide +kernel
  have plain : unitActionMatch Bus.attended 8000 plainRequest =
      .ok [.published oneUnit (inferenceRawData zmqCFormat 8000 plainRequest)] := by
    decide +kernel
  exact reply_address_noninterference zmqCFormat_addressable 8000 ⟨rfl, rfl⟩ spoofed plain
    (List.mem_singleton_self _) (List.mem_singleton_self _) someChannel someChannel

end EdgeFlow.System
