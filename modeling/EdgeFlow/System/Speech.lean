import EdgeFlow.Gateway.Speech
import EdgeFlow.Node.TtsTask

/-! A speech request from the gateway's validators to the locals of `TtsTask::inference`. -/

set_option autoImplicit false

namespace EdgeFlow.System
open Library Library.Byte Gateway Node

/-- Neither a list nor an object. -/
def Scalar : Json → Prop
  | .array _ | .object _ => False
  | _ => True

/-- What the vendored library does with an object of scalars: a number outside the range of `double` is an error,
a whole number of 32 bits is read as it is. -/
structure ReadsScalars {F : Type} (nlohmann : Nlohmann F) (inRange : Json.Number → Bool) : Prop where
  reads : ∀ members, (∀ member ∈ members, Scalar member.2) →
    (∀ member ∈ members, ∀ n, member.2 = .number n → inRange n = true) →
      nlohmann.parse (Json.dumps (.object members)) = some (.object members)
  refuses : ∀ members, (∀ member ∈ members, Scalar member.2) →
    (∃ member ∈ members, ∃ n, member.2 = .number n ∧ inRange n = false) →
      nlohmann.parse (Json.dumps (.object members)) = none
  int : ∀ n : Int, -2 ^ 31 ≤ n → n < 2 ^ 31 →
    inRange (Json.Number.ofInt n) = true ∧ nlohmann.int (Json.Number.ofInt n) = n

/-- The number that an `int` is; a `bool` is one of them. -/
def intOf : Value → Option Int
  | .int n => some n
  | .bool b => some (if b then 1 else 0)
  | _ => none

/-- The ids around a speech request, and its text. -/
structure Speech where
  requestId : Json.Text
  workId : Json.Text
  text : Bytes

section
variable {F : Type} (nlohmann : Nlohmann F) (positive : F → Prop)

/-- A request that the node reads as it was meant: JSON text, with a speaker id of 32 bits and a length scale that is
a finite number above zero, there as here. -/
def Transmits (speech : Speech) (speakerId : Value) (lengthScale : Bytes) : Prop :=
  (Json.parse (speechMessage speech.requestId.bytes speech.workId.bytes speech.text speakerId
    lengthScale).dumps).isSome = true ∧
    ∃ n number, intOf speakerId = some n ∧ -2 ^ 31 ≤ n ∧ n < 2 ^ 31 ∧
      lengthScale = Json.Number.lexeme number ∧ nonPositive lengthScale = false ∧ positive (nlohmann.float number) ∧
        resolve nlohmann (speechData speech.text speakerId lengthScale).dumps =
          ⟨speech.text, ascii "wav", n, nlohmann.float number, false⟩

/-- The parameters are refused with status 400, or get through to the node. -/
def SpeechSound (python : Python) (floats : Floats) (speech : Speech) (voice speed : Value) : Prop :=
  match speechParams python floats voice speed with
  | .ok (speakerId, lengthScale) => Transmits nlohmann positive speech speakerId lengthScale
  | .error (.http statusCode _) => statusCode = 400
  | .error (.builtin _) => False

end

/-- A voice that is no speaker id. -/
def VoiceRefused (python : Python) : Value → Prop
  | .int _ | .bool _ => False
  | .str s => python.parseInt s = none
  | .none | .float _ | .list _ | .dict _ => True

/-- A voice that is a speaker id of 32 bits. -/
def VoiceFits (python : Python) (voice : Value) : Prop :=
  ∃ n, -2 ^ 31 ≤ n ∧ n < 2 ^ 31 ∧ (intOf voice = some n ∨ ∃ s, voice = .str s ∧ python.parseInt s = some n)

/-- A speed that is no number, or none above zero. -/
def SpeedRefused (floats : Floats) (speed : Value) : Prop :=
  floats.of speed = .error .typeError ∨ floats.of speed = .error .valueError ∨
    ∃ spelling, floats.of speed = .ok spelling ∧ nonPositive spelling = true

section
variable {F : Type} (nlohmann : Nlohmann F) (inRange : Json.Number → Bool) (positive : F → Prop)

/-- A length scale that is a finite number above zero, as a `float` as well. -/
def Scales (lengthScale : Bytes) : Prop :=
  ∃ number, lengthScale = Json.Number.lexeme number ∧ nonPositive lengthScale = false ∧ inRange number = true ∧
    positive (nlohmann.float number)

/-- A speed that is one. -/
def SpeedFits (floats : Floats) (speed : Value) : Prop :=
  ∃ lengthScale, floats.of speed = .ok lengthScale ∧ Scales nlohmann inRange positive lengthScale

end

/-! ## The request -/

/-- A speaker id as a JSON value. -/
def idJson (n : Int) : Value → Json
  | .bool b => .bool b
  | _ => .number (.ofInt n)

theorem dumps_idJson {speakerId : Value} {n : Int} (isInt : intOf speakerId = some n) :
    speakerId.dumps = (idJson n speakerId).dumps := by
  cases speakerId with
  | int m =>
    cases isInt
    rfl
  | bool b => cases b <;> rfl
  | none | float | str | list | dict => cases isInt

theorem dumps_speechData (text : Json.Text) {speakerId : Value} {n : Int} (isInt : intOf speakerId = some n)
    (number : Json.Number) : (speechData text.bytes speakerId number.lexeme).dumps =
      Json.dumps (.object (speechMembers text (idJson n speakerId) number)) := by
  simp [speechData, speechMembers, dict, Value.dumps, Value.dumpsMembers, Value.dumpsMoreMembers, Value.dumpsMember,
    Json.dumps, Json.dumpsMembers, Json.dumpsMoreMembers, Json.dumpsMember, Json.dumpsString, Json.Text.ofAscii,
    dumps_idJson isInt]

theorem dumps_dict {key : String} (isAscii : ∀ b ∈ ascii key, Utf8.IsAscii b) (value : Value)
    (members : List (String × Value)) :
    (dict ((key, value) :: members)).dumps = openBrace :: Json.keyed (.ofAscii key isAscii)
      (value.dumps ++ (Value.dumpsMoreMembers (members.map fun (key, value) => (ascii key, value)) ++
        [closeBrace])) := by
  simp [dict, Value.dumps, Value.dumpsMembers, Value.dumpsMember, Json.keyed, Json.dumpsString, Json.Text.ofAscii]

/-- A text of broken characters makes the request no JSON text. -/
theorem parse_speechMessage_invalid {speech : Speech} (invalid : ¬ Utf8.Valid speech.text) (speakerId : Value)
    (lengthScale : Bytes) : Json.parse (speechMessage speech.requestId.bytes speech.workId.bytes speech.text speakerId
      lengthScale).dumps = none := by
  have data : ∀ rest fuel,
      Json.parseValue fuel ((speechData speech.text speakerId lengthScale).dumps ++ rest) = none := by
    intro rest fuel
    have isAscii : ∀ b ∈ ascii "text", Utf8.IsAscii b := by decide +kernel
    rw [speechData, dumps_dict isAscii, Value.dumps, List.cons_append]
    simp only [Json.keyed, List.append_assoc, List.cons_append]
    exact Json.parseValue_refuses_object (Json.parseMembers_refuses (Json.parseValue_refuses_string invalid _)) fuel
  have message : (speechMessage speech.requestId.bytes speech.workId.bytes speech.text speakerId lengthScale).dumps =
      openBrace :: Json.keyed (.ofAscii "request_id") (Json.dumpsString speech.requestId ++ (Json.separator ++
        Json.keyed (.ofAscii "work_id") (Json.dumpsString speech.workId ++ (Json.separator ++
          Json.keyed (.ofAscii "action") (Json.dumpsString (.ofAscii "inference") ++ (Json.separator ++
            Json.keyed (.ofAscii "object") (Json.dumpsString (.ofAscii "tts.input") ++ (Json.separator ++
              Json.keyed (.ofAscii "data")
                ((speechData speech.text speakerId lengthScale).dumps ++ [closeBrace]))))))))) := by
    simp [speechMessage, UnitManagerClient.inferenceOnceMessage, dict, Value.dumps, Value.dumpsMembers,
      Value.dumpsMoreMembers, Value.dumpsMember, Json.keyed, Json.dumpsString, Json.Text.ofAscii]
  rw [message]
  refine Json.parse_refuses (Json.parseValue_refuses_object ?_)
  iterate 4 refine Json.parseMembers_refuses_later ?_
  exact Json.parseMembers_refuses (data _)

/-! ## Getting through -/

section
variable {F : Type} {nlohmann : Nlohmann F} {inRange : Json.Number → Bool}

theorem speechMembers_scalar (text : Json.Text) (n : Int) (speakerId : Value) (number : Json.Number) :
    ∀ member ∈ speechMembers text (idJson n speakerId) number, Scalar member.2 := by
  have isScalar : Scalar (idJson n speakerId) := by cases speakerId <;> trivial
  simp only [speechMembers, List.forall_mem_cons]
  exact ⟨trivial, isScalar, trivial, trivial, trivial, nofun⟩

theorem getInt_idJson {n : Int} (int : nlohmann.int (.ofInt n) = n) {speakerId : Value}
    (isInt : intOf speakerId = some n) : getInt nlohmann (idJson n speakerId) = some n := by
  cases speakerId with
  | int m =>
    cases isInt
    exact congrArg some int
  | bool b =>
    cases isInt
    rfl
  | none | float | str | list | dict => cases isInt

/-- The node reads the members of a request as they are meant. -/
theorem resolve_speechMembers {data : Bytes} {text : Json.Text} {speakerId : Value} {n : Int}
    (int : nlohmann.int (.ofInt n) = n) (isInt : intOf speakerId = some n) {number : Json.Number}
    (parsed : nlohmann.parse data = some (.object (speechMembers text (idJson n speakerId) number))) :
    resolve nlohmann data = ⟨text.bytes, ascii "wav", n, nlohmann.float number, false⟩ := by
  have readText : valueOr getString "text" [] (speechMembers text (idJson n speakerId) number) = some text.bytes := rfl
  have readDelta : (if text.bytes = [] then
      valueOr getString "delta" [] (speechMembers text (idJson n speakerId) number) else some text.bytes) =
        some text.bytes := by
    split
    · next isEmpty =>
      rw [isEmpty]
      rfl
    · rfl
  have readFormat : valueOrElse getString "format" "response_format" (ascii "play")
      (speechMembers text (idJson n speakerId) number) = some (ascii "wav") := rfl
  have readPlay : valueOr getBool "play" true (speechMembers text (idJson n speakerId) number) = some false := rfl
  have readId : valueOr (getInt nlohmann) "speaker_id" 0 (speechMembers text (idJson n speakerId) number) = some n :=
    getInt_idJson int isInt
  have readScale : valueOrElse (getFloat nlohmann) "length_scale" "speed" nlohmann.one
      (speechMembers text (idJson n speakerId) number) = some (nlohmann.float number) := rfl
  rw [resolve, parsed]
  simp only [assign, Params.default, readText, readDelta, readFormat, readPlay, readId, readScale, if_true]

/-- The node reads the data of a request once its numbers are in range. -/
theorem resolve_speechData (reads : ReadsScalars nlohmann inRange) (text : Json.Text) {speakerId : Value} {n : Int}
    (lower : -2 ^ 31 ≤ n) (upper : n < 2 ^ 31) (isInt : intOf speakerId = some n) {number : Json.Number}
    (ranged : inRange number = true) : resolve nlohmann (speechData text.bytes speakerId number.lexeme).dumps =
      ⟨text.bytes, ascii "wav", n, nlohmann.float number, false⟩ := by
  have idRanged : ∀ k, idJson n speakerId = .number k → inRange k = true := by
    intro k same
    cases speakerId with
    | bool b => cases same
    | none | int | float | str | list | dict =>
      cases same
      exact (reads.int n lower upper).1
  have parsed := reads.reads _ (speechMembers_scalar text n speakerId number) (by
    simp only [speechMembers, List.forall_mem_cons, List.not_mem_nil, false_imp_iff, implies_true, and_true]
    refine ⟨nofun, idRanged, ?_, nofun, nofun⟩
    rintro k ⟨⟩
    exact ranged)
  rw [dumps_speechData text isInt]
  exact resolve_speechMembers (reads.int n lower upper).2 isInt parsed

/-- A number out of range leaves the node with what it plays by default. -/
theorem resolve_speechData_refused (reads : ReadsScalars nlohmann inRange) (text : Json.Text)
    {speakerId : Value} {n : Int}
    (isInt : intOf speakerId = some n) {number : Json.Number} (ranged : inRange number = false) :
    (resolve nlohmann (speechData text.bytes speakerId number.lexeme).dumps).play = true := by
  have refused := reads.refuses _ (speechMembers_scalar text n speakerId number)
    ⟨(.ofAscii "length_scale", .number number), by simp [speechMembers], number, rfl, ranged⟩
  rw [dumps_speechData text isInt, resolve, refused]
  rfl

theorem transmits_iff (reads : ReadsScalars nlohmann inRange) (positive : F → Prop) (speech : Speech)
    (speakerId : Value) (lengthScale : Bytes) : Transmits nlohmann positive speech speakerId lengthScale ↔
      (∃ n, intOf speakerId = some n ∧ -2 ^ 31 ≤ n ∧ n < 2 ^ 31) ∧ Scales nlohmann inRange positive lengthScale ∧
        Utf8.Valid speech.text := by
  constructor
  · rintro ⟨isJson, n, number, isInt, lower, upper, rfl, above, there, read⟩
    have valid : Utf8.Valid speech.text := by
      by_contra invalid
      rw [parse_speechMessage_invalid invalid] at isJson
      cases isJson
    refine ⟨⟨n, isInt, lower, upper⟩, ⟨number, rfl, above, ?_, there⟩, valid⟩
    by_contra outOfRange
    have plays := resolve_speechData_refused reads ⟨speech.text, valid⟩ isInt (Bool.not_eq_true _ ▸ outOfRange)
    rw [read] at plays
    cases plays
  · rintro ⟨⟨n, isInt, lower, upper⟩, ⟨number, rfl, above, ranged, there⟩, valid⟩
    have read := resolve_speechData reads ⟨speech.text, valid⟩ lower upper isInt ranged
    refine ⟨?_, n, number, isInt, lower, upper, rfl, above, there, read⟩
    have data := dumps_speechData ⟨speech.text, valid⟩ isInt number
    obtain ⟨members, whole⟩ := UnitManagerClient.dumps_inferenceOnceMessage speech.requestId speech.workId
      (show ∀ b ∈ ascii "tts.input", Utf8.IsAscii b by decide +kernel) data
    rw [speechMessage, whole, Json.parse_dumps]
    rfl

/-! ## The validators -/

theorem parseVoice_refused {python : Python} {voice : Value} (refused : VoiceRefused python voice) :
    parseVoice python voice = .error voiceError := by
  cases voice with
  | int | bool => cases refused
  | str s =>
    have noNumber : python.parseInt s = none := refused
    simp only [parseVoice, noNumber]
  | none | float | list | dict => rfl

/-- Any other voice is a speaker id. -/
theorem parseVoice_accepted {python : Python} {voice : Value} (accepted : ¬ VoiceRefused python voice) :
    ∃ speakerId, parseVoice python voice = .ok speakerId ∧
      ((∃ n, intOf speakerId = some n ∧ -2 ^ 31 ≤ n ∧ n < 2 ^ 31) ↔ VoiceFits python voice) := by
  unfold VoiceFits
  cases voice with
  | int n =>
    refine ⟨.int n, rfl, ?_⟩
    simp [intOf, and_comm]
  | bool b =>
    refine ⟨.bool b, rfl, ?_⟩
    simp [intOf, and_comm]
  | str s =>
    cases read : python.parseInt s with
    | none => exact absurd read accepted
    | some n =>
      refine ⟨.int n, by simp only [parseVoice, read], ?_⟩
      simp [intOf, read, and_comm]
  | none | float | list | dict => exact absurd trivial accepted

theorem parsePositiveFloat_refused {floats : Floats} {speed : Value} (refused : SpeedRefused floats speed)
    (name : Bytes) : ∃ message, parsePositiveFloat floats speed name = .error (.http 400 message) := by
  rcases refused with failed | failed | ⟨spelling, read, below⟩
  · exact ⟨_, by simp only [parsePositiveFloat, failed]; rfl⟩
  · exact ⟨_, by simp only [parsePositiveFloat, failed]; rfl⟩
  · exact ⟨_, by simp only [parsePositiveFloat, read, if_pos below]; rfl⟩

/-- Any other speed is taken as it is, unless it is too large. -/
theorem parsePositiveFloat_accepted {floats : Floats} {speed : Value} (accepted : ¬ SpeedRefused floats speed)
    (name : Bytes) :
    (∃ error, floats.of speed = .error error ∧ parsePositiveFloat floats speed name = .error (.builtin error)) ∨
      ∃ lengthScale, floats.of speed = .ok lengthScale ∧ parsePositiveFloat floats speed name = .ok lengthScale := by
  cases read : floats.of speed with
  | ok spelling =>
    have above : ¬ nonPositive spelling = true := fun below => accepted (.inr (.inr ⟨spelling, read, below⟩))
    exact .inr ⟨spelling, rfl, by simp only [parsePositiveFloat, read, if_neg above]⟩
  | error error =>
    refine .inl ⟨error, rfl, ?_⟩
    cases error with
    | typeError => exact absurd (.inl read) accepted
    | valueError => exact absurd (.inr (.inl read)) accepted
    | osError | jsonDecodeError | unicodeError | attributeError | overflowError | recursionError =>
      simp only [parsePositiveFloat, read]

/-- What comes through the validators gets through to the node exactly when it is a speaker id of 32 bits, a speed
that is finite and above zero, and a text of whole characters. -/
theorem speechSound_iff (reads : ReadsScalars nlohmann inRange) (positive : F → Prop) (python : Python)
    (floats : Floats)
    (speech : Speech) (voice speed : Value) : SpeechSound nlohmann positive python floats speech voice speed ↔
      VoiceRefused python voice ∨ SpeedRefused floats speed ∨
        (VoiceFits python voice ∧ SpeedFits nlohmann inRange positive floats speed ∧ Utf8.Valid speech.text) := by
  unfold SpeechSound speechParams
  by_cases refusedVoice : VoiceRefused python voice
  · rw [parseVoice_refused refusedVoice]
    exact iff_of_true rfl (.inl refusedVoice)
  · obtain ⟨speakerId, parsed, fits⟩ := parseVoice_accepted refusedVoice
    rw [parsed, or_iff_right refusedVoice, ← fits]
    by_cases refusedSpeed : SpeedRefused floats speed
    · obtain ⟨message, refused⟩ := parsePositiveFloat_refused refusedSpeed (ascii "speed")
      simp only [bind, Except.bind, refused]
      exact iff_of_true trivial (.inl refusedSpeed)
    · rw [or_iff_right refusedSpeed]
      unfold SpeedFits
      rcases parsePositiveFloat_accepted refusedSpeed (ascii "speed") with ⟨error, failed, left⟩ | ⟨scale, read, kept⟩
      · simp [bind, Except.bind, left, failed]
      · simp only [bind, Except.bind, kept, read, Except.ok.injEq, exists_eq_left', transmits_iff reads]

end

/-! ## Two requests -/

/-- The numbers without an exponent that are not too long. -/
def plainRange (n : Json.Number) : Bool := n.lexeme.all (fun b => b != 101 && b != 69) && decide (n.lexeme.length ≤ 300)

def inPlainRange : Json → Bool
  | .number n => plainRange n
  | _ => true

/-- The library that takes these numbers only. -/
def rangedNlohmann : Nlohmann Bytes where
  parse data := (Json.parse data).filter fun
    | .object members => members.all fun member => inPlainRange member.2
    | _ => true
  int := plainNlohmann.int
  float := plainNlohmann.float
  zero := plainNlohmann.zero
  one := plainNlohmann.one

theorem rangedNlohmann_reads : ReadsScalars rangedNlohmann plainRange where
  reads members _ ranged := by
    refine Option.filter_eq_some_iff.mpr ⟨Json.parse_dumps _, List.all_eq_true.mpr fun member inMembers => ?_⟩
    cases value : member.2 with
    | number n => exact ranged member inMembers n value
    | null | bool | string | array | object => rfl
  refuses members _ found := by
    obtain ⟨member, inMembers, n, value, outOfRange⟩ := found
    refine Option.filter_eq_none_iff.mpr fun data parsed holds => ?_
    rw [Json.parse_dumps] at parsed
    cases parsed
    have ranged := List.all_eq_true.mp holds member inMembers
    rw [value] at ranged
    cases outOfRange.symm.trans ranged
  int n lower upper := by
    constructor
    · have short := Decimal.ofInt_length_le lower upper
      refine Bool.and_eq_true_iff.mpr ⟨List.all_eq_true.mpr fun b member => ?_,
        decide_eq_true (Nat.le_trans short (by decide))⟩
      have other : ∀ c, isDigit c = false → c ≠ minus → b ≠ c := by
        rintro c notDigit notMinus rfl
        rcases Decimal.mem_ofInt member with isDigit | isMinus
        · cases notDigit.symm.trans isDigit
        · exact notMinus isMinus
      simp [other 101 rfl (by decide), other 69 rfl (by decide)]
    · have read : plainNlohmann.int (Json.Number.ofInt n) = (Printf.stoi (Decimal.ofInt n)).toOption.getD 0 := rfl
      rw [show rangedNlohmann.int = plainNlohmann.int from rfl, read, Printf.stoi_ofInt ⟨lower, by omega⟩]
      rfl

/-- Conversions of a few spellings. -/
def fewSpellings : Floats where
  ofInt n := some (Decimal.ofInt n ++ ascii ".0")
  ofStr s := if s = ascii "nan" then some (ascii "NaN") else none

def zeroVoice : Python where
  loads _ := .error .jsonDecodeError
  repr _ := []
  parseInt s := if s = ascii "0" then some 0 else none
  truncate _ := none

def greetingSpeech : Speech := ⟨.ofAscii "tts_speech_1", .ofAscii "tts.1001", ascii "hello"⟩

/-- A spelling above zero. -/
def Above (spelling : Bytes) : Prop := nonPositive spelling = false

theorem speechSound_default : SpeechSound rangedNlohmann Above zeroVoice fewSpellings greetingSpeech (.str (ascii "0"))
    (.float (ascii "1.0")) := by
  refine (speechSound_iff rangedNlohmann_reads Above zeroVoice fewSpellings greetingSpeech _ _).mpr
    (.inr (.inr ⟨?_, ?_, ?_⟩))
  · exact ⟨0, by decide, by decide, .inr ⟨ascii "0", rfl, by decide +kernel⟩⟩
  · exact ⟨ascii "1.0", rfl, ⟨ascii "1.0", by decide +kernel⟩, rfl, by decide +kernel, by decide +kernel, rfl⟩
  · decide +kernel

/-- A speed of "nan" comes through, and is no JSON. -/
theorem speech_nan : ¬ ∀ (F : Type) (nlohmann : Nlohmann F) (inRange : Json.Number → Bool) (positive : F → Prop)
    (python : Python) (floats : Floats) (speech : Speech) (voice speed : Value), ReadsScalars nlohmann inRange →
      SpeechSound nlohmann positive python floats speech voice speed := by
  intro sound
  have parsed : speechParams zeroVoice fewSpellings (.str (ascii "0")) (.str (ascii "nan")) =
      .ok (.int 0, ascii "NaN") := rfl
  have transmits := sound Bytes rangedNlohmann plainRange Above zeroVoice fewSpellings greetingSpeech (.str (ascii "0"))
    (.str (ascii "nan")) rangedNlohmann_reads
  rw [SpeechSound, parsed] at transmits
  obtain ⟨-, n, number, -, -, -, spelled, -⟩ := transmits
  have noNumber : Json.isNumber (ascii "NaN") = false := by decide +kernel
  rw [spelled, number.wellFormed] at noNumber
  cases noNumber

end EdgeFlow.System
