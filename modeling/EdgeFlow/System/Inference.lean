import EdgeFlow.System.Payload
import EdgeFlow.System.Speech

/-! The messages of `inference_once` on their way to a node.

A node takes the data out of the envelope byte by byte. The ids that the gateway and
unit-manager make never get in the way, and the data comes out as it went in exactly when
the braces inside it match, those in its texts among them.
-/

set_option autoImplicit false

namespace EdgeFlow.System
open Library Library.Byte Library.Printf Library.Decimal Manager Node Gateway

/-! ## The ids -/

/-- `_request_id`: a prefix, the time in seconds, and eight hexadecimal digits of a UUID. -/
structure RequestId where
  namePrefix : String
  isAscii : ∀ b ∈ ascii namePrefix, Utf8.IsAscii b
  time : Nat
  hex : Bytes
  isHex : ∀ b ∈ hex, (Json.hexValue b).isSome = true
  length : hex.length = 8

def RequestId.bytes (id : RequestId) : Bytes :=
  ascii id.namePrefix ++ ascii "_" ++ ofNat id.time ++ ascii "_" ++ id.hex

theorem RequestId.valid (id : RequestId) : Utf8.Valid id.bytes := by
  have hex : ∀ b ∈ id.hex, Utf8.IsAscii b := by
    intro b member
    have isHex := id.isHex b member
    unfold Json.hexValue at isHex
    unfold Utf8.IsAscii
    grind
  have time : ∀ b ∈ ofNat id.time, Utf8.IsAscii b := by
    intro b member
    have isDigit := ofNat_isDigit id.time b member
    unfold Byte.isDigit at isDigit
    unfold Utf8.IsAscii
    grind
  have line : Utf8.Valid (ascii "_") := by decide
  exact ((((Utf8.valid_ascii id.isAscii).append line).append (Utf8.valid_ascii time)).append line).append
    (Utf8.valid_ascii hex)

theorem not_namesData_of_suffix {front back : Bytes} (long : 4 ≤ back.length) (other : ¬ ascii "data" <:+ back) :
    ¬ NamesData (front ++ back) := by
  have isSuffix (named : ascii "data" <:+ front ++ back) : ascii "data" <:+ back :=
    List.suffix_of_suffix_length_le named (List.suffix_append front back) long
  rintro (whole | ended)
  · exact other (isSuffix ⟨[], by simpa using whole.symm⟩)
  · exact other (isSuffix ((List.suffix_cons quote _).trans ended))

/-- A `t` is no hexadecimal digit. -/
theorem RequestId.not_namesData (id : RequestId) : ¬ NamesData id.bytes := by
  refine not_namesData_of_suffix (by rw [id.length]; decide) fun ended => ?_
  have digit := id.isHex 116 (ended.subset (by decide))
  exact absurd digit (by decide)

/-- A work id ends in a digit. -/
theorem workId_not_namesData (number : Int) (unitName : Bytes) : ¬ NamesData (sampleGetWorkId number unitName) := by
  have last : ∃ b ∈ (sampleGetWorkId number unitName).getLast?, isDigit b = true ∨ b = minus := by
    obtain ⟨b, last⟩ := Option.ne_none_iff_exists'.mp (List.getLast?_eq_none_iff.not.mpr (ofInt_ne_nil number))
    refine ⟨b, ?_, mem_ofInt (List.mem_of_getLast? last)⟩
    rw [sampleGetWorkId, List.getLast?_append, last]
    rfl
  have letter {text : Bytes} (ended : ascii "data" <:+ text) : text.getLast? = some 97 := by
    obtain ⟨front, rfl⟩ := ended
    rw [List.getLast?_append]
    rfl
  obtain ⟨b, isLast, digit⟩ := last
  rintro (whole | ended)
  · rw [letter ⟨[], whole.symm⟩] at isLast
    cases isLast
    exact absurd digit (by decide)
  · rw [letter ((List.suffix_cons quote _).trans ended)] at isLast
    cases isLast
    exact absurd digit (by decide)

/-! ## Where the data is -/

/-- The parts between the work id and the data. -/
def onceParts (objectName : Bytes) : List Bytes :=
  [[comma, space], ascii "action", [colon, space], ascii "inference", [comma, space], ascii "object", [colon, space],
    objectName, [comma, space]]

/-- A request of `inference_once`: its ids are not taken for the key of the data, nor is the name of its object, and
the data is an object. -/
structure OnceRequest where
  requestId : Bytes
  workId : Bytes
  objectName : String
  data : Value
  members : List (Json.Text × Json)
  idsClear : ¬ NamesData requestId ∧ ¬ NamesData workId
  verbatim : Json.escape (ascii objectName) = ascii objectName
  named : OtherParts [ascii objectName]
  spelled : data.dumps = Json.dumps (.object members)

namespace OnceRequest
variable (request : OnceRequest)

def message : Value :=
  UnitManagerClient.inferenceOnceMessage request.requestId request.workId request.objectName request.data

/-- The data without its braces. -/
def inner : Bytes := Json.dumpsMembers request.members

/-- From the key of the data on. -/
def dataMember : Bytes :=
  ascii "data" ++ quote :: ([colon, space] ++ openBrace :: (request.inner ++ closeBrace :: [closeBrace]))

theorem message_cut : request.message.dumps.drop 1 =
    Lines.stream quote [[], ascii "request_id", [colon, space]] ++
      (Json.escape request.requestId ++ quote ::
        (Lines.stream quote [[comma, space], ascii "work_id", [colon, space]] ++
          (Json.escape request.workId ++ quote ::
            (Lines.stream quote (onceParts (ascii request.objectName)) ++ request.dataMember)))) := by
  have verbatim : ∀ word ∈ [ascii "request_id", ascii "work_id", ascii "action", ascii "inference", ascii "object",
      ascii "data"], Json.escape word = word := by
    decide +kernel
  simp only [List.forall_mem_cons] at verbatim
  obtain ⟨requestKey, workKey, actionKey, action, objectKey, dataKey, -⟩ := verbatim
  simp only [message, UnitManagerClient.inferenceOnceMessage, dict, List.map_cons, List.map_nil, Value.dumps,
    Value.dumpsMembers, Value.dumpsMoreMembers, Value.dumpsMember, requestKey, workKey, actionKey, action, objectKey,
    dataKey, request.verbatim, request.spelled, Json.dumps, List.drop_succ_cons, List.drop_zero]
  simp [quoted, onceParts, dataMember, inner, Json.separator]

/-- The first `"data"` is the key. -/
theorem firstAt_data : ∃ before, Search.FirstAt (quoted (ascii "data")) (request.message.dumps.drop 1) before
    ([colon, space] ++ openBrace :: (request.inner ++ closeBrace :: [closeBrace])) := by
  obtain ⟨requestParts, requestLast, requestCut, requestOthers, requestPlain, requestNames⟩ :=
    escape_cut request.requestId
  obtain ⟨workParts, workLast, workCut, workOthers, workPlain, workNames⟩ := escape_cut request.workId
  have requestOther : OtherParts [requestLast] :=
    List.forall_mem_singleton.mpr ⟨requestPlain, fun isData => request.idsClear.1 (requestNames.mp isData)⟩
  have workOther : OtherParts [workLast] :=
    List.forall_mem_singleton.mpr ⟨workPlain, fun isData => request.idsClear.2 (workNames.mp isData)⟩
  have requestKey : OtherParts ([ascii "request_id", [colon, space]] ++ requestParts) :=
    OtherParts.append (by decide +kernel) requestOthers
  have workKey : OtherParts ([[comma, space], ascii "work_id", [colon, space]] ++ workParts) :=
    OtherParts.append (by decide +kernel) workOthers
  have objectKey : OtherParts (onceParts (ascii request.objectName)) := by
    have front : OtherParts [[comma, space], ascii "action", [colon, space], ascii "inference", [comma, space],
        ascii "object", [colon, space]] := by decide +kernel
    exact front.append (request.named.append (show OtherParts [[comma, space]] by decide +kernel))
  obtain ⟨before, first⟩ := System.firstAt_data (List.not_mem_nil (a := quote))
    (requestKey.append (requestOther.append (workKey.append (workOther.append objectKey)))) _
  refine ⟨before, ?_⟩
  rw [message_cut, requestCut, workCut]
  convert first using 1
  simp [Lines.stream_append, dataMember]

/-- An object is read of a request exactly when it is that of the data, and the braces in it match. -/
theorem readsData_iff {others : List (Json.Text × Json)} :
    ReadsData request.message.dumps others ↔ others = request.members ∧ Matched request.inner := by
  obtain ⟨before, first⟩ := request.firstAt_data
  have parsed : Json.parse (openBrace :: (request.inner ++ [closeBrace])) = some (.object request.members) :=
    Json.parse_dumps (.object request.members)
  have unmarked : ∀ b ∈ [colon, space], ¬ IsMark b := by decide +kernel
  have blank : ∀ b ∈ seen [colon, space], IsBlank b := by decide +kernel
  rw [← readsObject_braced_iff unmarked blank parsed [closeBrace]]
  refine ⟨?_, fun reads => ⟨before, _, first, reads⟩⟩
  rintro ⟨before', after', first', reads⟩
  rwa [(first.unique first').2]

section
variable {format : IntFormat} (addressable : Addressable format) (comId : Int) (channel : Channel)

/-- What the node's callback gets for the data of the request. -/
def received (format : IntFormat) (comId : Int) (channel : Channel) : Bytes :=
  (channel.subscriberEventCall (inferenceRawData format comId request.message.dumps)).1.2

include addressable

theorem parse_received_iff {others : List (Json.Text × Json)} :
    Json.parse (request.received format comId channel) = some (.object others) ↔
      others = request.members ∧ Matched request.inner :=
  (parse_data_iff addressable comId _ others channel).trans request.readsData_iff

end

end OnceRequest

/-! ## The vendored parser -/

mutual

/-- Every number is in range. -/
def ranged (inRange : Json.Number → Bool) : Json → Bool
  | .number n => inRange n
  | .array items => rangedItems inRange items
  | .object members => rangedMembers inRange members
  | .null | .bool _ | .string _ => true

def rangedItems (inRange : Json.Number → Bool) : List Json → Bool
  | [] => true
  | item :: items => ranged inRange item && rangedItems inRange items

def rangedMembers (inRange : Json.Number → Bool) : List (Json.Text × Json) → Bool
  | [] => true
  | (_, value) :: members => ranged inRange value && rangedMembers inRange members

end

/-- The vendored library reads JSON, save for numbers outside the range of `double`; a whole number of 32 bits is read
as it is. -/
structure ReadsJson {F : Type} (nlohmann : Nlohmann F) (inRange : Json.Number → Bool) : Prop where
  reads : ∀ text value, Json.parse text = some value → ranged inRange value = true → nlohmann.parse text = some value
  only : ∀ text value, nlohmann.parse text = some value → Json.parse text = some value
  int : ∀ n : Int, -2 ^ 31 ≤ n → n < 2 ^ 31 →
    inRange (Json.Number.ofInt n) = true ∧ nlohmann.int (Json.Number.ofInt n) = n

/-- The library that takes every number. -/
def jsonNlohmann : Nlohmann Bytes := { plainNlohmann with parse := Json.parse }

theorem jsonNlohmann_reads : ReadsJson jsonNlohmann fun _ => true where
  reads _ _ parsed _ := parsed
  only _ _ parsed := parsed
  int n lower upper := by
    refine ⟨rfl, ?_⟩
    have read : jsonNlohmann.int (Json.Number.ofInt n) = (Printf.stoi (Decimal.ofInt n)).toOption.getD 0 := rfl
    rw [read, Printf.stoi_ofInt ⟨lower, by omega⟩]
    rfl

end EdgeFlow.System
