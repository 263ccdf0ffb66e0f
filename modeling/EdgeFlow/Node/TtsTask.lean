import EdgeFlow.Library.Json.Parsing
import EdgeFlow.Node.Inference
import EdgeFlow.Node.TtsEngine

/-! `TtsTask::inference`: how the fields of a request are read, and what is synthesized or played then.

The parser and its conversions of numbers are the vendored library's, the synthesis and
the sound device the engine's.
-/

set_option autoImplicit false

namespace EdgeFlow.Node
open Library

/-- The vendored JSON library, and the `float` that it converts to. -/
structure Nlohmann (F : Type) where
  parse : Bytes → Option Json
  /-- a number as an `int` -/
  int : Json.Number → Int
  /-- a number as a `float` -/
  float : Json.Number → F
  zero : F
  one : F

/-- An object is spelled with more than the texts in it. -/
def Nlohmann.Spelled {F : Type} (nlohmann : Nlohmann F) : Prop :=
  ∀ data members, nlohmann.parse data = some (.object members) →
    data ≠ [] ∧ ∀ key text, (key, .string text) ∈ members → text.bytes ≠ data

/-- The locals of `inference` that the request sets. -/
structure Params (F : Type) where
  text : Bytes
  format : Bytes
  speakerId : Int
  lengthScale : F
  play : Bool

section
variable {F : Type} (nlohmann : Nlohmann F)

def Params.default (text : Bytes) : Params F := ⟨text, ascii "play", 0, nlohmann.one, true⟩

/-! ## The library's conversions -/

def getString : Json → Option Bytes
  | .string text => some text.bytes
  | _ => none

def getBool : Json → Option Bool
  | .bool b => some b
  | _ => none

/-- `get<int>`, which takes a boolean as well -/
def getInt : Json → Option Int
  | .number n => some (nlohmann.int n)
  | .bool b => some (if b then 1 else 0)
  | _ => none

/-- `get<float>`, which takes a boolean as well -/
def getFloat : Json → Option F
  | .number n => some (nlohmann.float n)
  | .bool b => some (if b then nlohmann.one else nlohmann.zero)
  | _ => none

/-- The member of a name; of several the parser keeps the last. -/
def field (key : String) (members : List (Json.Text × Json)) : Option Json :=
  (members.reverse.find? fun member => member.1.bytes == ascii key).map (·.2)

/-- `value(key, default)` of an object; `none` is the exception. -/
def valueOr {T : Type} (get : Json → Option T) (key : String) (default : T)
    (members : List (Json.Text × Json)) : Option T :=
  match field key members with
  | some value => get value
  | none => some default

/-- `value(key, value(other, default))`, of which the inner call is made first. -/
def valueOrElse {T : Type} (get : Json → Option T) (key other : String) (default : T)
    (members : List (Json.Text × Json)) : Option T :=
  (valueOr get other default members).bind (valueOr get key · members)

/-! ## The `try` block -/

/-- The assignments of the block, and whether they get to its end. -/
def assign (members : List (Json.Text × Json)) (params : Params F) : Params F × Bool :=
  match valueOr getString "text" [] members with
  | none => (params, false)
  | some text =>
    let params := { params with text }
    match if params.text = [] then valueOr getString "delta" [] members else some params.text with
    | none => (params, false)
    | some text =>
      let params := { params with text }
      match valueOrElse getString "format" "response_format" params.format members with
      | none => (params, false)
      | some format =>
        let params := { params with format }
        match valueOr getBool "play" params.play members with
        | none => (params, false)
        | some play =>
          let params := { params with play }
          match valueOr (getInt nlohmann) "speaker_id" 0 members with
          | none => (params, false)
          | some speakerId =>
            let params := { params with speakerId }
            match valueOrElse (getFloat nlohmann) "length_scale" "speed" nlohmann.one members with
            | none => (params, false)
            | some lengthScale => ({ params with lengthScale }, true)

/-- The locals after the block and its handler. -/
def resolve (data : Bytes) : Params F :=
  match nlohmann.parse data with
  | some (.string text) => .default nlohmann text.bytes
  | some (.object members) =>
    let (params, ended) := assign nlohmann members (.default nlohmann [])
    if ended then params else { params with text := data }
  -- `parse`, or `value` of what is no object, throws
  | _ => .default nlohmann data

end

/-! ## What follows -/

def alphabet : Bytes := ascii "ABCDEFGHIJKLMNOPQRSTUVWXYZabcdefghijklmnopqrstuvwxyz0123456789+/"

/-- The character for six bits of a value. -/
def sextet (value shift : Nat) : Byte := alphabet.getD (value / 2 ^ shift % 64) 0

def base64Encode : Bytes → Bytes
  | first :: second :: third :: bytes =>
    let value := first.toNat * 2 ^ 16 + second.toNat * 2 ^ 8 + third.toNat
    sextet value 18 :: sextet value 12 :: sextet value 6 :: sextet value 0 :: base64Encode bytes
  | [first, second] =>
    let value := first.toNat * 2 ^ 16 + second.toNat * 2 ^ 8
    [sextet value 18, sextet value 12, sextet value 6, 61]
  | [first] =>
    let value := first.toNat * 2 ^ 16
    [sextet value 18, sextet value 12, 61, 61]
  | [] => []

structure TtsEngine (F : Type) where
  synthesizeToPcm : (text : Bytes) → (speakerId : Int) → (lengthScale : F) → Except Bytes (List Int16)
  playAudio : List Int16 → Except Bytes Unit

section
variable {F : Type}

def TtsEngine.synthesize (engine : TtsEngine F) (params : Params F) : Except Bytes (List Int16) :=
  engine.synthesizeToPcm params.text params.speakerId params.lengthScale

/-- What `inference` does with the locals: what it returns, and whether it has `play_audio` called. -/
def TtsEngine.perform (engine : TtsEngine F) (params : Params F) : Except Bytes TaskResult × Bool :=
  if params.play = false ∧ params.format = ascii "wav" then
    match engine.synthesize params with
    | .error error => (.error error, false)
    | .ok pcm =>
      let audio := base64Encode (writeWav pcm)
      (.ok (.tts params.text (Int32.ofNat pcm.length).toInt params.speakerId (some audio)), false)
  else
    match engine.synthesize params with
    | .error error => (.error error, false)
    | .ok pcm =>
      match engine.playAudio pcm with
      | .error error => (.error error, true)
      | .ok () => (.ok (.tts params.text (Int32.ofNat pcm.length).toInt params.speakerId none), true)

/-- `TtsTask::inference` -/
def ttsInference (nlohmann : Nlohmann F) (engine : TtsEngine F) (data : Bytes) : Except Bytes TaskResult × Bool :=
  engine.perform (resolve nlohmann data)

end

/-! ## What a request asks for -/

inductive FieldType where
  | string
  | boolean
  | number

def FieldType.has : FieldType → Json → Bool
  | .string, .string _ => true
  | .boolean, .bool _ => true
  | .number, .number _ => true
  | _, _ => false

def fieldTypes : List (String × FieldType) :=
  [("text", .string), ("delta", .string), ("format", .string), ("response_format", .string), ("play", .boolean),
    ("speaker_id", .number), ("length_scale", .number), ("speed", .number)]

/-- Every field that is there is of its type. -/
def WellTyped (members : List (Json.Text × Json)) : Prop :=
  ∀ entry ∈ fieldTypes, (field entry.1 members).all entry.2.has = true

instance (members : List (Json.Text × Json)) : Decidable (WellTyped members) :=
  inferInstanceAs (Decidable (∀ entry ∈ fieldTypes, _))

section
variable {F : Type} (nlohmann : Nlohmann F)

def stringOf (key : String) (members : List (Json.Text × Json)) : Option Bytes := (field key members).bind getString

def numberOf {T : Type} (convert : Json.Number → T) (key : String) (members : List (Json.Text × Json)) : Option T :=
  match field key members with
  | some (.number n) => some (convert n)
  | _ => none

/-- The fields of a request, with the names and the values that stand in for those it has not. -/
def taken (members : List (Json.Text × Json)) : Params F where
  text := if (stringOf "text" members).getD [] = [] then (stringOf "delta" members).getD []
    else (stringOf "text" members).getD []
  format := ((stringOf "format" members).or (stringOf "response_format" members)).getD (ascii "play")
  speakerId := (numberOf nlohmann.int "speaker_id" members).getD 0
  lengthScale :=
    ((numberOf nlohmann.float "length_scale" members).or (numberOf nlohmann.float "speed" members)).getD nlohmann.one
  play := ((field "play" members).bind getBool).getD true

/-- All of a request that is one, and the data as a text otherwise. -/
def asked (data : Bytes) : Params F :=
  match nlohmann.parse data with
  | some (.string text) => .default nlohmann text.bytes
  | some (.object members) => if WellTyped members then taken nlohmann members else .default nlohmann data
  | _ => .default nlohmann data

/-- The first field that cannot be read is one before which nothing was read but a text and default values. -/
def StopsClean (members : List (Json.Text × Json)) : Prop :=
  valueOr getString "text" [] members = none ∨
    valueOr getString "text" [] members = some [] ∧ valueOr getString "delta" [] members = none ∨
    valueOrElse getString "format" "response_format" (ascii "play") members = none ∨
    valueOrElse getString "format" "response_format" (ascii "play") members = some (ascii "play") ∧
      (valueOr getBool "play" true members = none ∨
        valueOr getBool "play" true members = some true ∧
          (valueOr (getInt nlohmann) "speaker_id" 0 members = none ∨
            valueOr (getInt nlohmann) "speaker_id" 0 members = some 0 ∧
              valueOrElse (getFloat nlohmann) "length_scale" "speed" nlohmann.one members = none))

/-! ## Reading the fields -/

theorem valueOr_string {key : String} {members : List (Json.Text × Json)}
    (typed : (field key members).all FieldType.string.has = true)
    (default : Bytes) : valueOr getString key default members = some ((stringOf key members).getD default) := by
  unfold valueOr stringOf
  cases found : field key members with
  | none => rfl
  | some value =>
    rw [found] at typed
    cases value with
    | string text => rfl
    | null | bool | number | array | object => cases typed

theorem valueOr_bool {key : String} {members : List (Json.Text × Json)}
    (typed : (field key members).all FieldType.boolean.has = true)
    (default : Bool) : valueOr getBool key default members =
      some (((field key members).bind getBool).getD default) := by
  unfold valueOr
  cases found : field key members with
  | none => rfl
  | some value =>
    rw [found] at typed
    cases value with
    | bool b => rfl
    | null | number | string | array | object => cases typed

/-- A number is read as what it converts to. -/
theorem valueOr_number {T : Type} {get : Json → Option T} {convert : Json.Number → T}
    (converts : ∀ n, get (.number n) = some (convert n)) {key : String} {members : List (Json.Text × Json)}
    (typed : (field key members).all FieldType.number.has = true) (default : T) :
    valueOr get key default members = some ((numberOf convert key members).getD default) := by
  unfold valueOr numberOf
  cases found : field key members with
  | none => rfl
  | some value =>
    rw [found] at typed
    cases value with
    | number n => exact converts n
    | null | bool | string | array | object => cases typed

theorem valueOrElse_string {key other : String} {members : List (Json.Text × Json)}
    (typed : (field key members).all FieldType.string.has = true)
    (typedOther : (field other members).all FieldType.string.has = true)
    (default : Bytes) : valueOrElse getString key other default members =
      some (((stringOf key members).or (stringOf other members)).getD default) := by
  rw [valueOrElse, valueOr_string typedOther, Option.bind_some, valueOr_string typed]
  cases stringOf key members <;> rfl

theorem valueOrElse_number {T : Type} {get : Json → Option T} {convert : Json.Number → T}
    (converts : ∀ n, get (.number n) = some (convert n)) {key other : String} {members : List (Json.Text × Json)}
    (typed : (field key members).all FieldType.number.has = true)
    (typedOther : (field other members).all FieldType.number.has = true)
    (default : T) : valueOrElse get key other default members =
      some (((numberOf convert key members).or (numberOf convert other members)).getD default) := by
  rw [valueOrElse, valueOr_number converts typedOther, Option.bind_some, valueOr_number converts typed]
  cases numberOf convert key members <;> rfl

/-- A request of the right types is read as it is. -/
theorem assign_wellTyped {members : List (Json.Text × Json)} (typed : WellTyped members) :
    assign nlohmann members (.default nlohmann []) = (taken nlohmann members, true) := by
  simp only [WellTyped, fieldTypes, List.forall_mem_cons] at typed
  obtain ⟨text, delta, format, responseFormat, play, speakerId, lengthScale, speed, -⟩ := typed
  have readText : (if (stringOf "text" members).getD [] = [] then valueOr getString "delta" [] members
      else some ((stringOf "text" members).getD [])) = some (taken nlohmann members).text := by
    rw [valueOr_string delta, taken]
    split <;> rfl
  have toInt : ∀ n, getInt nlohmann (.number n) = some (nlohmann.int n) := fun _ => rfl
  have toFloat : ∀ n, getFloat nlohmann (.number n) = some (nlohmann.float n) := fun _ => rfl
  simp only [assign, Params.default, valueOr_string text, readText, valueOrElse_string format responseFormat,
    valueOr_bool play, valueOr_number toInt speakerId, valueOrElse_number toFloat lengthScale speed]
  rfl

theorem resolve_wellTyped {data : Bytes} {members : List (Json.Text × Json)}
    (parsed : nlohmann.parse data = some (.object members))
    (typed : WellTyped members) : resolve nlohmann data = taken nlohmann members := by
  rw [resolve, parsed]
  simp only [assign_wellTyped nlohmann typed, if_true]

/-- No text of a request is the request. -/
theorem valueOr_getString_ne {data : Bytes} {members : List (Json.Text × Json)} (spelled : nlohmann.Spelled)
    (parsed : nlohmann.parse data = some (.object members)) {key : String} {text : Bytes}
    (read : valueOr getString key [] members = some text) : text ≠ data := by
  obtain ⟨nonempty, others⟩ := spelled data members parsed
  unfold valueOr field at read
  cases found : members.reverse.find? fun member => member.1.bytes == ascii key with
  | none =>
    rw [found] at read
    cases read
    exact nonempty.symm
  | some member =>
    obtain ⟨name, value⟩ := member
    rw [found] at read
    have inMembers : (name, value) ∈ members := List.mem_reverse.mp (List.mem_of_find?_eq_some found)
    cases value with
    | string s =>
      cases read
      exact others name s inMembers
    | null | bool | number | array | object => cases read

/-- A block that is left early leaves the default values when nothing else was assigned; one that is not takes a text
of the request. -/
theorem resolve_stops_iff {data : Bytes} {members : List (Json.Text × Json)} (spelled : nlohmann.Spelled)
    (parsed : nlohmann.parse data = some (.object members)) :
    resolve nlohmann data = .default nlohmann data ↔ StopsClean nlohmann members := by
  rw [resolve, parsed]
  simp only [assign, Params.default, StopsClean]
  cases readText : valueOr getString "text" [] members with
  | none => simp
  | some text =>
    cases readDelta : if text = [] then valueOr getString "delta" [] members else some text with
    | none =>
      have isEmpty : text = [] := by
        by_contra nonempty
        rw [if_neg nonempty] at readDelta
        cases readDelta
      rw [if_pos isEmpty] at readDelta
      simp [isEmpty, readDelta]
    | some spoken =>
      -- the default reads the whole request out, and no member's text is that
      have other : spoken ≠ data := by
        by_cases isEmpty : text = []
        · rw [if_pos isEmpty] at readDelta
          exact valueOr_getString_ne nlohmann spelled parsed readDelta
        · rw [if_neg isEmpty] at readDelta
          cases readDelta
          exact valueOr_getString_ne nlohmann spelled parsed readText
      have noDelta : ¬ (text = [] ∧ valueOr getString "delta" [] members = none) := by
        rintro ⟨isEmpty, refused⟩
        rw [if_pos isEmpty, refused] at readDelta
        cases readDelta
      cases valueOrElse getString "format" "response_format" (ascii "play") members with
      | none => simp [readDelta]
      | some format =>
        cases valueOr getBool "play" true members with
        | none => simp [readDelta, noDelta]
        | some play =>
          cases valueOr (getInt nlohmann) "speaker_id" 0 members with
          | none => simp [readDelta, noDelta]
          | some speakerId =>
            cases valueOrElse (getFloat nlohmann) "length_scale" "speed" nlohmann.one members with
            | none =>
              simp [readDelta, noDelta]
              exact fun _ => and_comm
            | some lengthScale => simp [readDelta, noDelta, other]

/-- All of the request is taken or nothing of it, unless it is left in the middle. -/
theorem resolve_asked_iff (spelled : nlohmann.Spelled) (data : Bytes) : resolve nlohmann data = asked nlohmann data ↔
    ∀ members, nlohmann.parse data = some (.object members) → WellTyped members ∨ StopsClean nlohmann members := by
  cases parsed : nlohmann.parse data with
  | none => simp [resolve, asked, parsed]
  | some value =>
    cases value with
    | null | bool | number | string | array => simp [resolve, asked, parsed]
    | object members =>
      simp only [Option.some.injEq, Json.object.injEq, forall_eq', asked, parsed]
      by_cases typed : WellTyped members
      · rw [if_pos typed]
        exact iff_of_true (resolve_wellTyped nlohmann parsed typed) (.inl typed)
      · rw [if_neg typed, or_iff_right typed]
        exact resolve_stops_iff nlohmann spelled parsed

/-- Sound is played where it is not a file that is asked for, once there are samples. -/
theorem perform_plays_iff (engine : TtsEngine F) (params : Params F) : (engine.perform params).2 = true ↔
    ¬ (params.play = false ∧ params.format = ascii "wav") ∧ ∃ pcm, engine.synthesize params = .ok pcm := by
  unfold TtsEngine.perform
  by_cases file : params.play = false ∧ params.format = ascii "wav"
  · rw [if_pos file]
    cases engine.synthesize params <;> simp [file]
  · rw [if_neg file]
    cases engine.synthesize params with
    | error error => simp
    | ok pcm => cases played : engine.playAudio pcm <;> simp [file, played]

/-- A request is decoded whole or not at all, and played only when it says so, exactly when no field stops it in the
middle and one that is not to be played is for a WAV file. -/
theorem decoding_iff (spelled : nlohmann.Spelled) (engine : TtsEngine F) (data : Bytes) :
    (resolve nlohmann data = asked nlohmann data ∧
        ((ttsInference nlohmann engine data).2 = true → (resolve nlohmann data).play = true)) ↔
      (∀ members, nlohmann.parse data = some (.object members) → WellTyped members ∨ StopsClean nlohmann members) ∧
        ((asked nlohmann data).play = true ∨ (asked nlohmann data).format = ascii "wav" ∨
          ∃ error, engine.synthesize (asked nlohmann data) = .error error) := by
  rw [← resolve_asked_iff nlohmann spelled]
  refine and_congr_right fun same => ?_
  rw [ttsInference, perform_plays_iff, same]
  cases play : (asked nlohmann data).play with
  | true => simp
  | false =>
    cases made : engine.synthesize (asked nlohmann data) with
    | error error => simp
    | ok pcm => simp

end

/-- The library where no text of an object is as long as its spelling. -/
def plainNlohmann : Nlohmann Bytes where
  parse data := (Json.parse data).filter fun
    | .object members => data ≠ [] ∧ ∀ member ∈ members, getString member.2 ≠ some data
    | _ => true
  int n := (Printf.stoi n.lexeme).toOption.getD 0
  float n := n.lexeme
  zero := ascii "0.0"
  one := ascii "1.0"

theorem plainNlohmann_spelled : plainNlohmann.Spelled := by
  intro data members parsed
  obtain ⟨-, holds⟩ := Option.filter_eq_some_iff.mp parsed
  obtain ⟨nonempty, others⟩ := of_decide_eq_true holds
  exact ⟨nonempty, fun key text member same => others (key, .string text) member (congrArg some same)⟩

/-- An engine with one sample for every text. -/
def oneSample : TtsEngine Bytes := ⟨fun _ _ _ => .ok [0], fun _ => .ok ()⟩

/-- The fields of a request for a file. -/
def speechMembers (text : Json.Text) (speakerId : Json) (lengthScale : Json.Number) : List (Json.Text × Json) :=
  [(.ofAscii "text", .string text), (.ofAscii "speaker_id", speakerId), (.ofAscii "length_scale", .number lengthScale),
    (.ofAscii "format", .string (.ofAscii "wav")), (.ofAscii "play", .bool false)]

theorem plainNlohmann_dumps {members : List (Json.Text × Json)}
    (plain : Json.dumps (.object members) ≠ [] ∧
      ∀ member ∈ members, getString member.2 ≠ some (Json.dumps (.object members))) :
    plainNlohmann.parse (Json.dumps (.object members)) = some (.object members) := by
  have whole := Json.parse_dumps (.object members)
  simp only [plainNlohmann, whole]
  exact Option.filter_eq_some_iff.mpr ⟨rfl, decide_eq_true plain⟩

/-- A request with all its fields of their types. -/
def wellTyped : List (Json.Text × Json) := speechMembers (.ofAscii "hi") (.number (.ofInt 3)) (.ofInt 1)

theorem decoding_wellTyped :
    resolve plainNlohmann (Json.dumps (.object wellTyped)) = asked plainNlohmann (Json.dumps (.object wellTyped)) ∧
      ((ttsInference plainNlohmann oneSample (Json.dumps (.object wellTyped))).2 = true →
        (resolve plainNlohmann (Json.dumps (.object wellTyped))).play = true) := by
  have parsed := @plainNlohmann_dumps wellTyped (by decide +kernel)
  have typed : WellTyped wellTyped := by decide +kernel
  refine (decoding_iff plainNlohmann plainNlohmann_spelled oneSample _).mpr ⟨fun members same => ?_, .inr (.inl ?_)⟩
  · cases parsed.symm.trans same
    exact .inl typed
  · rw [asked, parsed]
    exact (congrArg Params.format (if_pos typed)).trans (by decide +kernel)

/-- One whose speaker is not a number. -/
def mixed : List (Json.Text × Json) := speechMembers (.ofAscii "hi") (.string (.ofAscii "x")) (.ofInt 1)

/-- The handler leaves the format of the request and says its spelling. -/
theorem decoding_mixed : ¬ ∀ (F : Type) (nlohmann : Nlohmann F) (engine : TtsEngine F)
    (data : Bytes), nlohmann.Spelled → resolve nlohmann data = asked nlohmann data ∧
      ((ttsInference nlohmann engine data).2 = true → (resolve nlohmann data).play = true) := by
  intro decodes
  have parsed := @plainNlohmann_dumps mixed (by decide +kernel)
  have same := (decodes Bytes plainNlohmann oneSample (Json.dumps (.object mixed)) plainNlohmann_spelled).1
  have clean := (resolve_asked_iff plainNlohmann plainNlohmann_spelled _).mp same mixed parsed
  have neither : ¬ (WellTyped mixed ∨ StopsClean plainNlohmann mixed) := by
    unfold StopsClean
    decide +kernel
  exact neither clean

end EdgeFlow.Node
