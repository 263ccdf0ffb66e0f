import EdgeFlow.Gateway.UnitManagerClient

/-! The `voice` and `speed` of a speech request: their validators, and the request that is made of them. -/

set_option autoImplicit false

namespace EdgeFlow.Gateway
open Library Library.Byte

/-- The conversions of Python to a `float`, which is given by what `json.dumps` writes for it. -/
structure Floats where
  /-- of an `int` that is not too large -/
  ofInt : Int → Option Bytes
  /-- of a `str` that spells one -/
  ofStr : Bytes → Option Bytes

/-- What leaves a validator. -/
inductive ValidatorFault where
  /-- `HTTPException` -/
  | http (statusCode : Int) (message : Bytes)
  | builtin (error : Builtin)
  deriving DecidableEq

/-- `float` -/
def Floats.of (floats : Floats) : Value → Except Builtin Bytes
  | .float spelling => .ok spelling
  | .bool b => .ok (if b then ascii "1.0" else ascii "0.0")
  | .int n =>
    match floats.ofInt n with
    | some spelling => .ok spelling
    | none => .error .overflowError
  | .str s =>
    match floats.ofStr s with
    | some spelling => .ok spelling
    | none => .error .valueError
  | .none | .list _ | .dict _ => .error .typeError

/-- `<= 0` of a `float`: the numbers that are written with a minus, and zero. -/
def nonPositive (spelling : Bytes) : Bool := spelling.head? == some minus || spelling == ascii "0.0"

def voiceError : ValidatorFault := .http 400 (ascii "voice must be a numeric speaker id")

/-- `parse_voice`; a `bool` is an `int` and stays one. -/
def parseVoice (python : Python) : (voice : Value) → Except ValidatorFault Value
  | .int n => .ok (.int n)
  | .bool b => .ok (.bool b)
  | .str s =>
    match python.parseInt s with
    | some n => .ok (.int n)
    | none => .error voiceError
  | .none | .float _ | .list _ | .dict _ => .error voiceError

/-- `parse_positive_float` -/
def parsePositiveFloat (floats : Floats) (value : Value) (name : Bytes) : Except ValidatorFault Bytes :=
  match floats.of value with
  | .error .typeError | .error .valueError => .error (.http 400 (name ++ ascii " must be a number"))
  | .error error => .error (.builtin error)
  | .ok parsed =>
    if nonPositive parsed then .error (.http 400 (name ++ ascii " must be positive")) else .ok parsed

/-- The speaker id and the length scale of a request, as both endpoints read them. -/
def speechParams (python : Python) (floats : Floats) (voice speed : Value) : Except ValidatorFault (Value × Bytes) := do
  let speakerId ← parseVoice python voice
  let lengthScale ← parsePositiveFloat floats speed (ascii "speed")
  .ok (speakerId, lengthScale)

/-- The data of `run_tts_speech`. -/
def speechData (text : Bytes) (speakerId : Value) (lengthScale : Bytes) : Value :=
  dict [("text", .str text), ("speaker_id", speakerId), ("length_scale", .float lengthScale),
    ("format", .str (ascii "wav")),
    ("play", .bool false)]

/-- The request `run_tts_speech` sends. -/
def speechMessage (requestId workId text : Bytes) (speakerId : Value) (lengthScale : Bytes) : Value :=
  UnitManagerClient.inferenceOnceMessage requestId workId "tts.input" (speechData text speakerId lengthScale)

end EdgeFlow.Gateway
