import EdgeFlow.Node.TtsTask

/-! `AsrTask::inference` and `AsrEngine`: what the recognizer hears of the requests of one session.

The recognizer is outside the model. What a session does with it can be told without its
streams: the samples come in utterances, each is heard from a fresh stream on, and a
request that is refused is not heard at all.
-/

set_option autoImplicit false

namespace EdgeFlow.Node
open Library

/-! ## The engine -/

/-- The recognizer, with a stream of it as `S`. -/
structure Recognizer (S : Type) where
  acceptWaveform : List Int16 → S → S
  /-- `Decode`, as long as the stream is ready -/
  decode : S → S
  inputFinished : S → S
  text : S → Bytes
  isEndpoint : S → Bool

section
variable {S : Type} (recognizer : Recognizer S)

/-- What a stream comes to with more samples. -/
def Recognizer.hear (samples : List Int16) (stream : S) : S :=
  recognizer.decode (if samples.isEmpty then stream else recognizer.acceptWaveform samples stream)

/-- `feed`: the stream, `text` and `endpoint`. -/
def Recognizer.feed (samples : List Int16) : (stream : Option S) → Option (S × Bytes × Bool)
  | none => none
  | some stream =>
    let stream := recognizer.hear samples stream
    some (stream, recognizer.text stream, recognizer.isEndpoint stream)

/-- `finish` -/
def Recognizer.finish : (stream : Option S) → Option (S × Bytes)
  | none => none
  | some stream =>
    let stream := recognizer.decode (recognizer.inputFinished stream)
    some (stream, recognizer.text stream)

end

/-! ## The task -/

/-- What a request asks for. -/
inductive AsrRequest where
  | finish
  | samples (samples : List Int16)
  deriving DecidableEq

def asrFinishFailed : Bytes := ascii "\x7b\"code\":-11,\"message\":\"ASR finish failed\"\x7d"

def asrInferenceFailed : Bytes := ascii "\x7b\"code\":-11,\"message\":\"ASR inference failed\"\x7d"

def asrDataError : Bytes :=
  ascii "\x7b\"code\":-2,\"message\":\"data must contain PCM16 samples or finish=true\"\x7d"

section
variable {F : Type} (nlohmann : Nlohmann F)

/-- `get<std::vector<int16_t>>`, which takes numbers and booleans modulo 2^16. -/
def getSamples : Json → Option (List Int16)
  | .array items => items.mapM fun item => (getInt nlohmann item).map Int16.ofInt
  | _ => none

/-- The request in a text; `none` is an exception. -/
def asrRequest (data : Bytes) : Option AsrRequest :=
  match nlohmann.parse data with
  | some (.object members) => do
    let finish ← valueOr getBool "finish" false members
    if finish then some .finish
    else
      let samples ← field "samples" members
      return .samples (← getSamples nlohmann samples)
  | _ => none

variable {S : Type} (recognizer : Recognizer S)

/-- What is done with a request; `created` is what `CreateStream` returns in `reset`. -/
def performAsr (created : Option S) (request : AsrRequest) (stream : Option S) : Except Bytes TaskResult × Option S :=
  match request with
  | .finish =>
    match recognizer.finish stream with
    | none => (.error asrFinishFailed, stream)
    | some (_, text) => (.ok (.asr text true true), created)
  | .samples samples =>
    match recognizer.feed samples stream with
    | none => (.error asrInferenceFailed, stream)
    | some (stream, text, endpoint) => (.ok (.asr text endpoint endpoint), if endpoint then created else some stream)

/-- `AsrTask::inference`: what it returns, and `stream_`. -/
def asrInference (created : Option S) (data : Bytes) (stream : Option S) : Except Bytes TaskResult × Option S :=
  match asrRequest nlohmann data with
  | none => (.error asrDataError, stream)
  | some request => performAsr recognizer created request stream

/-- The inferences of a session, one behind the other. -/
def asrSession (created : Option S) : (stream : Option S) → (inputs : List Bytes) →
    List (Except Bytes TaskResult) × Option S
  | stream, [] => ([], stream)
  | stream, data :: inputs =>
    let (outcome, stream) := asrInference nlohmann recognizer created data stream
    let (outcomes, stream) := asrSession created stream inputs
    (outcome :: outcomes, stream)

end

/-! ## Utterances -/

/-- The samples that a session has heard. -/
structure Dictation where
  /-- the utterances that are over, and the chunks of each -/
  closed : List (List (List Int16))
  /-- the chunks of the utterance that goes on -/
  current : List (List Int16)

namespace Dictation

/-- All chunks, oldest first. -/
def chunks (dictation : Dictation) : List (List Int16) := dictation.closed.flatten ++ dictation.current

def close (dictation : Dictation) : Dictation := ⟨dictation.closed ++ [dictation.current], []⟩

section
variable {S : Type} (recognizer : Recognizer S) (fresh : S)

/-- The chunks of an utterance, heard from a fresh stream on. -/
def heard (utterance : List (List Int16)) : S :=
  utterance.foldl (fun stream samples => recognizer.hear samples stream) fresh

/-- A request that is understood: the answer, and what has been heard with it. -/
def take (dictation : Dictation) : AsrRequest → TaskResult × Dictation
  | .finish =>
    let stream := recognizer.decode (recognizer.inputFinished (heard recognizer fresh dictation.current))
    (.asr (recognizer.text stream) true true, dictation.close)
  | .samples samples =>
    let dictation : Dictation := { dictation with current := dictation.current ++ [samples] }
    let stream := heard recognizer fresh dictation.current
    let endpoint := recognizer.isEndpoint stream
    (.asr (recognizer.text stream) endpoint endpoint, if endpoint then dictation.close else dictation)

/-- The requests of a session; `none` is one that is not understood. -/
def takeAll (dictation : Dictation) : (requests : List (Option AsrRequest)) →
    List (Except Bytes TaskResult) × Dictation
  | [] => ([], dictation)
  | none :: requests =>
    let (outcomes, dictation) := takeAll dictation requests
    (.error asrDataError :: outcomes, dictation)
  | some request :: requests =>
    let (result, dictation) := dictation.take recognizer fresh request
    let (outcomes, dictation) := takeAll dictation requests
    (.ok result :: outcomes, dictation)

/-- A session from its beginning. -/
def dictate (requests : List (Option AsrRequest)) : List (Except Bytes TaskResult) × Dictation :=
  takeAll recognizer fresh ⟨[], []⟩ requests

end
end Dictation

/-- The samples that the requests of a session bring. -/
def fedChunks (requests : List (Option AsrRequest)) : List (List Int16) :=
  requests.filterMap fun
    | some (.samples samples) => some samples
    | _ => none

section
variable {S : Type} {recognizer : Recognizer S} {fresh : S}

@[simp] theorem Dictation.chunks_close (dictation : Dictation) : dictation.close.chunks = dictation.chunks := by
  simp [Dictation.close, Dictation.chunks]

theorem Dictation.heard_append (utterance : List (List Int16)) (samples : List Int16) :
    heard recognizer fresh (utterance ++ [samples]) = recognizer.hear samples (heard recognizer fresh utterance) := by
  simp [heard]

/-- The stream of a session is that of its utterance; one request keeps it so. -/
theorem performAsr_take (dictation : Dictation) (request : AsrRequest) :
    performAsr recognizer (some fresh) request (some (Dictation.heard recognizer fresh dictation.current)) =
      (.ok (dictation.take recognizer fresh request).1,
        some (Dictation.heard recognizer fresh (dictation.take recognizer fresh request).2.current)) := by
  cases request with
  | finish => rfl
  | samples samples =>
    simp only [performAsr, Recognizer.feed, Dictation.take, ← Dictation.heard_append]
    split
    · rfl
    · rfl

theorem Dictation.chunks_take (dictation : Dictation) (request : AsrRequest) :
    (dictation.take recognizer fresh request).2.chunks = dictation.chunks ++ fedChunks [some request] := by
  cases request with
  | finish => simp [take, fedChunks]
  | samples samples =>
    simp only [take]
    split <;> simp [fedChunks, chunks, close]

/-- No sample is lost, and none is heard twice or out of its turn. -/
theorem Dictation.chunks_takeAll (dictation : Dictation) (requests : List (Option AsrRequest)) :
    (dictation.takeAll recognizer fresh requests).2.chunks = dictation.chunks ++ fedChunks requests := by
  induction requests generalizing dictation with
  | nil => simp [takeAll, fedChunks]
  | cons request requests ih =>
    cases request with
    | none => exact ih dictation
    | some request =>
      have later := ih (dictation.take recognizer fresh request).2
      rw [chunks_take, List.append_assoc] at later
      exact later.trans (by rw [fedChunks, fedChunks, ← List.filterMap_append]; rfl)

variable {F : Type} {nlohmann : Nlohmann F}

theorem asrSession_takeAll (dictation : Dictation) (inputs : List Bytes) :
    asrSession nlohmann recognizer (some fresh) (some (Dictation.heard recognizer fresh dictation.current)) inputs =
      ((dictation.takeAll recognizer fresh (inputs.map (asrRequest nlohmann))).1,
        some (Dictation.heard recognizer fresh
          (dictation.takeAll recognizer fresh (inputs.map (asrRequest nlohmann))).2.current)) := by
  induction inputs generalizing dictation with
  | nil => rfl
  | cons data inputs ih =>
    rw [asrSession, asrInference]
    cases understood : asrRequest nlohmann data with
    | none => simp only [List.map_cons, understood, Dictation.takeAll, ih dictation]
    | some request =>
      simp only [List.map_cons, understood, Dictation.takeAll, performAsr_take,
        ih (dictation.take recognizer fresh request).2]

/-- A session that `reset` has left without a stream does not get another one. -/
theorem asrSession_lost (created : Option S) (inputs : List Bytes) :
    (∀ outcome ∈ (asrSession nlohmann recognizer created none inputs).1, ∃ error, outcome = .error error) ∧
      (asrSession nlohmann recognizer created none inputs).2 = none := by
  induction inputs with
  | nil => exact ⟨nofun, rfl⟩
  | cons data inputs ih =>
    have refused : ∃ error, asrInference nlohmann recognizer created data none = (.error error, none) := by
      unfold asrInference
      split
      · exact ⟨_, rfl⟩
      · next request _ => cases request <;> exact ⟨_, rfl⟩
    obtain ⟨error, answer⟩ := refused
    rw [asrSession, answer]
    exact ⟨List.forall_mem_cons.mpr ⟨⟨error, rfl⟩, ih.1⟩, ih.2⟩

variable (nlohmann recognizer fresh)

/-- A session answers its requests as they are dictated: every sample of a request that is understood is heard once,
in its turn and in one utterance, and each answer comes of its own utterance. Where no stream can be made, the first
utterance is the last. -/
theorem asrSession_dictation (inputs : List Bytes) :
    asrSession nlohmann recognizer (some fresh) (some fresh) inputs =
        ((Dictation.dictate recognizer fresh (inputs.map (asrRequest nlohmann))).1,
          some (Dictation.heard recognizer fresh
            (Dictation.dictate recognizer fresh (inputs.map (asrRequest nlohmann))).2.current)) ∧
      (Dictation.dictate recognizer fresh (inputs.map (asrRequest nlohmann))).2.chunks =
        fedChunks (inputs.map (asrRequest nlohmann)) ∧
      ∀ outcome ∈ (asrSession nlohmann recognizer none none inputs).1, ∃ error, outcome = .error error :=
  ⟨asrSession_takeAll ⟨[], []⟩ inputs, Dictation.chunks_takeAll ⟨[], []⟩ _, (asrSession_lost none inputs).1⟩

end

end EdgeFlow.Node
