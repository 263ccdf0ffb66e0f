import EdgeFlow.Library.Utf8

/-! A decoder that is given a UTF-8 text in chunks and passes on whole characters.

Where the bytes are no character, U+FFFD takes their place, and the byte that showed it
is read again. A byte order mark in front of everything is left out.
-/

set_option autoImplicit false

namespace EdgeFlow.Library.Utf8

def replacement : Bytes := [0xEF, 0xBF, 0xBD]
def byteOrderMark : Bytes := [0xEF, 0xBB, 0xBF]

/-- How far the next character has been read, and its bytes so far. -/
structure Decoder where
  state : State
  pending : Bytes

namespace Decoder

def between : Decoder := ⟨.start, []⟩

/-- The first byte of a character. -/
def begin (b : Byte) : Decoder × Bytes :=
  match lead b with
  | some .start => (between, [b])
  | some state => (⟨state, [b]⟩, [])
  | none => (between, replacement)

def push (decoder : Decoder) (b : Byte) : Decoder × Bytes :=
  match step decoder.state b with
  | some .start => (between, decoder.pending ++ [b])
  | some state => (⟨state, decoder.pending ++ [b]⟩, [])
  | none =>
    if decoder.state = .start then (between, replacement)
    else
      let (decoder, text) := begin b
      (decoder, replacement ++ text)

def feed (decoder : Decoder) : Bytes → Decoder × Bytes
  | [] => (decoder, [])
  | b :: rest =>
    let (decoder, text) := decoder.push b
    let (decoder, more) := decoder.feed rest
    (decoder, text ++ more)

/-- What the end of the input makes of an unfinished character. -/
def flush (decoder : Decoder) : Bytes := if decoder.state = .start then [] else replacement

/-- Between two characters nothing is pending. -/
def Tidy (decoder : Decoder) : Prop := decoder.state = .start → decoder.pending = []

theorem push_step {decoder : Decoder} {b : Byte} {after : State} (taken : step decoder.state b = some after) :
    (decoder.push b).1.state = after ∧ (decoder.push b).1.Tidy ∧
      (decoder.push b).2 ++ (decoder.push b).1.pending = decoder.pending ++ [b] := by
  unfold push
  rw [taken]
  cases after
  case start => exact ⟨rfl, fun _ => rfl, List.append_nil _⟩
  all_goals exact ⟨rfl, fun isStart => State.noConfusion isStart, rfl⟩

/-- As long as the input is UTF-8, it is passed on but for the bytes of an unfinished character. -/
theorem feed_follow {decoder : Decoder} {input : Bytes} {after : State} (tidy : decoder.Tidy)
    (valid : follow step decoder.state input = some after) :
    (decoder.feed input).1.state = after ∧ (decoder.feed input).1.Tidy ∧
      (decoder.feed input).2 ++ (decoder.feed input).1.pending = decoder.pending ++ input := by
  induction input generalizing decoder with
  | nil =>
    cases valid
    exact ⟨rfl, tidy, (List.append_nil _).symm⟩
  | cons b input ih =>
    rw [follow_cons] at valid
    obtain ⟨middle, taken, rest⟩ := Option.bind_eq_some_iff.mp valid
    obtain ⟨state, tidyMiddle, passed⟩ := push_step taken
    rw [← state] at rest
    obtain ⟨stateAfter, tidyAfter, passedRest⟩ := ih tidyMiddle rest
    refine ⟨stateAfter, tidyAfter, ?_⟩
    show (decoder.push b).2 ++ ((decoder.push b).1.feed input).2 ++ ((decoder.push b).1.feed input).1.pending = _
    rw [List.append_assoc, passedRest, ← List.append_assoc, passed, List.append_assoc, List.singleton_append]

end Decoder

/-- A decoder that has not passed anything on yet looks out for a byte order mark. -/
structure TextDecoder where
  decoder : Decoder
  started : Bool

namespace TextDecoder

def new : TextDecoder := ⟨.between, false⟩

/-- `decode(chunk, { stream: true })` -/
def decode (decoder : TextDecoder) (chunk : Bytes) : TextDecoder × Bytes :=
  let (inner, text) := decoder.decoder.feed chunk
  if decoder.started || text.isEmpty then (⟨inner, decoder.started⟩, text)
  else (⟨inner, true⟩, if byteOrderMark <+: text then text.drop byteOrderMark.length else text)

/-- `decode()` -/
def finish (decoder : TextDecoder) : Bytes := decoder.decoder.flush

/-- No byte order mark is going to be left out of what is coming. -/
def Plain (decoder : TextDecoder) (input : Bytes) : Prop :=
  decoder.started = true ∨ ¬ byteOrderMark <+: decoder.decoder.pending ++ input

/-- A chunk of a text without a byte order mark is passed on as it is. -/
theorem decode_follow {decoder : TextDecoder} {chunk rest : Bytes} {after : State} (tidy : decoder.decoder.Tidy)
    (plain : decoder.Plain (chunk ++ rest)) (valid : follow step decoder.decoder.state chunk = some after) :
    (decoder.decode chunk).1.decoder.state = after ∧ (decoder.decode chunk).1.decoder.Tidy ∧
      (decoder.decode chunk).1.Plain rest ∧
      (decoder.decode chunk).2 ++ (decoder.decode chunk).1.decoder.pending = decoder.decoder.pending ++ chunk := by
  obtain ⟨state, tidyAfter, passed⟩ := Decoder.feed_follow tidy valid
  unfold Plain at plain ⊢
  simp only [decode]
  generalize decoder.decoder.feed chunk = fed at state tidyAfter passed ⊢
  obtain ⟨inner, text⟩ := fed
  have whole : text ++ (inner.pending ++ rest) = decoder.decoder.pending ++ (chunk ++ rest) := by
    rw [← List.append_assoc, ← List.append_assoc, passed]
  split
  · next quiet =>
    refine ⟨state, tidyAfter, ?_, passed⟩
    rcases plain with started | plain
    · exact .inl started
    · cases isStarted : decoder.started with
      | true => exact .inl rfl
      | false =>
        -- nothing has been passed on, so what is pending is all there was
        have nothing : text = [] := by simpa [isStarted] using quiet
        rw [nothing, List.nil_append] at whole
        exact .inr (whole ▸ plain)
  · next first =>
    have fresh : decoder.started = false ∧ text ≠ [] := by simpa using first
    have noMark : ¬ byteOrderMark <+: text := fun mark => by
      rcases plain with started | plain
      · rw [fresh.1] at started
        cases started
      · exact plain (whole ▸ mark.trans (List.prefix_append _ _))
    rw [if_neg noMark]
    exact ⟨state, tidyAfter, .inl rfl, passed⟩

end TextDecoder

end EdgeFlow.Library.Utf8
