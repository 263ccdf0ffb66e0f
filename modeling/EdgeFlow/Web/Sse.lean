import EdgeFlow.Library.Json.Parsing
import EdgeFlow.Library.Lines
import EdgeFlow.Library.TextDecoder

/-! `sse.js`: the web client's reader of a streamed chat.

A string is given by its UTF-8, a value that a program text gets from `JSON.parse` by
its JSON, and `undefined` by nothing.
-/

set_option autoImplicit false

namespace EdgeFlow.Web
open Library Library.Byte

/-- What the language does with numbers, and what it writes for values that are not strings. -/
structure JavaScript where
  isZero : Json.Number → Bool
  toString : Json → Bytes

/-- What `streamChatCompletion` rejects with. -/
inductive Thrown where
  | http
  | invalidChunk
  | reported (message : Json)
  /-- of a property of `null` -/
  | typeError

/-- The content so far, and the calls of `onDelta`. -/
structure Progress where
  content : Bytes
  calls : List (Json × Bytes)

section
variable (js : JavaScript)

def truthy : Json → Bool
  | .null => false
  | .bool b => b
  | .number n => !js.isZero n
  | .string s => !s.bytes.isEmpty
  | .array _ | .object _ => true

/-- `value?.name`; the last member of a name counts, and only an object has one of the names that are asked for. -/
def property (name : String) : Json → Option Json
  | .object members => (members.reverse.find? fun member => member.1.bytes == ascii name).map (·.2)
  | _ => none

/-- `value?.[0]`; a character has none of the properties that are asked for next. -/
def first : Json → Option Json
  | .array items => items.head?
  | .object members => property "0" (.object members)
  | _ => none

/-- `replace(/\r\n/g, "\n")` -/
def normalize : Bytes → Bytes
  | [] => []
  | [b] => [b]
  | a :: b :: rest => if a = 13 ∧ b = newline then newline :: normalize rest else a :: normalize (b :: rest)

/-- White space and line terminators. -/
def spaces : List Bytes :=
  [[9], [10], [11], [12], [13], [32], [0xC2, 0xA0], [0xE1, 0x9A, 0x80], [0xE2, 0x80, 0x80], [0xE2, 0x80, 0x81],
    [0xE2, 0x80, 0x82], [0xE2, 0x80, 0x83], [0xE2, 0x80, 0x84], [0xE2, 0x80, 0x85], [0xE2, 0x80, 0x86],
    [0xE2, 0x80, 0x87], [0xE2, 0x80, 0x88], [0xE2, 0x80, 0x89], [0xE2, 0x80, 0x8A], [0xE2, 0x80, 0xA8],
    [0xE2, 0x80, 0xA9], [0xE2, 0x80, 0xAF], [0xE2, 0x81, 0x9F], [0xE3, 0x80, 0x80], [0xEF, 0xBB, 0xBF]]

/-- Takes any of the words off the front, as often as the bound allows. -/
def dropWords (words : List Bytes) : Nat → Bytes → Bytes
  | 0, text => text
  | bound + 1, text =>
    match words.find? (· <+: text) with
    | some word => dropWords words bound (text.drop word.length)
    | none => text

def trimStart (text : Bytes) : Bytes := dropWords spaces text.length text

def trimEnd (text : Bytes) : Bytes := (dropWords (spaces.map List.reverse) text.length text.reverse).reverse

def trim (text : Bytes) : Bytes := trimEnd (trimStart text)

def parseSseData (event : Bytes) : Bytes :=
  trim (List.intercalate [newline]
    (((event.splitOn newline).filter fun line => decide (ascii "data:" <+: line)).map fun line => trim (line.drop 5)))

/-- What is appended for a value that is no string is its text. -/
def text : Json → Bytes
  | .string s => s.bytes
  | value => js.toString value

/-- The body of the loop over the events. -/
def processEvent (progress : Progress) (event : Bytes) : Except Thrown Progress :=
  let data := parseSseData event
  if data = [] ∨ data = ascii "[DONE]" then .ok progress
  else
    match Json.parse data with
    | none => .error .invalidChunk
    | some .null => .error .typeError
    | some payloadChunk =>
      let message := property "error" payloadChunk >>= property "message"
      if message.any (truthy js) then .error (.reported (message.getD .null))
      else
        match property "choices" payloadChunk >>= first >>= property "delta" >>= property "content" with
        | some delta =>
          if truthy js delta then
            let content := progress.content ++ text js delta
            .ok ⟨content, progress.calls ++ [(delta, content)]⟩
          else .ok progress
        | none => .ok progress

def processEvents (progress : Progress) : List Bytes → Progress × Option Thrown
  | [] => (progress, none)
  | event :: rest =>
    match processEvent js progress event with
    | .ok progress => processEvents progress rest
    | .error thrown => (progress, some thrown)

/-- What is left in the buffer, and what has come of the events before it. -/
def processBuffer (buffer : Bytes) (progress : Progress) (flush : Bool) : Bytes × Progress × Option Thrown :=
  let events := Lines.paragraphs newline (normalize buffer)
  if flush then ([], processEvents js progress events)
  else (events.getLast?.getD [], processEvents js progress events.dropLast)

/-- The loop of reads; the list is what `reader.read()` goes on to return. -/
def readAll : Utf8.TextDecoder → (buffer : Bytes) → Progress → List Bytes → Progress × Option Thrown
  | decoder, buffer, progress, [] => (processBuffer js (buffer ++ decoder.finish) progress true).2
  | decoder, buffer, progress, value :: rest =>
    let (decoder, piece) := decoder.decode value
    match processBuffer js (buffer ++ piece) progress false with
    | (buffer, progress, none) => readAll decoder buffer progress rest
    | (_, progress, some thrown) => (progress, some thrown)

/-- A response, with the chunks of its body. -/
structure Response where
  ok : Bool
  body : Option (List Bytes)

def streamChatCompletion (response : Response) : Progress × Option Thrown :=
  match response.ok, response.body with
  | true, some chunks => readAll js .new [] ⟨[], []⟩ chunks
  | _, _ => (⟨[], []⟩, some .http)

/-! ## Whatever the chunks -/

theorem normalize_of_notMem {buffer : Bytes} (absent : (13 : Byte) ∉ buffer) : normalize buffer = buffer := by
  induction buffer using normalize.induct with
  | case1 | case2 => rfl
  | case3 a b rest both ih => exact absurd (both.1 ▸ List.mem_cons_self) absent
  | case4 a b rest other ih => rw [normalize, if_neg other, ih fun later => absent (List.mem_cons_of_mem a later)]

variable {js}

theorem processEvents_append (progress : Progress) (first second : List Bytes) :
    processEvents js progress (first ++ second) =
      match processEvents js progress first with
      | (progress, none) => processEvents js progress second
      | (progress, some thrown) => (progress, some thrown) := by
  induction first generalizing progress with
  | nil => rfl
  | cons event first ih =>
    rw [List.cons_append, processEvents, processEvents]
    cases processEvent js progress event with
    | ok after => exact ih after
    | error thrown => rfl

/-- However the response is cut into chunks, the events that are processed are those of the whole text. -/
theorem readAll_eq {decoder : Utf8.TextDecoder} {buffer : Bytes} {progress : Progress} {chunks : List Bytes}
    (tidy : decoder.decoder.Tidy) (plain : decoder.Plain chunks.flatten)
    (valid : follow Utf8.step decoder.decoder.state chunks.flatten = some .start)
    (noReturn : (13 : Byte) ∉ buffer ++ (decoder.decoder.pending ++ chunks.flatten)) :
    readAll js decoder buffer progress chunks =
      processEvents js progress (Lines.paragraphs newline (buffer ++ (decoder.decoder.pending ++ chunks.flatten))) := by
  induction chunks generalizing decoder buffer progress with
  | nil =>
    have atStart : decoder.decoder.state = .start := Option.some.inj valid
    have nothing : decoder.decoder.pending = [] := tidy atStart
    have finished : decoder.finish = [] := if_pos atStart
    rw [nothing, List.flatten_nil, List.append_nil, List.append_nil] at noReturn ⊢
    rw [readAll, finished, List.append_nil, processBuffer, normalize_of_notMem noReturn]
    rfl
  | cons value rest ih =>
    rw [List.flatten_cons] at plain valid noReturn ⊢
    rw [follow_append] at valid
    obtain ⟨middle, first, later⟩ := Option.bind_eq_some_iff.mp valid
    obtain ⟨state, tidyAfter, plainAfter, passed⟩ := Utf8.TextDecoder.decode_follow tidy plain first
    rw [readAll]
    generalize decoder.decode value = decoded at state tidyAfter plainAfter passed ⊢
    obtain ⟨after, piece⟩ := decoded
    -- what the decoder holds back of this chunk comes with the next one
    have whole : buffer ++ (decoder.decoder.pending ++ (value ++ rest.flatten)) =
        buffer ++ piece ++ (after.decoder.pending ++ rest.flatten) := by
      rw [← List.append_assoc decoder.decoder.pending, ← passed]
      simp
    rw [whole] at noReturn ⊢
    have noReturnHere : (13 : Byte) ∉ buffer ++ piece := fun member => noReturn (List.mem_append_left _ member)
    -- the last paragraph may go on, so it stays in the buffer
    obtain ⟨events, last, split⟩ : ∃ events last, Lines.paragraphs newline (buffer ++ piece) = events ++ [last] :=
      ⟨_, _, (List.dropLast_append_getLast (Lines.paragraphs_ne_nil _)).symm⟩
    have noReturnLast : (13 : Byte) ∉ last ++ (after.decoder.pending ++ rest.flatten) := fun member => by
      rcases List.mem_append.mp member with inLast | inRest
      · exact noReturnHere (Lines.mem_of_mem_paragraphs (split ▸ List.mem_append_right _ List.mem_cons_self) inLast)
      · exact noReturn (List.mem_append_right _ inRest)
    rw [Lines.paragraphs_append split, processEvents_append]
    simp only [processBuffer, normalize_of_notMem noReturnHere, split, List.dropLast_concat,
      Bool.false_eq_true, if_false,
      List.getLast?_concat, Option.getD_some]
    cases processed : processEvents js progress events with
    | mk progress' thrown =>
      cases thrown with
      | none => exact ih tidyAfter plainAfter (state ▸ later) noReturnLast
      | some thrown => rfl

/-! ## One event -/

theorem dropWords_of_none {words : List Bytes} {text : Bytes} (other : ∀ word ∈ words, ¬ word <+: text) (bound : Nat) :
    dropWords words bound text = text := by
  cases bound with
  | zero => rfl
  | succ bound =>
    have absent : words.find? (· <+: text) = none := by simpa using other
    simp only [dropWords, absent]

/-- A text that begins and ends with printable ASCII characters is not trimmed. -/
theorem trim_of_ends {text : Bytes} {head last : Byte} (begins : text.head? = some head)
    (ends : text.getLast? = some last)
    (visible : ∀ word ∈ spaces, word.head? ≠ some head ∧ word.getLast? ≠ some last) : trim text = text := by
  have front : ∀ word ∈ spaces, ¬ word <+: text := by
    rintro word member ⟨rest, rfl⟩
    have nonempty : word ≠ [] := by
      have all : ∀ word ∈ spaces, word ≠ [] := by decide
      exact all word member
    obtain ⟨b, more, rfl⟩ := List.exists_cons_of_ne_nil nonempty
    exact (visible _ member).1 begins
  have back : ∀ word ∈ spaces.map List.reverse, ¬ word <+: text.reverse := by
    intro reversed member
    obtain ⟨word, isSpace, rfl⟩ := List.mem_map.mp member
    rintro ⟨rest, same⟩
    have nonempty : word ≠ [] := by
      have all : ∀ word ∈ spaces, word ≠ [] := by decide
      exact all word isSpace
    have atEnd : text.getLast? = word.getLast? := by
      rw [← List.head?_reverse, ← same, List.head?_append_of_ne_nil _ (by simpa using nonempty), List.head?_reverse]
    exact (visible _ isSpace).2 (atEnd ▸ ends)
  rw [trim, trimStart, dropWords_of_none front, trimEnd, dropWords_of_none back, List.reverse_reverse]

/-- The one space after the colon goes. -/
theorem trim_space {text : Bytes} {head last : Byte} (begins : text.head? = some head)
    (ends : text.getLast? = some last)
    (visible : ∀ word ∈ spaces, word.head? ≠ some head ∧ word.getLast? ≠ some last) : trim (space :: text) = text := by
  have isSpace : spaces.find? (· <+: space :: text) = some [space] := by
    rw [show space = 32 from rfl]
    simp [spaces, List.cons_prefix_cons]
  have same : trimStart (space :: text) = trimStart text := by
    simp only [trimStart, List.length_cons, dropWords, isSpace]
    rfl
  rw [trim, same]
  exact trim_of_ends begins ends visible

theorem parseSseData_data {json : Bytes} {head last : Byte} (begins : json.head? = some head)
    (ends : json.getLast? = some last)
    (visible : ∀ word ∈ spaces, word.head? ≠ some head ∧ word.getLast? ≠ some last) (oneLine : newline ∉ json) :
    parseSseData (ascii "data: " ++ json) = json := by
  have absent : newline ∉ ascii "data: " ++ json := by
    rw [List.mem_append, not_or]
    exact ⟨by decide, oneLine⟩
  have isData : ascii "data:" <+: ascii "data: " ++ json := ⟨space :: json, rfl⟩
  have rest : (ascii "data: " ++ json).drop 5 = space :: json := rfl
  simp only [parseSseData, List.splitOn_eq_singleton absent, List.filter_cons, isData, decide_true, if_true,
    List.filter_nil, List.map_cons, List.map_nil, rest, trim_space begins ends visible]
  rw [show List.intercalate [newline] [json] = json by simp [List.intercalate]]
  exact trim_of_ends begins ends visible

end

end EdgeFlow.Web
