import EdgeFlow.Gateway.Python
import EdgeFlow.Library.Lines

/-! `build_prompt` of `openai_compat.py`: the messages of a chat as the one text that the model is given.

Nothing is escaped in the text. Read line by line, as the model has to, it says again what the messages say exactly
where no line inside a message looks like the beginning of another.
-/

set_option autoImplicit false

namespace EdgeFlow.Gateway
open Library Library.Byte

/-- `==` against a `str` -/
def Value.isStr (value : Value) (text : String) : Bool :=
  match value with
  | .str s => s == ascii text
  | _ => false

section
variable (python : Python)

/-- The texts of a list of parts; `isinstance(item, dict)` says that there is a `get`. -/
def partTexts : List Value → List Bytes
  | [] => []
  | .dict members :: items =>
    let item := Value.dict members
    match item.get "type" .none, item.get "text" (.str []) with
    | .ok type, .ok text => if type.isStr "text" then python.str text :: partTexts items else partTexts items
    | _, _ => partTexts items
  | _ :: items => partTexts items

def normalizeContent : Value → Bytes
  | .str s => s
  | .list items => List.intercalate [newline] ((partTexts python items).filter fun text => !text.isEmpty)
  | content => python.str content

def promptPart (role : Value) (content : Bytes) : Bytes :=
  if role.isStr "system" then ascii "System: " ++ content
  else if role.isStr "assistant" then ascii "Assistant: " ++ content
  else ascii "User: " ++ content

/-- The loop of `build_prompt`. -/
def promptParts : List Value → Except Exc (List Bytes)
  | [] => .ok []
  | message :: messages => do
    let role ← message.get "role" (.str (ascii "user"))
    let content := normalizeContent python (← message.get "content" (.str []))
    let parts ← promptParts messages
    .ok (if content.isEmpty then parts else promptPart role content :: parts)

def buildPrompt (messages : List Value) : Except Exc Bytes := do
  let parts ← promptParts python messages
  .ok (List.intercalate [newline] (parts ++ [ascii "Assistant:"]))

end

/-! ## Turns -/

inductive Speaker where
  | system
  | assistant
  | user
  deriving DecidableEq

structure Turn where
  speaker : Speaker
  content : Bytes
  deriving DecidableEq

namespace Speaker

def label : Speaker → Bytes
  | system => ascii "System: "
  | assistant => ascii "Assistant: "
  | user => ascii "User: "

/-- Any other role speaks for the user. -/
def ofRole (role : Value) : Speaker :=
  if role.isStr "system" then system else if role.isStr "assistant" then assistant else user

end Speaker

/-- What the messages say: an empty one says nothing. -/
def turns (python : Python) : List Value → Except Exc (List Turn)
  | [] => .ok []
  | message :: messages => do
    let role ← message.get "role" (.str (ascii "user"))
    let content := normalizeContent python (← message.get "content" (.str []))
    let rest ← turns python messages
    .ok (if content.isEmpty then rest else ⟨.ofRole role, content⟩ :: rest)

def Turn.text (turn : Turn) : Bytes := turn.speaker.label ++ turn.content

def renderTurns (turns : List Turn) : Bytes := List.intercalate [newline] (turns.map Turn.text ++ [ascii "Assistant:"])

/-- Whether a line begins a turn, and with what. -/
def opens (line : Bytes) : Option (Speaker × Bytes) :=
  ([.system, .assistant, .user].find? fun speaker : Speaker => decide (speaker.label <+: line)).map fun speaker =>
    (speaker, line.drop speaker.label.length)

/-- The lines before the first turn, and the turns. -/
def readLines : List Bytes → List Bytes × List Turn
  | [] => ([], [])
  | line :: rest =>
    let (more, turns) := readLines rest
    match opens line with
    | some (speaker, first) => ([], ⟨speaker, List.intercalate [newline] (first :: more)⟩ :: turns)
    | none => (line :: more, turns)

/-- The turns of a prompt, whose last line is for the answer. -/
def readPrompt (prompt : Bytes) : List Turn := (readLines (prompt.splitOn newline).dropLast).2

/-- No line inside the turn looks like the beginning of another. -/
def Turn.Plain (turn : Turn) : Prop := ∀ line ∈ (turn.content.splitOn newline).tail, opens line = none

instance (turn : Turn) : Decidable turn.Plain := inferInstanceAs (Decidable (∀ _ ∈ _, _))

/-- The turns that a turn is read as. -/
def Turn.pieces (turn : Turn) : List Turn := (readLines (turn.text.splitOn newline)).2

/-! ## Reading a prompt -/

theorem newline_notMem_label (speaker : Speaker) : newline ∉ speaker.label := by
  cases speaker <;> decide

theorem opens_label (speaker : Speaker) (first : Bytes) : opens (speaker.label ++ first) = some (speaker, first) := by
  have apart (other : Speaker) (different : other ≠ speaker) : ¬ other.label <+: speaker.label ++ first := by
    rintro ⟨rest, same⟩
    have heads := congrArg List.head? same
    revert heads
    cases other <;> cases speaker <;> first | exact absurd rfl different | simp [Speaker.label, ascii]
  have only (other : Speaker) : decide (other.label <+: speaker.label ++ first) = decide (other = speaker) :=
    decide_eq_decide.mpr ⟨fun begins => by_contra fun different => apart other different begins,
      fun same => same ▸ List.prefix_append _ _⟩
  have found : ([.system, .assistant, .user].find? fun other : Speaker =>
      decide (other.label <+: speaker.label ++ first)) = some speaker := by
    simp only [only]
    cases speaker <;> rfl
  rw [opens, found, Option.map_some, List.drop_left]

/-- The lines of a turn: the label stands before the first. -/
theorem text_lines (turn : Turn) : ∃ first more, turn.content.splitOn newline = first :: more ∧
    turn.text.splitOn newline = (turn.speaker.label ++ first) :: more := by
  cases lines : turn.content.splitOn newline with
  | nil => exact absurd lines (List.splitOn_ne_nil _ _)
  | cons first more =>
    refine ⟨first, more, rfl, ?_⟩
    rw [Turn.text, Lines.splitOn_append_of_notMem (newline_notMem_label turn.speaker), lines]
    rfl

theorem readLines_of_opens {line first : Bytes} {speaker : Speaker} (opened : opens line = some (speaker, first))
    (rest : List Bytes) : readLines (line :: rest) =
      ([], ⟨speaker, List.intercalate [newline] (first :: (readLines rest).1)⟩ :: (readLines rest).2) := by
  rw [readLines, opened]

theorem readLines_of_none {line : Bytes} (closed : opens line = none) (rest : List Bytes) :
    readLines (line :: rest) = (line :: (readLines rest).1, (readLines rest).2) := by
  rw [readLines, closed]

theorem readLines_append (before : List Bytes) {after : List Bytes} (begins : (readLines after).1 = []) :
    readLines (before ++ after) = ((readLines before).1, (readLines before).2 ++ (readLines after).2) := by
  induction before with
  | nil => exact Prod.ext begins rfl
  | cons line before ih =>
    rw [List.cons_append]
    cases opened : opens line with
    | some begun => rw [readLines_of_opens opened, readLines_of_opens opened, ih]; rfl
    | none => rw [readLines_of_none opened, readLines_of_none opened, ih]

theorem readLines_length (lines : List Bytes) :
    (readLines lines).2.length = lines.countP fun line => (opens line).isSome := by
  induction lines with
  | nil => rfl
  | cons line lines ih =>
    rw [List.countP_cons]
    cases opened : opens line with
    | some begun => rw [readLines_of_opens opened, List.length_cons, ih]; rfl
    | none => rw [readLines_of_none opened, ih]; rfl

theorem readLines_of_closed {lines : List Bytes} (closed : ∀ line ∈ lines, opens line = none) :
    readLines lines = (lines, []) := by
  induction lines with
  | nil => rfl
  | cons line lines ih =>
    obtain ⟨here, behind⟩ := List.forall_mem_cons.mp closed
    rw [readLines_of_none here, ih behind]

/-- A turn begins with its label. -/
theorem readLines_text (turn : Turn) : (readLines (turn.text.splitOn newline)).1 = [] := by
  obtain ⟨first, more, -, lines⟩ := text_lines turn
  rw [lines, readLines_of_opens (opens_label turn.speaker first)]

theorem pieces_length (turn : Turn) : turn.pieces.length =
    (turn.content.splitOn newline).tail.countP (fun line => (opens line).isSome) + 1 := by
  obtain ⟨first, more, content, lines⟩ := text_lines turn
  rw [Turn.pieces, readLines_length, lines, List.countP_cons, opens_label, content]
  rfl

/-- A turn is read as itself exactly where no line inside it begins another. -/
theorem pieces_eq_iff (turn : Turn) : turn.pieces = [turn] ↔ turn.Plain := by
  constructor
  · intro itself
    have count := pieces_length turn
    rw [itself, List.length_singleton] at count
    intro line inside
    have closed := List.countP_eq_zero.mp (Nat.succ.inj count).symm line inside
    simpa using closed
  · intro plain
    obtain ⟨first, more, content, lines⟩ := text_lines turn
    rw [Turn.Plain, content, List.tail_cons] at plain
    have whole : List.intercalate [newline] (first :: more) = turn.content := by
      rw [← content, List.intercalate_splitOn]
    rw [Turn.pieces, lines, readLines_of_opens (opens_label turn.speaker first), readLines_of_closed plain, whole]

/-- The turns are read one behind the other. -/
theorem readLines_texts (turns : List Turn) :
    readLines (turns.flatMap fun turn => turn.text.splitOn newline) = ([], turns.flatMap Turn.pieces) := by
  induction turns with
  | nil => rfl
  | cons turn turns ih =>
    rw [List.flatMap_cons, readLines_append _ (by rw [ih]), ih, readLines_text]
    rfl

theorem readPrompt_renderTurns (turns : List Turn) : readPrompt (renderTurns turns) = turns.flatMap Turn.pieces := by
  have last : (ascii "Assistant:").splitOn newline = [ascii "Assistant:"] := List.splitOn_eq_singleton (by decide)
  rw [readPrompt, renderTurns, Lines.splitOn_intercalate_flatMap (by simp), List.flatMap_append,
    List.flatMap_singleton, last, List.dropLast_concat, List.flatMap_map, readLines_texts]

theorem flatMap_pieces_eq_iff (turns : List Turn) : turns.flatMap Turn.pieces = turns ↔ ∀ turn ∈ turns, turn.Plain := by
  induction turns with
  | nil => exact ⟨fun _ => nofun, fun _ => rfl⟩
  | cons turn turns ih =>
    rw [List.flatMap_cons, List.forall_mem_cons, ← pieces_eq_iff, ← ih]
    constructor
    · intro same
      -- each turn is read as one at least, so that none is read as more
      have more : turns.length ≤ (turns.flatMap Turn.pieces).length := by
        rw [List.length_flatMap, ← List.length_map (fun turn => turn.pieces.length)]
        refine List.length_le_sum_of_one_le _ fun count mem => ?_
        obtain ⟨turn, -, rfl⟩ := List.mem_map.mp mem
        rw [pieces_length]
        exact Nat.succ_pos _
      have lengths := congrArg List.length same
      rw [List.length_append, List.length_cons, pieces_length] at lengths
      have single : turn.pieces.length = 1 := by
        rw [pieces_length]
        omega
      obtain ⟨piece, shape⟩ := List.length_eq_one_iff.mp single
      rw [shape, List.singleton_append, List.cons.injEq] at same
      exact ⟨shape.trans (congrArg (fun turn => [turn]) same.1), same.2⟩
    · rintro ⟨itself, others⟩
      rw [itself, others]
      rfl

/-! ## The messages -/

section
variable {python : Python}

theorem promptPart_eq (role : Value) (content : Bytes) :
    promptPart role content = Turn.text ⟨.ofRole role, content⟩ := by
  rw [promptPart, Turn.text, Speaker.ofRole]
  split
  · rfl
  · split <;> rfl

/-- The parts of a prompt are the turns of the messages. -/
theorem promptParts_eq (messages : List Value) :
    promptParts python messages = (turns python messages).map (List.map Turn.text) := by
  induction messages with
  | nil => rfl
  | cons message messages ih =>
    rw [promptParts, turns, ih]
    cases message.get "role" (.str (ascii "user")) with
    | error exc => rfl
    | ok role =>
      cases message.get "content" (.str []) with
      | error exc => rfl
      | ok content =>
        cases turns python messages with
        | error exc => rfl
        | ok rest =>
          simp only [Except.map, bind, Except.bind, promptPart_eq]
          split <;> rfl

theorem buildPrompt_eq (messages : List Value) :
    buildPrompt python messages = (turns python messages).map renderTurns := by
  rw [buildPrompt, promptParts_eq]
  cases turns python messages <;> rfl

/-- The prompt has what the messages say, and it is read as that exactly where no line inside a message looks like the
beginning of another message. -/
theorem readPrompt_buildPrompt_iff {messages : List Value} {said : List Turn}
    (meant : turns python messages = .ok said) : buildPrompt python messages = .ok (renderTurns said) ∧
      (readPrompt (renderTurns said) = said ↔ ∀ turn ∈ said, turn.Plain) := by
  refine ⟨?_, ?_⟩
  · rw [buildPrompt_eq, meant]
    rfl
  · rw [readPrompt_renderTurns, flatMap_pieces_eq_iff]

end

end EdgeFlow.Gateway
