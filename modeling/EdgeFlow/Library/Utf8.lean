import EdgeFlow.Library.Bytes
import EdgeFlow.Library.Run

/-! Well-formed UTF-8 as an automaton over the bytes, and cuts at ASCII characters. -/

set_option autoImplicit false

namespace EdgeFlow.Library.Utf8

/-- How far a character has been read, and what its next byte may be. -/
inductive State where
  /-- between two characters -/
  | start
  | one
  | two
  | three
  /-- after `E0`, where a low second byte would be overlong -/
  | shortThree
  /-- after `ED`, where a high second byte would be a surrogate -/
  | surrogate
  /-- after `F0`, where a low second byte would be overlong -/
  | shortFour
  /-- after `F4`, where a high second byte would be past U+10FFFF -/
  | pastEnd
  deriving DecidableEq, Repr

/-- The bounds of the next byte of a character and the state after it. -/
def State.next : State → Option (Byte × Byte × State)
  | .start => none
  | .one => some (0x80, 0xBF, .start)
  | .two => some (0x80, 0xBF, .one)
  | .three => some (0x80, 0xBF, .two)
  | .shortThree => some (0xA0, 0xBF, .one)
  | .surrogate => some (0x80, 0x9F, .one)
  | .shortFour => some (0x90, 0xBF, .two)
  | .pastEnd => some (0x80, 0x8F, .two)

/-- What the first byte of a character leads to. -/
def lead (b : Byte) : Option State :=
  if b < 0x80 then some .start
  else if b < 0xC2 then none
  else if b < 0xE0 then some .one
  else if b = 0xE0 then some .shortThree
  else if b = 0xED then some .surrogate
  else if b < 0xF0 then some .two
  else if b = 0xF0 then some .shortFour
  else if b < 0xF4 then some .three
  else if b = 0xF4 then some .pastEnd
  else none

def step (state : State) (b : Byte) : Option State :=
  match state.next with
  | none => lead b
  | some (low, high, after) => if low ≤ b ∧ b ≤ high then some after else none

/-- The text is a sequence of whole characters. -/
def Valid (text : Bytes) : Prop := follow step .start text = some .start

instance (text : Bytes) : Decidable (Valid text) :=
  inferInstanceAs (Decidable (follow step .start text = some .start))

abbrev IsAscii (b : Byte) : Prop := b < 0x80

/-- An ASCII character stands between two characters and leaves it so. -/
theorem step_ascii {state after : State} {b : Byte} (isAscii : IsAscii b)
    (taken : step state b = some after) : state = .start ∧ after = .start := by
  have short : ¬ (0x80 : Byte) ≤ b := by simpa using isAscii
  cases state with
  | start =>
    simp only [step, State.next, lead, if_pos isAscii, Option.some.injEq] at taken
    exact ⟨rfl, taken.symm⟩
  | one | two | three | shortThree | surrogate | shortFour | pastEnd =>
    simp only [step, State.next, Option.ite_none_right_eq_some] at taken
    have := taken.1.1
    simp only [IsAscii] at isAscii
    grind

theorem step_start_ascii {b : Byte} (isAscii : IsAscii b) : step .start b = some .start := by
  simp only [step, State.next, lead, if_pos isAscii]

@[simp] theorem valid_nil : Valid [] := rfl

theorem Valid.append {first second : Bytes} (firstValid : Valid first) (secondValid : Valid second) :
    Valid (first ++ second) := by
  rw [Valid, follow_append, firstValid]
  exact secondValid

theorem valid_ascii {text : Bytes} (isAscii : ∀ b ∈ text, IsAscii b) : Valid text := by
  induction text with
  | nil => rfl
  | cons b text ih =>
    rw [Valid, follow_cons, step_start_ascii (isAscii b List.mem_cons_self)]
    exact ih fun c member => isAscii c (List.mem_cons_of_mem b member)

/-- ASCII text stands between two characters as well. -/
theorem follow_ascii {text : Bytes} (isAscii : ∀ b ∈ text, IsAscii b) (nonempty : text ≠ []) (state : State) :
    follow step state text = if state = .start then some .start else none := by
  split
  · next isStart =>
    subst isStart
    exact valid_ascii isAscii
  · next inside =>
    cases text with
    | nil => exact absurd rfl nonempty
    | cons b text =>
      have refused : step state b = none := by
        rw [Option.eq_none_iff_forall_ne_some]
        exact fun after taken => inside (step_ascii (isAscii b List.mem_cons_self) taken).1
      rw [follow_cons, refused]
      rfl

/-- Cutting a valid text at an ASCII character leaves valid texts on both sides. -/
theorem Valid.split {before after : Bytes} {b : Byte} (isAscii : IsAscii b)
    (whole : Valid (before ++ b :: after)) : Valid before ∧ Valid after := by
  rw [Valid, follow_append] at whole
  obtain ⟨middle, front, back⟩ := Option.bind_eq_some_iff.mp whole
  rw [follow_cons] at back
  obtain ⟨next, taken, rest⟩ := Option.bind_eq_some_iff.mp back
  obtain ⟨rfl, rfl⟩ := step_ascii isAscii taken
  exact ⟨front, rest⟩

end EdgeFlow.Library.Utf8
