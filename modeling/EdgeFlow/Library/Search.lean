import EdgeFlow.Library.Lines

/-! First occurrences of a pattern in a text, as `std::string::find` returns them. -/

set_option autoImplicit false

namespace EdgeFlow.Library.Search

variable {α : Type} [DecidableEq α]

/-- The position of the first occurrence. -/
def find (pattern : List α) : List α → Option Nat
  | [] => if pattern = [] then some 0 else none
  | head :: rest =>
    if pattern <+: head :: rest then some 0 else (find pattern rest).map (· + 1)

/-- A pattern standing between two parts of a text. -/
def OccursAt (pattern text before after : List α) : Prop := text = before ++ pattern ++ after

/-- No occurrence begins further to the front. -/
structure FirstAt (pattern text before after : List α) : Prop where
  occurs : OccursAt pattern text before after
  first : ∀ before' after', OccursAt pattern text before' after' → before.length ≤ before'.length

omit [DecidableEq α] in
theorem FirstAt.unique {pattern text before after before' after' : List α}
    (here : FirstAt pattern text before after) (there : FirstAt pattern text before' after') :
    before = before' ∧ after = after' := by
  have length : before.length = before'.length :=
    Nat.le_antisymm (here.first _ _ there.occurs) (there.first _ _ here.occurs)
  have same : before ++ (pattern ++ after) = before' ++ (pattern ++ after') := by
    rw [← List.append_assoc, ← List.append_assoc]
    exact here.occurs.symm.trans there.occurs
  obtain ⟨befores, rests⟩ := List.append_inj same length
  exact ⟨befores, List.append_cancel_left rests⟩

theorem find_some {pattern text : List α} {position : Nat} (found : find pattern text = some position) :
    ∃ before after, before.length = position ∧ FirstAt pattern text before after := by
  induction text generalizing position with
  | nil =>
    simp only [find, Option.ite_none_right_eq_some, Option.some.injEq] at found
    obtain ⟨rfl, rfl⟩ := found
    exact ⟨[], [], rfl, rfl, fun _ _ _ => Nat.zero_le _⟩
  | cons head rest ih =>
    rw [find] at found
    split at found
    · next isPrefix =>
      obtain ⟨after, shape⟩ := isPrefix
      cases found
      exact ⟨[], after, rfl, shape.symm, fun _ _ _ => Nat.zero_le _⟩
    · next notPrefix =>
      obtain ⟨inRest, foundRest, rfl⟩ := Option.map_eq_some_iff.mp found
      obtain ⟨before, after, length, occurs, first⟩ := ih foundRest
      refine ⟨head :: before, after, by simp [length], congrArg (head :: ·) occurs, ?_⟩
      · intro before' after' occurs'
        cases before' with
        | nil => exact absurd ⟨after', occurs'.symm⟩ notPrefix
        | cons head' before' =>
          simp only [OccursAt, List.cons_append, List.cons.injEq] at occurs'
          have := first before' after' occurs'.2
          simpa using this

theorem find_none {pattern text : List α} (absent : find pattern text = none) (before after : List α) :
    ¬ OccursAt pattern text before after := by
  induction text generalizing before with
  | nil =>
    intro occurs
    have : pattern = [] := by
      have := congrArg List.length occurs
      simp only [List.length_nil, List.length_append] at this
      exact List.length_eq_zero_iff.mp (by omega)
    simp [find, this] at absent
  | cons head rest ih =>
    rw [find] at absent
    split at absent
    · cases absent
    · next notPrefix =>
      intro occurs
      cases before with
      | nil => exact notPrefix ⟨after, occurs.symm⟩
      | cons head' before =>
        simp only [OccursAt, List.cons_append, List.cons.injEq] at occurs
        exact ih (Option.map_eq_none_iff.mp absent) before occurs.2

theorem FirstAt.find_eq {pattern text before after : List α} (here : FirstAt pattern text before after) :
    find pattern text = some before.length := by
  cases found : find pattern text with
  | none => exact absurd here.occurs (find_none found _ _)
  | some position =>
    obtain ⟨before', after', length, there⟩ := find_some found
    rw [← length, (here.unique there).1]

/-! ## Delimited words -/

variable {delimiter : α}

omit [DecidableEq α] in
/-- A pattern that begins with a delimiter begins at the first one or behind it. -/
theorem occursAt_terminated {word first rest before after : List α} (absent : delimiter ∉ first)
    (occurs : OccursAt (delimiter :: word) (first ++ delimiter :: rest) before after) :
    (before = first ∧ rest = word ++ after) ∨
      ∃ later, before = first ++ delimiter :: later ∧ OccursAt (delimiter :: word) rest later after := by
  have same : first ++ delimiter :: rest = before ++ delimiter :: (word ++ after) := by simpa [OccursAt] using occurs
  rcases List.append_eq_append_iff.mp same with ⟨later, rfl, tails⟩ | ⟨skipped, rfl, tails⟩
  · cases later with
    | nil =>
      rw [List.nil_append, List.cons.injEq] at tails
      exact .inl ⟨List.append_nil _, tails.2⟩
    | cons head later =>
      rw [List.cons_append, List.cons.injEq] at tails
      obtain ⟨rfl, tails⟩ := tails
      exact .inr ⟨later, rfl, by simp [OccursAt, tails]⟩
  · cases skipped with
    | nil =>
      rw [List.nil_append, List.cons.injEq] at tails
      exact .inl ⟨(List.append_nil _).symm, tails.2.symm⟩
    | cons head skipped =>
      rw [List.cons_append, List.cons.injEq] at tails
      exact absurd (tails.1 ▸ List.mem_append_right _ List.mem_cons_self) absent

omit [DecidableEq α] in
/-- Between the delimiters of a text there are its parts: a word that is none of them occurs behind them all. -/
theorem occursAt_stream {word tail : List α} (absentWord : delimiter ∉ word) {first : List α} {parts : List (List α)}
    (absent : ∀ part ∈ first :: parts, delimiter ∉ part) (others : ∀ part ∈ parts, part ≠ word) {before after : List α}
    (occurs : OccursAt (delimiter :: (word ++ [delimiter]))
      (Lines.stream delimiter (first :: parts) ++ tail) before after) :
    (before ++ [delimiter] = Lines.stream delimiter (first :: parts) ∧ tail = word ++ delimiter :: after) ∨
      ∃ later, before = Lines.stream delimiter (first :: parts) ++ later ∧
        OccursAt (delimiter :: (word ++ [delimiter])) tail later after := by
  induction parts generalizing first before with
  | nil =>
    rw [Lines.stream_cons, List.append_assoc, List.cons_append] at occurs
    rcases occursAt_terminated (absent first List.mem_cons_self) occurs with ⟨rfl, here⟩ | ⟨later, rfl, inRest⟩
    · exact .inl ⟨by simp, by simpa using here⟩
    · exact .inr ⟨later, by simp, by simpa using inRest⟩
  | cons second parts ih =>
    rw [Lines.stream_cons, List.append_assoc, List.cons_append] at occurs
    rcases occursAt_terminated (absent first List.mem_cons_self) occurs with ⟨-, here⟩ | ⟨later, rfl, inRest⟩
    · -- a part between two delimiters is the word
      have same : second ++ delimiter :: (Lines.stream delimiter parts ++ tail) = word ++ delimiter :: after := by
        simpa using here
      obtain ⟨isWord, -⟩ := Lines.terminated_inj (absent second (by simp)) absentWord same
      exact absurd isWord (others second List.mem_cons_self)
    · have behind := ih (fun part member => absent part (List.mem_cons_of_mem _ member))
        (fun part member => others part (List.mem_cons_of_mem _ member)) inRest
      rcases behind with ⟨ends, atTail⟩ | ⟨later', rfl, inTail⟩
      · exact .inl ⟨by rw [Lines.stream_cons, List.append_assoc, List.cons_append, ends], atTail⟩
      · exact .inr ⟨later', by simp, inTail⟩

section
variable {word : List α} (absentWord : delimiter ∉ word) {first : List α} {parts : List (List α)}
  (absent : ∀ part ∈ first :: parts, delimiter ∉ part) (others : ∀ part ∈ parts, part ≠ word)

include absentWord absent others

omit [DecidableEq α] in
/-- Where a text is cut at its delimiters, a word between two of them is found at the first part that it is. -/
theorem firstAt_of_parts {before : List α} (cut : Lines.stream delimiter (first :: parts) = before ++ [delimiter])
    (after : List α) :
    FirstAt (delimiter :: (word ++ [delimiter])) (Lines.stream delimiter (first :: parts) ++ word ++ delimiter :: after)
      before after where
  occurs := by
    rw [OccursAt, cut]
    simp
  first before' after' occurs := by
    rw [List.append_assoc] at occurs
    rcases occursAt_stream absentWord absent others occurs with ⟨ends, -⟩ | ⟨later, rfl, -⟩
    · rw [cut] at ends
      exact Nat.le_of_eq (congrArg List.length (List.append_cancel_right ends)).symm
    · rw [cut]
      simp only [List.length_append]
      omega

end

/-! ## Escaped delimiters -/

section
variable {escape : α} {raw : List α}
  (escaped : ∀ front behind, raw = front ++ delimiter :: behind → front.getLast? = some escape)
  {word : List α} (notEscape : escape ∉ word) (nonempty : word ≠ [])

include escaped notEscape nonempty

omit [DecidableEq α] in
/-- No delimiter that is escaped ends a word. -/
theorem terminated_escaped {front rest after : List α}
    (same : raw ++ delimiter :: rest = front ++ word ++ delimiter :: after) :
    after = rest ∨ ∃ skipped, front ++ word = raw ++ delimiter :: skipped ∧ rest = skipped ++ delimiter :: after := by
  rcases List.append_eq_append_iff.mp same with ⟨more, cut, tails⟩ | ⟨more, rfl, tails⟩
  · cases more with
    | nil => exact .inl (List.cons.inj tails).2.symm
    | cons head skipped =>
      obtain ⟨rfl, rests⟩ := List.cons.inj tails
      exact .inr ⟨skipped, cut, rests⟩
  · cases more with
    | nil => exact .inl (List.cons.inj tails).2
    | cons head more =>
      obtain ⟨rfl, -⟩ := List.cons.inj tails
      have last := escaped (front ++ word) more rfl
      rw [List.getLast?_append_of_ne_nil _ nonempty] at last
      exact absurd (List.mem_of_getLast? last) notEscape

omit [DecidableEq α] in
/-- A word between delimiters ends where the escaped text does, or begins there or behind. -/
theorem occursAt_escaped {rest before after : List α} (absent : delimiter ∉ word)
    (occurs : OccursAt (delimiter :: (word ++ [delimiter])) (raw ++ delimiter :: rest) before after) :
    after = rest ∨ ∃ later, before = raw ++ later ∧
      OccursAt (delimiter :: (word ++ [delimiter])) (delimiter :: rest) later after := by
  have same : raw ++ delimiter :: rest = (before ++ [delimiter]) ++ word ++ delimiter :: after := by
    simpa [OccursAt] using occurs
  refine (terminated_escaped escaped notEscape nonempty same).imp_right ?_
  rintro ⟨skipped, cut, rfl⟩
  have cut : before ++ delimiter :: word = raw ++ delimiter :: skipped := by simpa using cut
  rcases List.append_eq_append_iff.mp cut with ⟨inside, rfl, tails⟩ | ⟨later, rfl, tails⟩
  · cases inside with
    | nil =>
      obtain ⟨-, rfl⟩ := List.cons.inj tails
      exact ⟨[], by simp, by simp [OccursAt]⟩
    | cons head inside =>
      -- the word would have the delimiter in it
      obtain ⟨-, words⟩ := List.cons.inj tails
      exact absurd (words ▸ List.mem_append_right _ List.mem_cons_self) absent
  · refine ⟨later, rfl, ?_⟩
    have tails := congrArg (· ++ delimiter :: after) tails
    simpa [OccursAt] using tails

end

omit [DecidableEq α] in
/-- What occurs behind a front only is found there as it is without the front. -/
theorem firstAt_behind_iff {pattern front tail after : List α}
    (behind : ∀ before after, OccursAt pattern (front ++ tail) before after →
      ∃ later, before = front ++ later ∧ OccursAt pattern tail later after) :
    (∃ before, FirstAt pattern (front ++ tail) before after) ↔ ∃ before, FirstAt pattern tail before after := by
  have inFront {before after : List α} (occurs : OccursAt pattern tail before after) :
      OccursAt pattern (front ++ tail) (front ++ before) after := by
    unfold OccursAt at occurs ⊢
    rw [occurs]
    simp
  constructor
  · rintro ⟨before, here⟩
    obtain ⟨later, rfl, occurs⟩ := behind before after here.occurs
    refine ⟨later, occurs, fun before' after' occurs' => ?_⟩
    have notLater := here.first _ _ (inFront occurs')
    simpa only [List.length_append, Nat.add_le_add_iff_left] using notLater
  · rintro ⟨before, here⟩
    refine ⟨front ++ before, inFront here.occurs, fun before' after' occurs' => ?_⟩
    obtain ⟨later, rfl, occurs⟩ := behind before' after' occurs'
    have notLater := here.first later after' occurs
    simpa only [List.length_append, Nat.add_le_add_iff_left] using notLater

/-- A single element is found wherever it is. -/
theorem find_singleton_none_iff {a : α} {text : List α} : find [a] text = none ↔ a ∉ text := by
  constructor
  · intro absent member
    obtain ⟨before, after, cut⟩ := List.append_of_mem member
    exact find_none absent before after (by simpa [OccursAt] using cut)
  · intro absent
    cases found : find [a] text with
    | none => rfl
    | some position =>
      obtain ⟨before, after, -, here⟩ := find_some found
      have cut := here.occurs
      rw [OccursAt] at cut
      exact absurd (by simp [cut]) absent

end EdgeFlow.Library.Search
