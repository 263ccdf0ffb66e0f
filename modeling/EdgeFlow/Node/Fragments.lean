import EdgeFlow.Node.Braces
import EdgeFlow.Library.Printf

/-! Fragments of a stream, and what `sample_json_str_get` reads in them.

A fragment is an object with an index, a delta and a flag, its members in any order and
with any blanks between its tokens.
-/

set_option autoImplicit false

namespace EdgeFlow.Node
open Library Library.Byte Library.Printf

inductive Field where
  | index
  | delta
  | finish
  deriving DecidableEq

namespace Field

def name : Field → Bytes
  | index => ascii "index"
  | delta => ascii "delta"
  | finish => ascii "finish"

theorem name_injective : Function.Injective name := by
  intro field other same
  cases field <;> cases other <;> first | rfl | exact absurd same (by decide +kernel)

theorem name_letters (field : Field) :
    quote ∉ field.name ∧ backslash ∉ field.name ∧ colon ∉ field.name ∧ comma ∉ field.name ∧ field.name ≠ [] := by
  cases field <;> decide +kernel

end Field

/-- The blanks around the parts of a member. -/
structure Gaps where
  lead : Bytes
  beforeColon : Bytes
  afterColon : Bytes
  trail : Bytes
  blank : ∀ b ∈ lead ++ beforeColon ++ afterColon ++ trail, IsBlank b

/-- A delta, the literal that spells it, and the blanks it is sent with. -/
structure Part where
  text : Bytes
  raw : Bytes
  spelled : Json.unescape raw = some text
  gaps : Field → Gaps

/-- The literal has no escapes, and only spaces stand in front of it. -/
def Part.Plain (part : Part) : Prop := backslash ∉ part.raw ∧ ∀ b ∈ (part.gaps .delta).afterColon, b = space

instance (part : Part) : Decidable part.Plain := inferInstanceAs (Decidable (_ ∧ _))

/-- The delta is not the key, or the key comes first. -/
def Part.InPlace (part : Part) (order : List Field) (field : Field) : Prop :=
  part.text = field.name → order.idxOf field < order.idxOf .delta

instance (part : Part) (order : List Field) (field : Field) : Decidable (part.InPlace order field) :=
  inferInstanceAs (Decidable (_ → _))

structure Fragment where
  part : Part
  index : Nat
  finish : Bool

namespace Fragment

section
variable (fragment : Fragment)

def value : Field → Bytes
  | .index => Decimal.ofInt fragment.index
  | .delta => quoted fragment.part.raw
  | .finish => if fragment.finish then ascii "true" else ascii "false"

/-- What stands between the key of a member and its value. -/
def gap (field : Field) : Bytes :=
  (fragment.part.gaps field).beforeColon ++ colon :: (fragment.part.gaps field).afterColon

def behindKey (field : Field) : Bytes :=
  fragment.gap field ++ (fragment.value field ++ (fragment.part.gaps field).trail)

def member (field : Field) : Bytes :=
  (fragment.part.gaps field).lead ++ (quoted field.name ++ fragment.behindKey field)

def members : List Field → Bytes
  | [] => [closeBrace]
  | [field] => fragment.member field ++ [closeBrace]
  | field :: fields => fragment.member field ++ comma :: members fields

/-- The text of the fragment with its members in this order. -/
def text (order : List Field) : Bytes := openBrace :: fragment.members order

/-- What follows a member. -/
def behindMember : List Field → Bytes
  | [] => [closeBrace]
  | fields => comma :: fragment.members fields

/-- The members in front of one, each with its comma. -/
def front (fields : List Field) : Bytes := fields.flatMap fun field => fragment.member field ++ [comma]

end

section
variable {fragment : Fragment}

/-! ## Cuts of the text -/

theorem members_cons (field : Field) (fields : List Field) :
    fragment.members (field :: fields) = fragment.member field ++ fragment.behindMember fields := by
  cases fields <;> rfl

theorem members_split (before : List Field) (field : Field) (behind : List Field) :
    fragment.members (before ++ field :: behind) =
      fragment.front before ++ (fragment.member field ++ fragment.behindMember behind) := by
  induction before with
  | nil => exact members_cons field behind
  | cons first before ih =>
    have more : fragment.behindMember (before ++ field :: behind) =
        comma :: fragment.members (before ++ field :: behind) := by
      cases before <;> rfl
    rw [List.cons_append, members_cons, more, ih, front, front, List.flatMap_cons]
    simp

/-- A mark follows each member. -/
theorem behindMember_mark (fields : List Field) : ∃ mark rest, fragment.behindMember fields = mark :: rest ∧
    (mark = comma ∨ mark = closeBrace) := by
  cases fields with
  | nil => exact ⟨closeBrace, [], rfl, .inr rfl⟩
  | cons field fields => exact ⟨comma, _, rfl, .inl rfl⟩

theorem blank_unmarked {b : Byte} (blank : IsBlank b) : ¬ IsMark b ∧ b ≠ colon ∧ b ≠ comma := by
  obtain rfl | rfl | rfl | rfl := blank <;> decide

section
variable (fragment) (field : Field)

theorem lead_blank : ∀ b ∈ (fragment.part.gaps field).lead, IsBlank b := fun b member =>
  (fragment.part.gaps field).blank b (by simp [member])

theorem beforeColon_blank : ∀ b ∈ (fragment.part.gaps field).beforeColon, IsBlank b := fun b member =>
  (fragment.part.gaps field).blank b (by simp [member])

theorem afterColon_blank : ∀ b ∈ (fragment.part.gaps field).afterColon, IsBlank b := fun b member =>
  (fragment.part.gaps field).blank b (by simp [member])

theorem trail_blank : ∀ b ∈ (fragment.part.gaps field).trail, IsBlank b := fun b member =>
  (fragment.part.gaps field).blank b (by simp [member])

end

theorem lead_noQuote (field : Field) : quote ∉ (fragment.part.gaps field).lead := fun member =>
  absurd (lead_blank fragment field quote member) (by decide)

theorem trail_noQuote (field : Field) : quote ∉ (fragment.part.gaps field).trail := fun member =>
  absurd (trail_blank fragment field quote member) (by decide)

theorem gap_unmarked (field : Field) : ∀ b ∈ fragment.gap field, ¬ IsMark b := by
  intro b member
  rw [gap, List.mem_append, List.mem_cons] at member
  rcases member with before | rfl | after
  · exact (blank_unmarked (beforeColon_blank fragment field b before)).1
  · decide
  · exact (blank_unmarked (afterColon_blank fragment field b after)).1

theorem gap_noQuote (field : Field) : quote ∉ fragment.gap field := fun member =>
  gap_unmarked field quote member (.inl rfl)

theorem gap_colon (field : Field) : colon ∈ fragment.gap field := by simp [gap]

theorem value_unmarked {field : Field} (notDelta : field ≠ .delta) : ∀ b ∈ fragment.value field, ¬ IsMark b := by
  intro b member
  cases field with
  | index =>
    have written : b ∈ Decimal.ofInt fragment.index := member
    obtain isDigit | rfl := Decimal.mem_ofInt written
    · rintro (rfl | rfl | rfl | rfl) <;> exact absurd isDigit (by decide)
    · decide
  | delta => exact absurd rfl notDelta
  | finish =>
    have both : ∀ finish : Bool, ∀ b ∈ (if finish then ascii "true" else ascii "false"), ¬ IsMark b := by decide +kernel
    exact both _ b member

/-- Behind its key, a member that is no string has no mark in it. -/
theorem behindKey_unmarked {field : Field} (notDelta : field ≠ .delta) :
    ∀ b ∈ fragment.behindKey field, ¬ IsMark b := by
  intro b member
  rw [behindKey, List.mem_append, List.mem_append] at member
  rcases member with inGap | inValue | inTrail
  · exact gap_unmarked field b inGap
  · exact value_unmarked notDelta b inValue
  · exact (blank_unmarked (trail_blank fragment field b inTrail)).1

/-- The text up to the quote that opens a key, cut at its quotes: of the parts between two of them, none is the word. -/
theorem front_cut (fragment : Fragment) {word : Bytes} (noColon : colon ∉ word) (noComma : comma ∉ word)
    {before : List Field}
    (names : ∀ field ∈ before, field.name ≠ word)
    (delta : .delta ∈ before → quote ∉ fragment.part.raw ∧ fragment.part.raw ≠ word) (field : Field) {start : Bytes}
    (noQuote : quote ∉ start) : ∃ first parts,
      start ++ (fragment.front before ++ ((fragment.part.gaps field).lead ++ [quote])) =
          Lines.stream quote (first :: parts) ∧
        start <+: first ∧ quote ∉ first ∧ ∀ part ∈ parts, quote ∉ part ∧ part ≠ word := by
  induction before generalizing start with
  | nil =>
    refine ⟨start ++ (fragment.part.gaps field).lead,
      [], by simp [front], List.prefix_append _ _, ?_, List.forall_mem_nil _⟩
    rw [List.mem_append, not_or]
    exact ⟨noQuote, lead_noQuote field⟩
  | cons next before ih =>
    have nameFree := (Field.name_letters next).1
    have notName := names next List.mem_cons_self
    have opened : quote ∉ start ++ (fragment.part.gaps next).lead := by
      rw [List.mem_append, not_or]
      exact ⟨noQuote, lead_noQuote next⟩
    have later {start : Bytes} (noQuote : quote ∉ start) :=
      ih (fun other member => names other (List.mem_cons_of_mem next member))
        (fun member => delta (List.mem_cons_of_mem next member)) noQuote
    -- what stands between the last quote of a member and the next key has a comma in it
    have notWord {start first : Bytes} (isPrefix : start ++ [comma] <+: first) : first ≠ word := by
      rintro rfl
      exact noComma (isPrefix.subset (by simp))
    by_cases isDelta : next = .delta
    · subst isDelta
      obtain ⟨rawFree, notRaw⟩ := delta List.mem_cons_self
      have trailFree : quote ∉ (fragment.part.gaps .delta).trail ++ [comma] := by
        rw [List.mem_append, not_or]
        exact ⟨trail_noQuote .delta, by decide⟩
      obtain ⟨first, parts, cut, isPrefix, firstFree, others⟩ := later trailFree
      refine ⟨start ++ (fragment.part.gaps .delta).lead,
        Field.delta.name :: fragment.gap .delta :: fragment.part.raw :: first :: parts, ?_,
          List.prefix_append _ _, opened, ?_⟩
      · rw [Lines.stream_cons, Lines.stream_cons, Lines.stream_cons, Lines.stream_cons, ← cut, front, List.flatMap_cons]
        simp [member, behindKey, value, quoted, front]
      · simp only [List.forall_mem_cons]
        refine ⟨⟨nameFree, notName⟩, ⟨gap_noQuote .delta, ?_⟩, ⟨rawFree, notRaw⟩, ⟨firstFree, notWord isPrefix⟩, others⟩
        rintro rfl
        exact noColon (gap_colon .delta)
    · have behindFree : quote ∉ fragment.behindKey next ++ [comma] := by
        rw [List.mem_append, not_or]
        exact ⟨fun member => behindKey_unmarked isDelta quote member (.inl rfl), by decide⟩
      obtain ⟨first, parts, cut, isPrefix, firstFree, others⟩ := later behindFree
      refine ⟨start ++ (fragment.part.gaps next).lead, next.name :: first :: parts, ?_,
        List.prefix_append _ _, opened, ?_⟩
      · rw [Lines.stream_cons, Lines.stream_cons, ← cut, front, List.flatMap_cons]
        simp [member, quoted, front]
      · simp only [List.forall_mem_cons]
        exact ⟨⟨nameFree, notName⟩, ⟨firstFree, notWord isPrefix⟩, others⟩

/-! ## Keys that are found -/

section
variable {before behind : List Field} {field : Field}

/-- A key is found in its place, unless an earlier delta is that word. -/
theorem get_inPlace (fresh : field ∉ before)
    (delta : .delta ∈ before → quote ∉ fragment.part.raw ∧ fragment.part.raw ≠ field.name) :
    sampleJsonStrGet (fragment.text (before ++ field :: behind)) field.name =
      (scan .initial (fragment.behindKey field ++ fragment.behindMember behind)).result := by
  obtain ⟨nameFree, -, noColon, noComma, -⟩ := Field.name_letters field
  have names : ∀ other ∈ before, other.name ≠ field.name := by
    intro other member same
    exact fresh (Field.name_injective same ▸ member)
  obtain ⟨first, parts, cut, -, firstFree, others⟩ := fragment.front_cut noColon noComma names delta field
    (show quote ∉ [openBrace] by decide)
  obtain ⟨front', ended⟩ := Lines.stream_cons_last quote first parts
  have absent : ∀ part ∈ first :: parts, quote ∉ part := by
    rw [List.forall_mem_cons]
    exact ⟨firstFree, fun part member => (others part member).1⟩
  have whole : fragment.text (before ++ field :: behind) =
      Lines.stream quote (first :: parts) ++ field.name ++
        quote :: (fragment.behindKey field ++ fragment.behindMember behind) := by
    rw [text, members_split, ← cut]
    simp [member, quoted]
  rw [whole, sampleJsonStrGet_of_first
    (Search.firstAt_of_parts nameFree absent (fun part member => (others part member).2) ended _)]

/-- A delta that is the word is taken for the key: what is read behind it is empty. -/
theorem get_misplaced (fresh : field ∉ before) (delta : .delta ∈ before) (same : fragment.part.raw = field.name) :
    sampleJsonStrGet (fragment.text (before ++ field :: behind)) field.name = [] := by
  obtain ⟨nameFree, -, noColon, noComma, -⟩ := Field.name_letters field
  obtain ⟨first', between, rfl, notBefore⟩ := List.eq_append_cons_of_mem delta
  have names : ∀ other ∈ first', other.name ≠ field.name := by
    intro other member same
    exact fresh (Field.name_injective same ▸ List.mem_append_left _ member)
  have notDelta : Field.delta.name ≠ field.name := fun same =>
    fresh (Field.name_injective same ▸ List.mem_append_right _ List.mem_cons_self)
  obtain ⟨first, parts, cut, -, firstFree, others⟩ := fragment.front_cut noColon noComma names
    (fun member => absurd member notBefore) .delta (show quote ∉ [openBrace] by decide)
  -- cut at its quotes, the text has the raw delta as a part of its own, and no part before it is the name
  have toRaw : Lines.stream quote (first :: (parts ++ [Field.delta.name, fragment.gap .delta])) =
      Lines.stream quote (first :: parts) ++ (Field.delta.name ++ quote :: (fragment.gap .delta ++ [quote])) := by
    rw [← List.cons_append, Lines.stream_append]
    simp
  obtain ⟨front', ended⟩ := Lines.stream_cons_last quote first (parts ++ [Field.delta.name, fragment.gap .delta])
  have notWord : ∀ part ∈ parts ++ [Field.delta.name, fragment.gap .delta], quote ∉ part ∧ part ≠ field.name := by
    rw [List.forall_mem_append, List.forall_mem_cons, List.forall_mem_singleton]
    refine ⟨others, ⟨(Field.name_letters .delta).1, notDelta⟩, gap_noQuote .delta, fun same => ?_⟩
    exact noColon (same ▸ gap_colon .delta)
  have absent : ∀ part ∈ first :: (parts ++ [Field.delta.name, fragment.gap .delta]), quote ∉ part := by
    rw [List.forall_mem_cons]
    exact ⟨firstFree, fun part member => (notWord part member).1⟩
  have more : fragment.behindMember (between ++ field :: behind) =
      comma :: fragment.members (between ++ field :: behind) := by
    cases between <;> rfl
  have whole : fragment.text ((first' ++ .delta :: between) ++ field :: behind) =
      Lines.stream quote (first :: (parts ++ [Field.delta.name, fragment.gap .delta])) ++ field.name ++
        quote :: ((fragment.part.gaps .delta).trail ++ comma :: fragment.members (between ++ field :: behind)) := by
    rw [toRaw, ← cut, ← same, List.append_assoc, List.cons_append, text, members_split, more]
    simp [member, behindKey, value, quoted]
  have trailUnmarked : ∀ b ∈ (fragment.part.gaps .delta).trail, ¬ IsMark b := fun b member =>
    (blank_unmarked (trail_blank fragment .delta b member)).1
  have trailNoColon : colon ∉ (fragment.part.gaps .delta).trail := fun member =>
    absurd (trail_blank fragment .delta colon member) (by decide)
  rw [whole, sampleJsonStrGet_of_first
    (Search.firstAt_of_parts nameFree absent (fun part member => (notWord part member).2) ended _),
    result_ended trailUnmarked (.inl rfl), seen_of_notMem trailNoColon]

end

/-! ## Values -/

theorem seen_gap (field : Field) (rest : Bytes) : seen (fragment.gap field ++ rest) =
    ((fragment.part.gaps field).afterColon ++ rest).filter fun b => b ≠ colon ∧ b ≠ space := by
  have passed : ∀ b ∈ (fragment.part.gaps field).beforeColon, decide (b ≠ colon) = true := fun b member =>
    decide_eq_true (blank_unmarked (beforeColon_blank fragment field b member)).2.1
  rw [seen, gap, List.append_assoc, List.cons_append, List.dropWhile_append_of_pos passed,
    List.dropWhile_cons_of_neg (by decide), List.filter_cons_of_neg (by decide)]

theorem result_unstringed {field : Field} (notDelta : field ≠ .delta) (behind : List Field) :
    (scan .initial (fragment.behindKey field ++ fragment.behindMember behind)).result =
      seen (fragment.behindKey field) := by
  obtain ⟨mark, rest, marked, ends⟩ := behindMember_mark behind
  rw [marked, result_ended (behindKey_unmarked notDelta) ends]

theorem isSpace_of_blank {b : Byte} (blank : IsBlank b) : isSpace b = true ∧ isDigit b = false := by
  obtain rfl | rfl | rfl | rfl := blank <;> decide

/-- `std::stoi` of what is read for the index. -/
theorem stoi_seen_index : stoi (seen (fragment.behindKey .index)) =
    if IsInt32 fragment.index then .ok (fragment.index : Int) else .error .outOfRange := by
  have kept : (Decimal.ofInt fragment.index).filter (fun b => b ≠ colon ∧ b ≠ space) =
      Decimal.ofInt fragment.index := by
    rw [List.filter_eq_self]
    intro b member
    obtain isDigit | rfl := Decimal.mem_ofInt member
    · rw [decide_eq_true_iff]
      constructor <;> rintro rfl <;> exact absurd isDigit (by decide)
    · decide
  rw [behindKey, seen_gap, value, List.filter_append, List.filter_append, kept]
  refine stoi_between (fun b member => ?_) (fun b member => ?_) _
  · exact (isSpace_of_blank (afterColon_blank fragment .index b (List.mem_filter.mp member).1)).1
  · have inTrail := (List.mem_filter.mp (List.mem_of_mem_head? member)).1
    exact (isSpace_of_blank (trail_blank fragment .index b inTrail)).2

/-- The flag is false where there is an `f` in what is read for it. -/
theorem find_seen_finish : Search.find (ascii "f") (seen (fragment.behindKey .finish)) = none ↔
    fragment.finish = true := by
  have notBlank (b : Byte) (blank : IsBlank b) : b ≠ 102 := by
    obtain rfl | rfl | rfl | rfl := blank <;> decide
  have afterColon : 102 ∉ (fragment.part.gaps .finish).afterColon := fun member =>
    notBlank 102 (afterColon_blank fragment .finish 102 member) rfl
  have trail : 102 ∉ (fragment.part.gaps .finish).trail := fun member =>
    notBlank 102 (trail_blank fragment .finish 102 member) rfl
  have written : ∀ finish : Bool, 102 ∈ (if finish then ascii "true" else ascii "false") ↔ finish = false := by
    decide +kernel
  have here : 102 ∈ seen (fragment.behindKey .finish) ↔ fragment.finish = false := by
    rw [behindKey, seen_gap, List.mem_filter, List.mem_append, List.mem_append, value, written]
    simp [afterColon, trail, show (102 : Byte) ≠ colon by decide, show (102 : Byte) ≠ space by decide]
  rw [show ascii "f" = [102] by decide +kernel, Search.find_singleton_none_iff, here, Bool.not_eq_false]

/-! ## Fragments without escapes -/

/-- In a literal each quote stands behind a backslash. -/
theorem escaped_of_spelled {raw meant : Bytes} (spelled : Json.unescape raw = some meant) {front behind : Bytes}
    (cut : raw = front ++ quote :: behind) : front.getLast? = some backslash := by
  have noEscape : ∀ high, Json.StringState.plain = .escaped high → quote = backslash := fun high same => by cases same
  have run := Json.unescape_eq_some.mp spelled
  obtain ⟨_, whole⟩ := scan_literal (s := ⟨[], .inString, quote, 1⟩) rfl noEscape run
  rw [cut] at run whole
  obtain ⟨middle, out, more, runFront, -, -⟩ := Json.stringRun_append.mp run
  obtain ⟨lastC, atQuote⟩ := scan_literal (s := ⟨[], .inString, quote, 1⟩) rfl noEscape runFront
  have last : lastC = front.getLast?.getD quote := by
    rw [← scan_lastC ⟨[], .inString, quote, 1⟩, atQuote]
  by_contra unescaped
  have notBackslash : lastC ≠ backslash := by
    rintro rfl
    cases ends : front.getLast? with
    | none =>
      rw [ends] at last
      exact absurd last (by decide)
    | some b =>
      rw [ends] at last
      exact unescaped (ends.trans (congrArg some last.symm))
  -- the quote would end the scan, which the rest of the literal then does not open again
  have closes : scanStep ⟨[] ++ front, .inString, lastC, 1⟩ quote = ⟨[] ++ front, .finished, quote, 0⟩ := by
    simp [scanStep, scanString, notBackslash]
  rw [scan_append, atQuote, scan_cons, closes] at whole
  have flag := (scan_finished (s := ⟨[] ++ front, .finished, quote, 0⟩) rfl behind).2
  rw [whole] at flag
  exact absurd flag Int.one_ne_zero

theorem quote_notMem_of_plain {raw meant : Bytes} (spelled : Json.unescape raw = some meant)
    (noEscape : backslash ∉ raw) : quote ∉ raw := by
  intro member
  obtain ⟨front, behind, cut⟩ := List.append_of_mem member
  have last := escaped_of_spelled spelled cut
  exact noEscape (cut ▸ List.mem_append_left _ (List.mem_of_getLast? last))

section
variable {order : List Field} (noEscape : backslash ∉ fragment.part.raw)

include noEscape

theorem get_plain {field : Field} (notDelta : field ≠ .delta) (member : field ∈ order) :
    sampleJsonStrGet (fragment.text order) field.name =
      if fragment.part.InPlace order field then seen (fragment.behindKey field) else [] := by
  have written := Json.unescape_plain noEscape fragment.part.spelled
  obtain ⟨before, behind, rfl, fresh⟩ := List.eq_append_cons_of_mem member
  have place : (before ++ field :: behind).idxOf field = before.length := by
    rw [List.idxOf_append_of_notMem fresh, List.idxOf_cons_self, Nat.add_zero]
  have first : (before ++ field :: behind).idxOf .delta < before.length ↔ .delta ∈ before := by
    constructor
    · intro inside
      by_contra absent
      rw [List.idxOf_append_of_notMem absent] at inside
      omega
    · intro member
      rw [List.idxOf_append_of_mem member]
      exact List.idxOf_lt_length_of_mem member
  split
  · next inPlace =>
    rw [get_inPlace fresh, result_unstringed notDelta]
    intro member
    refine ⟨quote_notMem_of_plain fragment.part.spelled noEscape, fun same => ?_⟩
    have order := inPlace (written.trans same)
    rw [place] at order
    exact absurd (first.mpr member) (by omega)
  · next taken =>
    rw [Part.InPlace, Classical.not_imp, place] at taken
    refine get_misplaced fresh ?_ (written.symm.trans taken.1)
    rw [← first]
    have apart : (before ++ field :: behind).idxOf .delta ≠ before.length := by
      rw [← place]
      exact fun same => notDelta (List.idxOf_inj (List.mem_append_right _ List.mem_cons_self) |>.mp same.symm)
    omega

/-- The index that is read is the one that was sent. -/
theorem stoi_get_index_iff (member : .index ∈ order) (read : Int) :
    stoi (sampleJsonStrGet (fragment.text order) (ascii "index")) = .ok read ↔
      fragment.part.InPlace order .index ∧ IsInt32 fragment.index ∧ (fragment.index : Int) = read := by
  have value := get_plain noEscape (show Field.index ≠ .delta by decide) member
  rw [show ascii "index" = Field.index.name from rfl, value]
  split
  · next inPlace =>
    rw [stoi_seen_index]
    by_cases fits : IsInt32 fragment.index
    · rw [if_pos fits, Except.ok.injEq]
      simp only [inPlace, fits, true_and]
    · rw [if_neg fits]
      exact iff_of_false nofun fun all => fits all.2.1
  · next taken => exact iff_of_false nofun fun all => taken all.1

theorem find_get_finish_iff (member : .finish ∈ order) :
    Search.find (ascii "f") (sampleJsonStrGet (fragment.text order) (ascii "finish")) = none ↔
      fragment.finish = true ∨ ¬ fragment.part.InPlace order .finish := by
  have value := get_plain noEscape (show Field.finish ≠ .delta by decide) member
  rw [show ascii "finish" = Field.finish.name from rfl, value]
  split
  · next inPlace => rw [find_seen_finish, or_iff_left (not_not.mpr inPlace)]
  · next taken => exact iff_of_true (by decide +kernel) (.inr taken)

end

/-! ## Deltas -/

theorem behindKey_delta (rest : Bytes) : fragment.behindKey .delta ++ rest =
    fragment.gap .delta ++ (quoted fragment.part.raw ++ ((fragment.part.gaps .delta).trail ++ rest)) := by
  simp [behindKey, value]

theorem get_delta_behind {order : List Field} (member : .delta ∈ order) :
    ∃ behind, sampleJsonStrGet (fragment.text order) Field.delta.name =
      (scan .initial (fragment.behindKey .delta ++ fragment.behindMember behind)).result := by
  obtain ⟨before, behind, rfl, fresh⟩ := List.eq_append_cons_of_mem member
  exact ⟨behind, get_inPlace fresh fun earlier => absurd earlier fresh⟩

theorem get_delta {order : List Field} (plain : fragment.part.Plain) (member : .delta ∈ order) :
    sampleJsonStrGet (fragment.text order) Field.delta.name = fragment.part.text := by
  obtain ⟨noEscape, spaces⟩ := plain
  have marks : ∀ b ∈ fragment.part.raw, b ≠ quote ∧ b ≠ backslash := by
    intro b inRaw
    constructor
    · rintro rfl
      exact quote_notMem_of_plain fragment.part.spelled noEscape inRaw
    · rintro rfl
      exact noEscape inRaw
  have nothing : seen (fragment.gap .delta) = [] := by
    rw [← List.append_nil (fragment.gap .delta), seen_gap, List.append_nil, List.filter_eq_nil_iff]
    intro b inGap
    rw [spaces b inGap]
    decide
  obtain ⟨behind, read⟩ := get_delta_behind member
  rw [read, behindKey_delta, result_quoted (gap_unmarked .delta) marks, nothing, List.nil_append,
    Json.unescape_plain noEscape fragment.part.spelled]

/-! ## Deltas that come first -/

/-- Where members follow, at least the literal is read, and the blanks in front of it that are no spaces. -/
theorem get_first_delta (field : Field) (behind : List Field) :
    ∃ more, sampleJsonStrGet (fragment.text (.delta :: field :: behind)) Field.delta.name =
      (fragment.part.gaps .delta).afterColon.filter (· ≠ space) ++ fragment.part.raw ++ more := by
  have fresh : Field.delta ∉ [] := List.not_mem_nil
  have read : sampleJsonStrGet (fragment.text ([] ++ .delta :: field :: behind)) Field.delta.name = _ :=
    get_inPlace fresh fun earlier => absurd earlier fresh
  have follows : fragment.behindMember (field :: behind) =
      comma :: ((fragment.part.gaps field).lead ++ quote :: (field.name ++ quote :: (fragment.behindKey field ++
        fragment.behindMember behind))) := by
    show comma :: fragment.members (field :: behind) = _
    rw [members_cons]
    simp [Fragment.member, quoted]
  have cut : fragment.behindKey .delta ++ fragment.behindMember (field :: behind) =
      (fragment.gap .delta ++ quote :: fragment.part.raw) ++ quote :: ((fragment.part.gaps .delta).trail ++
        fragment.behindMember (field :: behind)) := by
    simp [behindKey, value, quoted]
  have toQuote := scan_toQuote (beforeColon_blank fragment .delta)
      (afterColon_blank fragment .delta) fragment.part.spelled
  rw [List.nil_append] at read
  rw [read, cut, scan_append, gap, toQuote, scan_cons]
  by_cases runsOn : fragment.part.raw.getLast?.getD quote = backslash
  · -- the closing quote is taken for an escaped one, and the quote of the next key ends the scan
    have step : scanStep ⟨(fragment.part.gaps .delta).afterColon.filter (· ≠ space) ++ fragment.part.raw, .inString,
        fragment.part.raw.getLast?.getD quote, 1⟩ quote =
          ⟨(fragment.part.gaps .delta).afterColon.filter (· ≠ space) ++ fragment.part.raw ++ [quote], .inString,
            quote, 1⟩ := by
      simp only [scanStep, scanString, runsOn, ne_eq, not_true, and_false, if_false, Scan.push]
    have plain : ∀ b ∈ (fragment.part.gaps .delta).trail ++ comma :: (fragment.part.gaps field).lead,
        b ≠ quote ∧ b ≠ backslash := by
      have blanks (b : Byte) (blank : IsBlank b) : b ≠ quote ∧ b ≠ backslash := by
        obtain rfl | rfl | rfl | rfl := blank <;> decide
      intro b member
      rw [List.mem_append, List.mem_cons] at member
      rcases member with trail | rfl | lead
      · exact blanks b (trail_blank fragment .delta b trail)
      · decide
      · exact blanks b (lead_blank fragment field b lead)
    have more : (fragment.part.gaps .delta).trail ++ fragment.behindMember (field :: behind) =
        ((fragment.part.gaps .delta).trail ++ comma :: (fragment.part.gaps field).lead) ++
          quote :: (field.name ++ quote :: (fragment.behindKey field ++ fragment.behindMember behind)) := by
      rw [follows]
      simp
    rw [step, more, scan_plain_closed rfl (show quote ≠ backslash by decide) plain]
    exact ⟨_, List.append_assoc _ _ _⟩
  · have step : scanStep ⟨(fragment.part.gaps .delta).afterColon.filter (· ≠ space) ++ fragment.part.raw, .inString,
        fragment.part.raw.getLast?.getD quote, 1⟩ quote =
          ⟨(fragment.part.gaps .delta).afterColon.filter (· ≠ space) ++ fragment.part.raw, .finished, quote, 0⟩ := by
      simp only [scanStep, scanString, runsOn, ne_eq, not_false_eq_true, and_self, if_true]
    rw [step, result_finished rfl]
    exact ⟨[], (List.append_nil _).symm⟩

/-- What is read of a delta that comes first is no shorter than it, and as long only if the delta is plain. -/
theorem get_first_delta_length (field : Field) (behind : List Field) :
    fragment.part.text.length ≤ (sampleJsonStrGet (fragment.text (.delta :: field :: behind)) Field.delta.name).length ∧
      ((sampleJsonStrGet (fragment.text (.delta :: field :: behind)) Field.delta.name).length ≤
        fragment.part.text.length →
        fragment.part.Plain) := by
  obtain ⟨more, read⟩ := fragment.get_first_delta field behind
  have short := Json.unescape_length_le fragment.part.spelled
  rw [read, List.length_append, List.length_append]
  refine ⟨by omega, fun noLonger => ⟨fun escapes => ?_, ?_⟩⟩
  · have := Json.unescape_length_lt escapes fragment.part.spelled
    omega
  · have nothing : (fragment.part.gaps .delta).afterColon.filter (· ≠ space) = [] :=
      List.eq_nil_of_length_eq_zero (by omega)
    simpa [List.filter_eq_nil_iff] using nothing

section
variable (fragment) (behind : List Field)

/-- What follows the delta, up to the key of the index. -/
def toIndex : Bytes := (fragment.part.gaps .delta).trail ++ comma :: (fragment.part.gaps .index).lead

/-- What follows the key of the index. -/
def behindIndex : Bytes := fragment.behindKey .index ++ fragment.behindMember behind

/-- The parts up to the literal of the delta. -/
def toRaw : List Bytes := [openBrace :: (fragment.part.gaps .delta).lead, Field.delta.name, fragment.gap .delta]

theorem text_index_second : fragment.text (.delta :: .index :: behind) =
    Lines.stream quote fragment.toRaw ++ (fragment.part.raw ++
      quote :: (fragment.toIndex ++ quote :: (Field.index.name ++ quote :: fragment.behindIndex behind))) := by
  have follows : fragment.behindMember (.index :: behind) =
      comma :: (fragment.member .index ++ fragment.behindMember behind) :=
        congrArg (comma :: ·) (members_cons .index behind)
  rw [text, members_cons, follows]
  simp [toRaw, toIndex, behindIndex, member, behindKey, value, quoted]

/-- Behind the delta the scan finds a comma before it finds a value. -/
theorem result_toIndex (rest : Bytes) : (scan .initial (fragment.toIndex ++ rest)).result = [] := by
  have unmarked : ∀ b ∈ (fragment.part.gaps .delta).trail, ¬ IsMark b := fun b member =>
    (blank_unmarked (trail_blank fragment .delta b member)).1
  have noColon : colon ∉ (fragment.part.gaps .delta).trail := fun member =>
    absurd (trail_blank fragment .delta colon member) (by decide)
  rw [toIndex, List.append_assoc, List.cons_append, result_ended unmarked (.inl rfl), seen_of_notMem noColon]

end

/-- The quoted word `index` first stands at the end of the delta, or it is the key. -/
theorem index_place {behind : List Field} {before after : Bytes}
    (here : Search.FirstAt (quoted Field.index.name) (fragment.text (.delta :: .index :: behind)) before after) :
    after = fragment.toIndex ++ quote :: (Field.index.name ++ quote :: fragment.behindIndex behind) ∨
      after = fragment.behindIndex behind := by
  obtain ⟨nameFree, noEscape, noColon, noComma, nonempty⟩ := Field.name_letters .index
  have escaped := fun front behind (cut : fragment.part.raw = front ++ quote :: behind) =>
    escaped_of_spelled fragment.part.spelled cut
  have leadFree : quote ∉ openBrace :: (fragment.part.gaps .delta).lead := by
    rw [List.mem_cons, not_or]
    exact ⟨by decide, lead_noQuote .delta⟩
  have absent : ∀ part ∈ fragment.toRaw, quote ∉ part := by
    simp only [toRaw, List.forall_mem_cons]
    exact ⟨leadFree, (Field.name_letters .delta).1, gap_noQuote .delta, List.forall_mem_nil _⟩
  have others : ∀ part ∈ [Field.delta.name, fragment.gap .delta], part ≠ Field.index.name := by
    simp only [List.forall_mem_cons]
    exact ⟨by decide +kernel, fun same => noColon (same ▸ gap_colon .delta), List.forall_mem_nil _⟩
  have occurs := here.occurs
  rw [text_index_second] at occurs
  rcases Search.occursAt_stream nameFree absent others occurs with ⟨-, atRaw⟩ | ⟨later, rfl, inTail⟩
  · -- the delta is the word
    rcases @Search.terminated_escaped _ _ _ _ escaped _ noEscape nonempty [] _ _ atRaw with ends | ⟨skipped, cut, -⟩
    · exact .inl ends
    · rw [List.nil_append] at cut
      exact absurd (cut ▸ List.mem_append_right _ List.mem_cons_self) nameFree
  · rcases Search.occursAt_escaped escaped noEscape nonempty nameFree inTail with ends | ⟨later, rfl, behindRaw⟩
    · exact .inl ends
    · have betweenFree : quote ∉ fragment.toIndex := by
        rw [toIndex, List.mem_append, List.mem_cons, not_or, not_or]
        exact ⟨trail_noQuote .delta, by decide, lead_noQuote .index⟩
      have notWord : fragment.toIndex ≠ Field.index.name := fun same =>
        noComma (same ▸ List.mem_append_right _ List.mem_cons_self)
      have cut : quote :: (fragment.toIndex ++ quote :: (Field.index.name ++ quote :: fragment.behindIndex behind)) =
          Lines.stream quote [[], fragment.toIndex] ++ (Field.index.name ++ quote :: fragment.behindIndex behind) := by
        simp
      rw [cut] at behindRaw
      rcases Search.occursAt_stream nameFree (by simp [betweenFree]) (by simp [notWord]) behindRaw with
        ⟨-, atKey⟩ | ⟨more, rfl, -⟩
      · exact .inr (List.cons.inj (List.append_cancel_left atKey)).2.symm
      · -- the key stands further to the front
        have key : Search.OccursAt (quoted Field.index.name) (fragment.text (.delta :: .index :: behind))
            (Lines.stream quote fragment.toRaw ++ (fragment.part.raw ++ quote :: fragment.toIndex))
            (fragment.behindIndex behind) := by
          rw [Search.OccursAt, text_index_second]
          simp [quoted]
        have first := here.first _ _ key
        simp only [toRaw, List.length_append, List.length_cons, Lines.stream_cons, Lines.stream_nil,
          List.length_nil] at first
        omega

/-- The index behind a delta is read as it is, or nothing is. -/
theorem get_second_index (behind : List Field) :
    sampleJsonStrGet (fragment.text (.delta :: .index :: behind)) Field.index.name = [] ∨
      sampleJsonStrGet (fragment.text (.delta :: .index :: behind)) Field.index.name =
        seen (fragment.behindKey .index) := by
  cases found : Search.find (quoted Field.index.name) (fragment.text (.delta :: .index :: behind)) with
  | none => exact .inl (sampleJsonStrGet_of_none found)
  | some position =>
    obtain ⟨before, after, -, here⟩ := Search.find_some found
    rw [sampleJsonStrGet_of_first here]
    rcases index_place here with rfl | rfl
    · exact .inl (fragment.result_toIndex _)
    · exact .inr (result_unstringed (by decide) behind)

end

end Fragment

end EdgeFlow.Node
