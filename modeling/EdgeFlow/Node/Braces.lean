import EdgeFlow.Library.Json.Reading
import EdgeFlow.Node.Scanner

/-! Objects that `sample_json_str_get` reads: it counts braces, those in strings too,
and stops where the count is zero again.
-/

set_option autoImplicit false

namespace EdgeFlow.Node
open Library Library.Byte

/-! ## Braces -/

/-- The braces that are open after one more character; none closes what is not open. -/
def braceStep (opened : Nat) (b : Byte) : Option Nat :=
  if b = openBrace then some (opened + 1)
  else if b = closeBrace then
    match opened with
    | 0 => none
    | opened + 1 => some opened
  else some opened

/-- Each brace has its partner. -/
def Matched (text : Bytes) : Prop := follow braceStep 0 text = some 0

instance (text : Bytes) : Decidable (Matched text) := inferInstanceAs (Decidable (_ = _))

theorem braceStep_open (opened : Nat) : braceStep opened openBrace = some (opened + 1) := rfl

theorem braceStep_close (opened : Nat) : braceStep (opened + 1) closeBrace = some opened := rfl

theorem braceStep_other {b : Byte} (notOpen : b ≠ openBrace) (notClose : b ≠ closeBrace) (opened : Nat) :
    braceStep opened b = some opened := by
  unfold braceStep
  rw [if_neg notOpen, if_neg notClose]

theorem follow_braceStep_other {text : Bytes} (others : ∀ b ∈ text, b ≠ openBrace ∧ b ≠ closeBrace) (opened : Nat) :
    follow braceStep opened text = some opened := by
  induction text with
  | nil => rfl
  | cons b text ih =>
    obtain ⟨notOpen, notClose⟩ := others b List.mem_cons_self
    rw [follow_cons, braceStep_other notOpen notClose, Option.bind_some]
    exact ih fun c member => others c (List.mem_cons_of_mem b member)

theorem matched_between_iff {front back : Bytes} (frontOthers : ∀ b ∈ front, b ≠ openBrace ∧ b ≠ closeBrace)
    (backOthers : ∀ b ∈ back, b ≠ openBrace ∧ b ≠ closeBrace) (text : Bytes) :
    Matched (front ++ (text ++ back)) ↔ Matched text := by
  have same : follow braceStep 0 (front ++ (text ++ back)) = follow braceStep 0 text := by
    rw [follow_append, follow_braceStep_other frontOthers, Option.bind_some, follow_append]
    refine (Option.bind_congr fun opened _ => ?_).trans (Option.bind_fun_some _)
    exact follow_braceStep_other backOthers opened
  rw [Matched, same, Matched]

/-- No escape is a brace or is written with one. -/
theorem matched_escape_iff {text : Bytes} : Matched (Json.escape text) ↔ Matched text := by
  have bytewise (opened : Nat) (b : Byte) : follow braceStep opened (Json.escapeByte b) = braceStep opened b := by
    by_cases verbatim : b ≠ quote ∧ b ≠ backslash ∧ 0x20 ≤ b
    · rw [Json.escapeByte_verbatim verbatim, follow_singleton]
    · have noBrace : ∀ c ∈ quote :: backslash :: (List.range 32).map UInt8.ofNat,
          ∀ d ∈ c :: Json.escapeByte c, d ≠ openBrace ∧ d ≠ closeBrace := by
        decide +kernel
      obtain ⟨here, written⟩ := List.forall_mem_cons.mp (noBrace b (Json.mem_of_escaped verbatim))
      rw [follow_braceStep_other written, braceStep_other here.1 here.2]
  rw [Matched, Json.follow_escape bytewise, Matched]

/-- The brace at which the count comes back to where it began is in one place. -/
theorem matched_unique {opened : Nat} {inner inner' rest rest' : Bytes}
    (matched : follow braceStep opened inner = some 0) (matched' : follow braceStep opened inner' = some 0)
    (same : inner ++ closeBrace :: rest = inner' ++ closeBrace :: rest') : inner = inner' := by
  have longer {inner more : Bytes} (matched : follow braceStep opened inner = some 0) :
      follow braceStep opened (inner ++ closeBrace :: more) ≠ some 0 := by
    rw [follow_append, matched]
    exact fun ends => by cases ends
  rcases List.append_eq_append_iff.mp same with ⟨more, rfl, tails⟩ | ⟨more, rfl, tails⟩
  · cases more with
    | nil => exact (List.append_nil _).symm
    | cons b more =>
      obtain ⟨rfl, -⟩ := List.cons.inj tails
      exact absurd matched' (longer matched)
  · cases more with
    | nil => exact List.append_nil _
    | cons b more =>
      obtain ⟨rfl, -⟩ := List.cons.inj tails
      exact absurd matched (longer matched')

/-- Inside an object the scan goes on to the brace that closes it, or finds none. -/
theorem scan_inObject {s : Scan} (inObject : s.status = .inObject) {opened : Nat} (flag : s.objFlage = opened + 1)
    (text : Bytes) :
    ((∃ left, follow braceStep opened text = some left) ∧ (scan s text).result = []) ∨
      ∃ inner rest, text = inner ++ closeBrace :: rest ∧ follow braceStep opened inner = some 0 ∧
        (scan s text).result = s.keyVal ++ inner ++ [closeBrace] := by
  induction text generalizing s opened with
  | nil =>
    have isOpen : s.objFlage ≠ 0 := by omega
    exact .inl ⟨⟨opened, rfl⟩, if_pos isOpen⟩
  | cons b text ih =>
    rw [scan_cons]
    -- where the object is still open after the character, the rest decides
    have goesOn {opened' : Nat} (counted : braceStep opened b = some opened')
        (step : scanStep s b = { s.push b with objFlage := opened' + 1, lastC := b }) :
        ((∃ left, follow braceStep opened (b :: text) = some left) ∧ (scan (scanStep s b) text).result = []) ∨
          ∃ inner rest, b :: text = inner ++ closeBrace :: rest ∧ follow braceStep opened inner = some 0 ∧
            (scan (scanStep s b) text).result = s.keyVal ++ inner ++ [closeBrace] := by
      rw [step]
      rcases ih (s := { s.push b with objFlage := opened' + 1, lastC := b }) inObject rfl with unclosed | found
      · obtain ⟨⟨left, counts⟩, none⟩ := unclosed
        refine .inl ⟨⟨left, ?_⟩, none⟩
        rw [follow_cons, counted]
        exact counts
      · obtain ⟨inner, rest, rfl, matched, result⟩ := found
        refine .inr ⟨b :: inner, rest, rfl, ?_, ?_⟩
        · rw [follow_cons, counted]
          exact matched
        · rw [result]
          simp [Scan.push]
    by_cases isOpen : b = openBrace
    · subst isOpen
      apply goesOn (braceStep_open opened)
      have notZero : (opened : Int) + 1 + 1 ≠ 0 := by omega
      simp [scanStep, inObject, scanObject, Scan.push, flag, notZero, show openBrace ≠ closeBrace by decide]
    · by_cases isClose : b = closeBrace
      · subst isClose
        cases opened with
        | zero =>
          have closes : scanStep s closeBrace = ⟨s.keyVal ++ [closeBrace], .finished, closeBrace, 0⟩ := by
            simp [scanStep, inObject, scanObject, Scan.push, flag, show closeBrace ≠ openBrace by decide]
          refine .inr ⟨[], text, rfl, rfl, ?_⟩
          rw [closes, result_finished rfl]
          simp [Scan.result]
        | succ opened =>
          apply goesOn (braceStep_close opened)
          have notZero : (opened : Int) + 1 ≠ 0 := by omega
          simp [scanStep, inObject, scanObject, Scan.push, flag, notZero, show closeBrace ≠ openBrace by decide]
      · apply goesOn (braceStep_other isOpen isClose opened)
        have notZero : (opened : Int) + 1 ≠ 0 := by omega
        simp [scanStep, inObject, scanObject, Scan.push, flag, notZero, isOpen, isClose]

/-- Each quote stands behind a backslash; `lastC` is what stands before the text. -/
def Escaped (lastC : Byte) (text : Bytes) : Prop :=
  ∀ before behind, text = before ++ quote :: behind → before.getLast?.getD lastC = backslash

theorem escaped_nil (lastC : Byte) : Escaped lastC [] := fun before behind same => by simp at same

theorem Escaped.cons {lastC b : Byte} (here : b = quote → lastC = backslash) {text : Bytes} (escaped : Escaped b text) :
    Escaped lastC (b :: text) := by
  intro before behind cut
  cases before with
  | nil =>
    obtain ⟨rfl, -⟩ := List.cons.inj cut
    exact here rfl
  | cons c before =>
    obtain ⟨rfl, inText⟩ := List.cons.inj cut
    rw [List.getLast?_cons, Option.getD_some]
    exact escaped before behind inText

/-- Inside a string the scan goes on to the first quote that stands behind no backslash, or finds none. -/
theorem scan_inString {s : Scan} (inString : s.status = .inString) (text : Bytes) :
    (∃ inner after, text = inner ++ quote :: after ∧ Escaped s.lastC inner ∧
        (scan s text).result = s.keyVal ++ inner) ∨
      (Escaped s.lastC text ∧ (scan s text).result = if s.objFlage ≠ 0 then [] else s.keyVal ++ text) := by
  induction text generalizing s with
  | nil => exact .inr ⟨escaped_nil _, by rw [scan_nil, Scan.result, List.append_nil]⟩
  | cons b text ih =>
    by_cases here : b = quote ∧ s.lastC ≠ backslash
    · have step : scanStep s b = ⟨s.keyVal, .finished, b, 0⟩ := by
        simp only [scanStep, inString, scanString, if_pos here]
      refine .inl ⟨[], text, by rw [here.1]; rfl, escaped_nil _, ?_⟩
      rw [scan_cons, step, result_finished rfl, List.append_nil]
      rfl
    · have step : scanStep s b = { s.push b with lastC := b } := by
        simp only [scanStep, inString, scanString, if_neg here]
      have notHere : b = quote → s.lastC = backslash :=
          fun isQuote => not_not.mp fun notBackslash => here ⟨isQuote, notBackslash⟩
      rw [scan_cons, step]
      rcases ih (s := { s.push b with lastC := b }) inString with
        ⟨inner, after, rfl, escaped, result⟩ | ⟨escaped, result⟩
      · exact .inl ⟨b :: inner, after, rfl, escaped.cons notHere, by rw [result]; simp [Scan.push]⟩
      · exact .inr ⟨escaped.cons notHere, by rw [result]; simp [Scan.push]⟩

/-! ## What stands before a value -/

def IsMark (b : Byte) : Prop := b = quote ∨ b = openBrace ∨ b = comma ∨ b = closeBrace

instance (b : Byte) : Decidable (IsMark b) := inferInstanceAs (Decidable (_ ∨ _))

/-- What the scanner keeps of the text between a key and its value. -/
def seen (gap : Bytes) : Bytes := (gap.dropWhile (· ≠ colon)).filter fun b => b ≠ colon ∧ b ≠ space

theorem mem_of_mem_seen {gap : Bytes} {b : Byte} (member : b ∈ seen gap) : b ∈ gap :=
  (List.dropWhile_sublist _).subset (List.mem_filter.mp member).1

theorem scan_afterColon {s : Scan} (seeking : s.status = .seeking) (colonSeen : s.objFlage = 1) {text : Bytes}
    (unmarked : ∀ b ∈ text, ¬ IsMark b) :
    ∃ lastC, scan s text = { s with keyVal := s.keyVal ++ text.filter (fun b => b ≠ colon ∧ b ≠ space), lastC } := by
  induction text generalizing s with
  | nil => exact ⟨s.lastC, by simp⟩
  | cons b text ih =>
    have notMark := unmarked b List.mem_cons_self
    simp only [IsMark, not_or] at notMark
    obtain ⟨notQuote, notOpen, notComma, notClose⟩ := notMark
    have later {s : Scan} (seeking : s.status = .seeking) (colonSeen : s.objFlage = 1) :=
      ih seeking colonSeen fun c member => unmarked c (List.mem_cons_of_mem b member)
    by_cases passed : b = colon ∨ b = space
    · have step : scanStep s b = { s with lastC := b } := by
        rcases passed with rfl | rfl
        · simp [scanStep, seeking, scanSeeking, colonSeen, notQuote, notOpen]
        · simp [scanStep, seeking, scanSeeking, notQuote, notOpen, notComma, notClose, show space ≠ colon by decide]
      obtain ⟨lastC, run⟩ := later (s := { s with lastC := b }) seeking colonSeen
      refine ⟨lastC, ?_⟩
      rw [scan_cons, step, run, List.filter_cons_of_neg]
      rcases passed with rfl | rfl
      · decide
      · decide
    · obtain ⟨notColon, notSpace⟩ := not_or.mp passed
      have step : scanStep s b = { s.push b with lastC := b } := by
        simp [scanStep, seeking, scanSeeking, colonSeen, notQuote, notOpen, notComma, notClose, notColon, notSpace]
      obtain ⟨lastC, run⟩ := later (s := { s.push b with lastC := b }) seeking colonSeen
      refine ⟨lastC, ?_⟩
      rw [scan_cons, step, run, List.filter_cons_of_pos (by simp [notColon, notSpace])]
      simp [Scan.push]

theorem scan_unmarked {gap : Bytes} (unmarked : ∀ b ∈ gap, ¬ IsMark b) :
    ∃ lastC objFlage, scan .initial gap = ⟨seen gap, .seeking, lastC, objFlage⟩ ∧ (objFlage = 0 ↔ colon ∉ gap) := by
  have cut := (List.takeWhile_append_dropWhile (p := (· ≠ colon)) (l := gap)).symm
  have front : ∀ b ∈ gap.takeWhile (· ≠ colon), b ≠ quote ∧ b ≠ openBrace ∧ b ≠ colon ∧ b ≠ comma ∧ b ≠ closeBrace := by
    intro b member
    have notColon : b ≠ colon := by simpa using List.mem_takeWhile_imp member
    have notMark := unmarked b ((List.takeWhile_sublist _).subset member)
    simp only [IsMark, not_or] at notMark
    exact ⟨notMark.1, notMark.2.1, notColon, notMark.2.2⟩
  obtain ⟨lastC, before⟩ := scan_beforeColon (s := .initial) rfl rfl front
  cases rest : gap.dropWhile (· ≠ colon) with
  | nil =>
    have noColon : colon ∉ gap := by
      intro member
      have := List.dropWhile_eq_nil_iff.mp rest colon member
      simp at this
    rw [rest, List.append_nil] at cut
    refine ⟨lastC, 0, ?_, iff_of_true rfl noColon⟩
    rw [seen, rest]
    conv_lhs => rw [cut]
    exact before
  | cons b more =>
    have isColon : b = colon := by
      have head := List.head?_dropWhile_not (· ≠ colon) gap
      rw [rest] at head
      simpa using head
    subst isColon
    have behind : ∀ b ∈ more, ¬ IsMark b := fun b member =>
      unmarked b ((List.dropWhile_sublist _).subset (rest ▸ List.mem_cons_of_mem colon member))
    obtain ⟨lastC', after⟩ := scan_afterColon (s := ⟨[], .seeking, colon, 1⟩) rfl rfl behind
    have atColon : scanStep ⟨[], .seeking, lastC, 0⟩ colon = ⟨[], .seeking, colon, 1⟩ := rfl
    have before : scan .initial (gap.takeWhile (· ≠ colon)) = ⟨[], .seeking, lastC, 0⟩ := before
    have hasColon : colon ∈ gap := (List.dropWhile_sublist _).subset (rest ▸ List.mem_cons_self)
    rw [rest] at cut
    refine ⟨lastC', 1, ?_, iff_of_false Int.one_ne_zero (not_not.mpr hasColon)⟩
    rw [seen, rest]
    conv_lhs => rw [cut]
    rw [scan_append, before, scan_cons, atColon, after]
    rfl

/-- Before the colon nothing is kept. -/
theorem seen_of_notMem {gap : Bytes} (noColon : colon ∉ gap) : seen gap = [] := by
  have passed : gap.dropWhile (· ≠ colon) = [] := by
    rw [List.dropWhile_eq_nil_iff]
    intro b member
    simpa using fun isColon : b = colon => noColon (isColon ▸ member)
  rw [seen, passed]
  rfl

theorem cut_at_mark (text : Bytes) : (∀ b ∈ text, ¬ IsMark b) ∨
    ∃ gap mark rest, text = gap ++ mark :: rest ∧ (∀ b ∈ gap, ¬ IsMark b) ∧ IsMark mark := by
  induction text with
  | nil => exact .inl fun b member => by cases member
  | cons b text ih =>
    by_cases isMark : IsMark b
    · have none : ∀ c ∈ ([] : Bytes), ¬ IsMark c := fun c member => by cases member
      exact .inr ⟨[], b, text, rfl, none, isMark⟩
    · rcases ih with none | ⟨gap, mark, rest, rfl, unmarked, isMark'⟩
      · exact .inl fun c member => (List.mem_cons.mp member).elim (fun same => same ▸ isMark) (none c)
      · refine .inr ⟨b :: gap, mark, rest, rfl, fun c member => ?_, isMark'⟩
        exact (List.mem_cons.mp member).elim (fun same => same ▸ isMark) (unmarked c)

/-- The first mark behind a key is in one place. -/
theorem mark_unique {gap gap' rest rest' : Bytes} {mark mark' : Byte} (unmarked : ∀ b ∈ gap, ¬ IsMark b)
    (unmarked' : ∀ b ∈ gap', ¬ IsMark b) (isMark : IsMark mark) (isMark' : IsMark mark')
    (same : gap ++ mark :: rest = gap' ++ mark' :: rest') : gap = gap' ∧ mark = mark' ∧ rest = rest' := by
  rcases List.append_eq_append_iff.mp same with ⟨more, rfl, tails⟩ | ⟨more, rfl, tails⟩
  · cases more with
    | nil =>
      obtain ⟨marks, rests⟩ := List.cons.inj tails
      exact ⟨(List.append_nil _).symm, marks, rests⟩
    | cons b more =>
      obtain ⟨rfl, -⟩ := List.cons.inj tails
      exact absurd isMark (unmarked' mark (List.mem_append_right _ List.mem_cons_self))
  · cases more with
    | nil =>
      obtain ⟨marks, rests⟩ := List.cons.inj tails
      exact ⟨List.append_nil _, marks.symm, rests.symm⟩
    | cons b more =>
      obtain ⟨rfl, -⟩ := List.cons.inj tails
      exact absurd isMark' (unmarked mark' (List.mem_append_right _ List.mem_cons_self))

/-! ## Results -/

section
variable {gap : Bytes} (unmarked : ∀ b ∈ gap, ¬ IsMark b)

include unmarked

theorem result_unmarked : (scan .initial gap).result = [] := by
  obtain ⟨lastC, objFlage, run, isZero⟩ := scan_unmarked unmarked
  rw [run, Scan.result]
  split
  · rfl
  · next zero => exact seen_of_notMem (isZero.mp (not_not.mp zero))

theorem result_ended {mark : Byte} (ends : mark = comma ∨ mark = closeBrace) (rest : Bytes) :
    (scan .initial (gap ++ mark :: rest)).result = seen gap := by
  obtain ⟨lastC, objFlage, run, -⟩ := scan_unmarked unmarked
  have step : scanStep ⟨seen gap, .seeking, lastC, objFlage⟩ mark = ⟨seen gap, .finished, mark, 0⟩ := by
    rcases ends with rfl | rfl
    · rfl
    · rfl
  rw [scan_append, run, scan_cons, step, result_finished rfl]
  rfl

theorem result_object (rest : Bytes) :
    ((∃ left, follow braceStep 0 rest = some left) ∧ (scan .initial (gap ++ openBrace :: rest)).result = []) ∨
      ∃ inner after, rest = inner ++ closeBrace :: after ∧ Matched inner ∧
        (scan .initial (gap ++ openBrace :: rest)).result = seen gap ++ openBrace :: (inner ++ [closeBrace]) := by
  obtain ⟨lastC, objFlage, run, -⟩ := scan_unmarked unmarked
  have step : scanStep ⟨seen gap, .seeking, lastC, objFlage⟩ openBrace =
      ⟨seen gap ++ [openBrace], .inObject, openBrace, 1⟩ := rfl
  rw [scan_append, run, scan_cons, step]
  rcases scan_inObject (s := ⟨seen gap ++ [openBrace], .inObject, openBrace, 1⟩) rfl rfl rest with none | found
  · exact .inl none
  · obtain ⟨inner, after, same, matched, result⟩ := found
    exact .inr ⟨inner, after, same, matched, by rw [result]; simp⟩

theorem result_matched {inner : Bytes} (matched : Matched inner) (after : Bytes) :
    (scan .initial (gap ++ openBrace :: (inner ++ closeBrace :: after))).result =
      seen gap ++ openBrace :: (inner ++ [closeBrace]) := by
  rcases result_object unmarked (inner ++ closeBrace :: after) with
    ⟨⟨left, counts⟩, -⟩ | ⟨inner', after', same, matched', result⟩
  · -- the count ends at the brace
    rw [follow_append, matched] at counts
    cases counts
  · obtain rfl := matched_unique matched matched' same
    exact result

/-- A string without quotes and backslashes. -/
theorem result_quoted {raw : Bytes} (plain : ∀ b ∈ raw, b ≠ quote ∧ b ≠ backslash) (rest : Bytes) :
    (scan .initial (gap ++ (quoted raw ++ rest))).result = seen gap ++ raw := by
  obtain ⟨lastC, objFlage, run, -⟩ := scan_unmarked unmarked
  have step : scanStep ⟨seen gap, .seeking, lastC, objFlage⟩ quote = ⟨seen gap, .inString, quote, objFlage⟩ := rfl
  have cut : quoted raw ++ rest = quote :: (raw ++ quote :: rest) := by simp [quoted]
  rw [cut, scan_append, run, scan_cons, step]
  exact scan_plain_closed rfl (show quote ≠ backslash by decide) plain rest

/-- A string with whatever in it, and one that has no end. -/
theorem result_string (rest : Bytes) :
    (∃ inner after, rest = inner ++ quote :: after ∧ Escaped quote inner ∧
        (scan .initial (gap ++ quote :: rest)).result = seen gap ++ inner) ∨
      (Escaped quote rest ∧ (scan .initial (gap ++ quote :: rest)).result = if colon ∈ gap then [] else rest) := by
  obtain ⟨lastC, objFlage, run, isZero⟩ := scan_unmarked unmarked
  have step : scanStep ⟨seen gap, .seeking, lastC, objFlage⟩ quote = ⟨seen gap, .inString, quote, objFlage⟩ := rfl
  rw [scan_append, run, scan_cons, step]
  refine (scan_inString (s := ⟨seen gap, .inString, quote, objFlage⟩) rfl rest).imp_right ?_
  rintro ⟨escaped, result⟩
  refine ⟨escaped, ?_⟩
  rw [result]
  by_cases hasColon : colon ∈ gap
  · rw [if_pos fun zero => isZero.mp zero hasColon, if_pos hasColon]
  · rw [if_neg (not_not.mpr (isZero.mpr hasColon)), if_neg hasColon, seen_of_notMem hasColon, List.nil_append]

theorem result_unclosed (noColon : colon ∉ gap) {inner : Bytes} (noQuote : quote ∉ inner) :
    (scan .initial (gap ++ quote :: inner)).result = inner := by
  rcases result_string unmarked inner with ⟨front, after, rfl, -⟩ | ⟨-, result⟩
  · exact absurd (List.mem_append_right _ List.mem_cons_self) noQuote
  · rw [result, if_neg noColon]

end

/-! ## Objects -/

/-- What comes first behind the key is the text of an object with matching braces, or a string that is the text of one.
`unclosed` is of no text that is JSON. -/
inductive ReadsObject (members : List (Json.Text × Json)) : Bytes → Prop where
  | braced {gap inner after : Bytes} (unmarked : ∀ b ∈ gap, ¬ IsMark b) (blank : ∀ b ∈ seen gap, IsBlank b)
      (matched : Matched inner) (parsed : Json.parse (openBrace :: (inner ++ [closeBrace])) = some (.object members)) :
      ReadsObject members (gap ++ openBrace :: (inner ++ closeBrace :: after))
  | quoted {gap inner after : Bytes} (unmarked : ∀ b ∈ gap, ¬ IsMark b) (blank : ∀ b ∈ seen gap, IsBlank b)
      (noQuote : quote ∉ inner) (parsed : Json.parse inner = some (.object members)) :
      ReadsObject members (gap ++ (quoted inner ++ after))
  | unclosed {gap inner : Bytes} (unmarked : ∀ b ∈ gap, ¬ IsMark b) (noColon : colon ∉ gap) (noQuote : quote ∉ inner)
      (parsed : Json.parse inner = some (.object members)) : ReadsObject members (gap ++ quote :: inner)

section
variable {members : List (Json.Text × Json)} {gap text : Bytes}

theorem parse_nil_ne : Json.parse [] ≠ some (.object members) := by
  intro parsed
  obtain ⟨before, inside, rest, cut, -⟩ := Json.parse_object_shape parsed
  simp at cut

/-- Nothing but blanks can have been kept in front of an object. -/
theorem seen_blank (unmarked : ∀ b ∈ gap, ¬ IsMark b)
    (parsed : Json.parse (seen gap ++ text) = some (.object members)) : ∀ b ∈ seen gap, IsBlank b := by
  obtain ⟨before, inside, rest, cut, blank, -⟩ := Json.parse_object_shape parsed
  rcases List.append_eq_append_iff.mp cut with ⟨more, rfl, -⟩ | ⟨more, kept, tails⟩
  · exact fun b member => blank b (List.mem_append_left _ (List.mem_append_left _ member))
  · cases more with
    | nil =>
      rw [kept, List.append_nil]
      exact fun b member => blank b (List.mem_append_left _ member)
    | cons b more =>
      -- the brace is a mark, which is not kept
      obtain ⟨rfl, -⟩ := List.cons.inj tails
      have inGap : openBrace ∈ gap := mem_of_mem_seen (by rw [kept]; simp)
      exact absurd (.inr (.inl rfl)) (unmarked openBrace inGap)

/-- In the text of an object the first quote stands behind a blank or a brace. -/
theorem quote_notMem_of_escaped {inner : Bytes} (unmarked : ∀ b ∈ gap, ¬ IsMark b)
    (parsed : Json.parse (seen gap ++ inner) = some (.object members)) (escaped : Escaped quote inner) :
    quote ∉ inner := by
  intro member
  obtain ⟨before, behind, rfl, noQuote⟩ := List.eq_append_cons_of_mem member
  have last := escaped before behind rfl
  have inBefore : backslash ∈ before := by
    cases found : before.getLast? with
    | none =>
      rw [found] at last
      exact absurd last (by decide)
    | some b =>
      rw [found, Option.getD_some] at last
      exact last ▸ List.mem_of_getLast? found
  have noQuoteSeen : quote ∉ seen gap := fun inSeen => unmarked quote (mem_of_mem_seen inSeen) (.inl rfl)
  obtain ⟨front, inside, rest, cut, blank, ends⟩ := Json.parse_object_shape parsed
  have noQuoteFront : quote ∉ front ++ openBrace :: inside := by
    intro inFront
    rw [List.mem_append, List.mem_cons] at inFront
    have isBlank : IsBlank quote := by
      rcases inFront with inFront | isBrace | inInside
      · exact blank quote (List.mem_append_left _ inFront)
      · exact absurd isBrace (by decide)
      · exact blank quote (List.mem_append_right _ inInside)
    exact absurd isBlank (by decide)
  rcases ends with ⟨more, rfl⟩ | ⟨after, rfl, blankAfter⟩
  · have same : (seen gap ++ before) ++ quote :: behind = (front ++ openBrace :: inside) ++ quote :: more := by
      simpa using cut
    have noQuoteHere : quote ∉ seen gap ++ before := fun here =>
      (List.mem_append.mp here).elim noQuoteSeen noQuote
    obtain ⟨fronts, -⟩ := Lines.terminated_inj noQuoteHere noQuoteFront same
    have inFront : backslash ∈ front ++ openBrace :: inside := fronts ▸ List.mem_append_right _ inBefore
    rw [List.mem_append, List.mem_cons] at inFront
    have isBlank : IsBlank backslash := by
      rcases inFront with inFront | isBrace | inInside
      · exact blank backslash (List.mem_append_left _ inFront)
      · exact absurd isBrace (by decide)
      · exact blank backslash (List.mem_append_right _ inInside)
    exact absurd isBlank (by decide)
  · -- the empty object has no quote at all
    have inWhole : quote ∈ seen gap ++ (before ++ quote :: behind) := by simp
    rw [cut] at inWhole
    have inAll : quote ∈ (front ++ openBrace :: inside) ++ closeBrace :: after := by simpa using inWhole
    rw [List.mem_append, List.mem_cons] at inAll
    rcases inAll with inFront | isBrace | inAfter
    · exact noQuoteFront inFront
    · exact absurd isBrace (by decide)
    · exact absurd (blankAfter quote inAfter) (by decide)

theorem plain_of_notMem {inner : Bytes} (noQuote : quote ∉ inner) (parsed : Json.parse inner = some (.object members)) :
    ∀ b ∈ inner, b ≠ quote ∧ b ≠ backslash := by
  obtain ⟨front, inside, rest, rfl, blank, ends⟩ := Json.parse_object_shape parsed
  intro b member
  refine ⟨fun isQuote => noQuote (isQuote ▸ member), ?_⟩
  rintro rfl
  rcases ends with ⟨more, rfl⟩ | ⟨after, rfl, blankAfter⟩
  · exact noQuote (by simp)
  · simp only [List.mem_append, List.mem_cons] at member blank
    have isBlank : IsBlank backslash := by
      rcases member with inFront | isOpen | inInside | isClose | inAfter
      · exact blank backslash (.inl inFront)
      · exact absurd isOpen (by decide)
      · exact blank backslash (.inr inInside)
      · exact absurd isClose (by decide)
      · exact blankAfter backslash inAfter
    exact absurd isBlank (by decide)

theorem readsObject_of_quote (unmarked : ∀ b ∈ gap, ¬ IsMark b) {rest : Bytes}
    (parsed : Json.parse (scan .initial (gap ++ quote :: rest)).result = some (.object members)) :
    ReadsObject members (gap ++ quote :: rest) := by
  rcases result_string unmarked rest with ⟨inner, after, rfl, escaped, result⟩ | ⟨escaped, result⟩
  · rw [result] at parsed
    have noQuote := quote_notMem_of_escaped unmarked parsed escaped
    have blank := seen_blank unmarked parsed
    have cut : gap ++ quote :: (inner ++ quote :: after) = gap ++ (quoted inner ++ after) := by simp [quoted]
    rw [cut]
    exact .quoted unmarked blank noQuote ((Json.parse_gap_object blank).mp parsed)
  · rw [result] at parsed
    split at parsed
    · exact absurd parsed parse_nil_ne
    · next noColon =>
      have kept : Json.parse (seen gap ++ rest) = some (.object members) := by
        rw [seen_of_notMem noColon]
        exact parsed
      exact .unclosed unmarked noColon (quote_notMem_of_escaped unmarked kept escaped) parsed

/-- The scanner reads an object exactly where it stands in matching braces, or is the text of a string. -/
theorem parse_result_iff :
    Json.parse (scan .initial text).result = some (.object members) ↔ ReadsObject members text := by
  constructor
  · intro parsed
    rcases cut_at_mark text with none | ⟨gap, mark, rest, rfl, unmarked, isMark⟩
    · rw [result_unmarked none] at parsed
      exact absurd parsed parse_nil_ne
    · -- what ends at a comma or a brace holds no brace that opens
      have ended (ends : mark = comma ∨ mark = closeBrace) : ReadsObject members (gap ++ mark :: rest) := by
        rw [result_ended unmarked ends, ← List.append_nil (seen gap)] at parsed
        have blank := seen_blank unmarked parsed
        rw [List.append_nil] at parsed
        obtain ⟨front, inside, more, cut, -⟩ := Json.parse_object_shape parsed
        have isBlank := blank openBrace (by rw [cut]; simp)
        exact absurd isBlank (by decide)
      rcases isMark with rfl | rfl | rfl | rfl
      · exact readsObject_of_quote unmarked parsed
      · rcases result_object unmarked rest with ⟨-, none⟩ | ⟨inner, after, rfl, matched, result⟩
        · rw [none] at parsed
          exact absurd parsed parse_nil_ne
        · rw [result] at parsed
          have blank := seen_blank unmarked parsed
          exact .braced unmarked blank matched ((Json.parse_gap_object blank).mp parsed)
      · exact ended (.inl rfl)
      · exact ended (.inr rfl)
  · intro reads
    cases reads with
    | braced unmarked blank matched parsed =>
      rw [result_matched unmarked matched]
      exact (Json.parse_gap_object blank).mpr parsed
    | quoted unmarked blank noQuote parsed =>
      rw [result_quoted unmarked (plain_of_notMem noQuote parsed)]
      exact (Json.parse_gap_object blank).mpr parsed
    | unclosed unmarked noColon noQuote parsed =>
      rw [result_unclosed unmarked noColon noQuote]
      exact parsed

/-- Of two texts of objects that begin at one place, neither is longer than the other. -/
theorem object_unique {inner inner' after after' : Bytes} {others : List (Json.Text × Json)}
    (parsed : Json.parse (openBrace :: (inner ++ [closeBrace])) = some (.object members))
    (parsed' : Json.parse (openBrace :: (inner' ++ [closeBrace])) = some (.object others))
    (same : inner ++ closeBrace :: after = inner' ++ closeBrace :: after') : inner = inner' := by
  have noLonger {front more : Bytes} {first second : List (Json.Text × Json)}
      (short : Json.parse (openBrace :: (front ++ [closeBrace])) = some (.object first))
      (long : Json.parse (openBrace :: (front ++ closeBrace :: more ++ [closeBrace])) =
        some (.object second)) : False := by
    have cut : openBrace :: (front ++ closeBrace :: more ++ [closeBrace]) =
        openBrace :: (front ++ [closeBrace]) ++ (more ++ [closeBrace]) := by
      simp
    rw [cut] at long
    exact absurd (Json.parse_object_append short long closeBrace (by simp)) (by decide)
  rcases List.append_eq_append_iff.mp same with ⟨more, rfl, ends⟩ | ⟨more, rfl, ends⟩
  · cases more with
    | nil => exact (List.append_nil _).symm
    | cons b more =>
      obtain ⟨rfl, -⟩ := List.cons.inj ends
      exact (noLonger parsed parsed').elim
  · cases more with
    | nil => exact List.append_nil _
    | cons b more =>
      obtain ⟨rfl, -⟩ := List.cons.inj ends
      exact (noLonger parsed' parsed).elim

/-- An object behind the key is read when its braces match, and no other object ever is. -/
theorem readsObject_braced_iff {inner : Bytes} (unmarked : ∀ b ∈ gap, ¬ IsMark b) (blank : ∀ b ∈ seen gap, IsBlank b)
    (parsed : Json.parse (openBrace :: (inner ++ [closeBrace])) = some (.object members)) (after : Bytes)
    {others : List (Json.Text × Json)} :
    ReadsObject others (gap ++ openBrace :: (inner ++ closeBrace :: after)) ↔ others = members ∧ Matched inner := by
  constructor
  · intro reads
    generalize same : gap ++ openBrace :: (inner ++ closeBrace :: after) = text at reads
    have notString {gap' rest : Bytes} (unmarked' : ∀ b ∈ gap', ¬ IsMark b) (cut : text = gap' ++ quote :: rest) :
        False := by
      have marks := (mark_unique unmarked unmarked' (.inr (.inl rfl)) (.inl rfl) (same.trans cut)).2.1
      exact absurd marks (by decide)
    cases reads with
    | quoted unmarked' => exact (notString unmarked' rfl).elim
    | unclosed unmarked' => exact (notString unmarked' rfl).elim
    | braced unmarked' _ matched parsed' =>
      have tails := (mark_unique unmarked unmarked' (.inr (.inl rfl)) (.inr (.inl rfl)) same).2.2
      obtain rfl := object_unique parsed parsed' tails
      rw [parsed] at parsed'
      cases parsed'
      exact ⟨rfl, matched⟩
  · rintro ⟨rfl, matched⟩
    exact .braced unmarked blank matched parsed

theorem not_readsObject_comma (rest : Bytes) : ¬ ReadsObject members (comma :: rest) := by
  intro reads
  have none : (scan .initial ([] ++ comma :: rest)).result = [] :=
    result_ended (fun b member => by cases member) (.inl rfl) rest
  have parsed := parse_result_iff.mpr reads
  rw [← List.nil_append (comma :: rest), none] at parsed
  exact parse_nil_ne parsed

end

end EdgeFlow.Node
