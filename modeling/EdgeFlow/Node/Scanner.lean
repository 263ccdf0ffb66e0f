import EdgeFlow.Library.Json.Strings
import EdgeFlow.Library.Search

/-! `sample_json_str_get`: the scanner the nodes read request fields with.

It takes the first place where the quoted key stands in the text, and from there
one value by a character automaton that knows neither nesting nor escapes.

The source keeps the position and the depth in an `int`; here they have no bound, so
that texts of 2^31 bytes and more are idealised.
-/

set_option autoImplicit false

namespace EdgeFlow.Node
open Library Library.Byte

/-- The local `status` of `sample_json_str_get`. -/
inductive Status where
  /-- 0 -/
  | seeking
  /-- 10 -/
  | inObject
  /-- 100 -/
  | inString
  /-- -1 -/
  | finished
  deriving DecidableEq, Repr

structure Scan where
  keyVal : Bytes
  status : Status
  lastC : Byte
  objFlage : Int
  deriving DecidableEq

def Scan.initial : Scan := ⟨[], .seeking, 0, 0⟩

def Scan.push (s : Scan) (c : Byte) : Scan := { s with keyVal := s.keyVal ++ [c] }

def scanSeeking (s : Scan) (c : Byte) : Scan :=
  if c = quote then { s with status := .inString }
  else if c = openBrace then { s.push c with objFlage := 1, status := .inObject }
  else if c = colon then { s with objFlage := 1 }
  else if c = comma ∨ c = closeBrace then { s with objFlage := 0, status := .finished }
  else if c = space then s
  else if s.objFlage ≠ 0 then s.push c
  else s

def scanObject (s : Scan) (c : Byte) : Scan :=
  let s := s.push c
  let s := if c = openBrace then { s with objFlage := s.objFlage + 1 } else s
  let s := if c = closeBrace then { s with objFlage := s.objFlage - 1 } else s
  if s.objFlage = 0 ∧ s.keyVal ≠ [] then { s with status := .finished } else s

def scanString (s : Scan) (c : Byte) : Scan :=
  if c = quote ∧ s.lastC ≠ backslash then { s with objFlage := 0, status := .finished } else s.push c

/-- One turn of the loop over the characters. -/
def scanStep (s : Scan) (c : Byte) : Scan :=
  let s :=
    match s.status with
    | .seeking => scanSeeking s c
    | .inObject => scanObject s c
    | .inString => scanString s c
    | .finished => s
  { s with lastC := c }

def scan (s : Scan) (text : Bytes) : Scan := text.foldl scanStep s

/-- What is left of a scan when the text is over. -/
def Scan.result (s : Scan) : Bytes := if s.objFlage ≠ 0 then [] else s.keyVal

def sampleJsonStrGet (jsonStr jsonKey : Bytes) : Bytes :=
  let findKey := quoted jsonKey
  match Search.find findKey jsonStr with
  | none => []
  | some subsStart => (scan .initial (jsonStr.drop (subsStart + findKey.length))).result

/-! ## Scans of part of a text -/

@[simp] theorem scan_nil (s : Scan) : scan s [] = s := rfl

@[simp] theorem scan_cons (s : Scan) (c : Byte) (text : Bytes) : scan s (c :: text) = scan (scanStep s c) text :=
  rfl

theorem scan_append (s : Scan) (first second : Bytes) :
    scan s (first ++ second) = scan (scan s first) second := List.foldl_append

theorem sampleJsonStrGet_of_first {jsonStr jsonKey before after : Bytes}
    (here : Search.FirstAt (quoted jsonKey) jsonStr before after) :
    sampleJsonStrGet jsonStr jsonKey = (scan .initial after).result := by
  have dropped : jsonStr.drop (before.length + (quoted jsonKey).length) = after := by
    rw [here.occurs, ← List.length_append, List.drop_left]
  rw [sampleJsonStrGet, here.find_eq]
  exact congrArg (fun text => (scan .initial text).result) dropped

theorem sampleJsonStrGet_of_none {jsonStr jsonKey : Bytes}
    (absent : Search.find (quoted jsonKey) jsonStr = none) : sampleJsonStrGet jsonStr jsonKey = [] := by
  rw [sampleJsonStrGet, absent]

/-- A finished scan keeps what it has. -/
theorem scan_finished {s : Scan} (finished : s.status = .finished) (text : Bytes) :
    (scan s text).keyVal = s.keyVal ∧ (scan s text).objFlage = s.objFlage := by
  induction text generalizing s with
  | nil => exact ⟨rfl, rfl⟩
  | cons c text ih =>
    have stays : scanStep s c = { s with lastC := c } := by simp only [scanStep, finished]
    rw [scan_cons, stays]
    exact ih finished

theorem result_finished {s : Scan} (finished : s.status = .finished) (text : Bytes) :
    (scan s text).result = s.result := by
  obtain ⟨keyVal, objFlage⟩ := scan_finished finished text
  rw [Scan.result, Scan.result, keyVal, objFlage]

/-- What is not a mark of its own goes unseen until the colon has come. -/
theorem scan_beforeColon {s : Scan} (seeking : s.status = .seeking) (noColon : s.objFlage = 0) {text : Bytes}
    (unmarked : ∀ c ∈ text, c ≠ quote ∧ c ≠ openBrace ∧ c ≠ colon ∧ c ≠ comma ∧ c ≠ closeBrace) :
    ∃ lastC, scan s text = { s with lastC } := by
  induction text generalizing s with
  | nil => exact ⟨s.lastC, rfl⟩
  | cons c text ih =>
    obtain ⟨notQuote, notOpen, notColon, notComma, notClose⟩ := unmarked c List.mem_cons_self
    have stays : scanStep s c = { s with lastC := c } := by
      simp [scanStep, seeking, scanSeeking, notQuote, notOpen, notColon, notComma, notClose, noColon]
    rw [scan_cons, stays]
    exact ih seeking noColon fun d member => unmarked d (List.mem_cons_of_mem c member)

theorem scan_lastC (s : Scan) (text : Bytes) : (scan s text).lastC = text.getLast?.getD s.lastC := by
  induction text generalizing s with
  | nil => rfl
  | cons c text ih =>
    rw [scan_cons, ih, List.getLast?_cons]
    rfl

/-! ## String members -/

/-- The blanks between the colon and the value: those that are no spaces become part of it. -/
theorem scan_gap {s : Scan} (seeking : s.status = .seeking) (colonSeen : s.objFlage = 1) {gap : Bytes}
    (blank : ∀ b ∈ gap, IsBlank b) :
    ∃ lastC, scan s gap = { s with keyVal := s.keyVal ++ gap.filter (· ≠ space), lastC } := by
  induction gap generalizing s with
  | nil => exact ⟨s.lastC, by simp⟩
  | cons b gap ih =>
    have later {s : Scan} (seeking : s.status = .seeking) (colonSeen : s.objFlage = 1) :=
      ih seeking colonSeen fun c member => blank c (List.mem_cons_of_mem b member)
    obtain rfl | tab : b = space ∨ b = 9 ∨ b = newline ∨ b = 13 := blank b List.mem_cons_self
    · have step : scanStep s space = { s with lastC := space } := by
        simp [scanStep, seeking, scanSeeking, show space ≠ quote by decide, show space ≠ openBrace by decide,
          show space ≠ colon by decide, show space ≠ comma by decide, show space ≠ closeBrace by decide]
      rw [scan_cons, step]
      obtain ⟨lastC, run⟩ := later (s := { s with lastC := space }) seeking colonSeen
      exact ⟨lastC, by rw [run]; simp⟩
    · have marks : b ≠ quote ∧ b ≠ openBrace ∧ b ≠ colon ∧ b ≠ comma ∧ b ≠ closeBrace ∧ b ≠ space := by
        obtain rfl | rfl | rfl := tab <;> decide
      obtain ⟨notQuote, notOpen, notColon, notComma, notClose, notSpace⟩ := marks
      have step : scanStep s b = { s.push b with lastC := b } := by
        simp [scanStep, seeking, scanSeeking, notQuote, notOpen, notColon, notComma, notClose, notSpace, colonSeen]
      rw [scan_cons, step]
      obtain ⟨lastC, run⟩ := later (s := { s.push b with lastC := b }) seeking colonSeen
      exact ⟨lastC, by rw [run]; simp [Scan.push, notSpace]⟩

/-- Inside a literal no quote ends the scan: each follows a backslash. -/
theorem scan_literal {s : Scan} (inString : s.status = .inString) {state final : Json.StringState}
    {raw text : Bytes} (escapes : ∀ high, state = .escaped high → s.lastC = backslash)
    (run : Json.stringRun state raw = some (final, text)) :
    ∃ lastC, scan s raw = { s with keyVal := s.keyVal ++ raw, lastC } := by
  induction raw generalizing s state text with
  | nil => exact ⟨s.lastC, by simp⟩
  | cons b raw ih =>
    obtain ⟨middle, out, more, taken, rest, -⟩ := Json.stringRun_cons.mp run
    -- a quote inside the literal is escaped, so it does not end the scan
    have goesOn : b = quote → s.lastC = backslash := by
      rintro rfl
      cases state with
      | plain => cases taken
      | escaped high => exact escapes high rfl
      | hex high digits code => cases taken
      | paired high => cases taken
    have step : scanStep s b = { s.push b with lastC := b } := by
      have pushed : ¬ (b = quote ∧ s.lastC ≠ backslash) := fun ends => ends.2 (goesOn ends.1)
      simp only [scanStep, inString, scanString, if_neg pushed]
    -- only a backslash leads into an escape
    have escapesAfter : ∀ high, middle = .escaped high → b = backslash := by
      rintro high rfl
      cases state with
      | plain =>
        simp only [Json.stringStep] at taken
        split_ifs at taken with _ isBackslash
        · exact isBackslash
        · cases taken
      | escaped high' =>
        simp only [Json.stringStep] at taken
        split_ifs at taken
        · cases taken
        · cases high' with
          | none =>
            obtain ⟨meant, -, same⟩ := Option.map_eq_some_iff.mp taken
            cases same
          | some _ => cases taken
      | hex high' digits code =>
        simp only [Json.stringStep, Option.bind_eq_bind, Option.bind_eq_some_iff] at taken
        obtain ⟨digit, -, taken⟩ := taken
        split_ifs at taken
        · cases taken
        · unfold Json.unicode at taken
          split at taken <;> split_ifs at taken <;> cases taken
      | paired high' =>
        simp only [Json.stringStep] at taken
        split_ifs at taken with isBackslash
        exact isBackslash
    rw [scan_cons, step]
    obtain ⟨lastC, scanned⟩ := ih (s := { s.push b with lastC := b }) inString escapesAfter rest
    exact ⟨lastC, by rw [scanned]; simp [Scan.push]⟩

/-- Without quotes and backslashes, a literal is kept as it stands. -/
theorem scan_plain {s : Scan} (inString : s.status = .inString) (last : s.lastC ≠ backslash) {raw : Bytes}
    (plain : ∀ b ∈ raw, b ≠ quote ∧ b ≠ backslash) :
    ∃ lastC, lastC ≠ backslash ∧ scan s raw = { s with keyVal := s.keyVal ++ raw, lastC } := by
  induction raw generalizing s with
  | nil => exact ⟨s.lastC, last, by simp⟩
  | cons b raw ih =>
    obtain ⟨notQuote, notBackslash⟩ := plain b List.mem_cons_self
    have step : scanStep s b = { s.push b with lastC := b } := by
      simp [scanStep, inString, scanString, notQuote]
    obtain ⟨lastC, last, run⟩ := ih (s := { s.push b with lastC := b }) inString notBackslash
      fun c member => plain c (List.mem_cons_of_mem b member)
    exact ⟨lastC, last, by rw [scan_cons, step, run]; simp [Scan.push]⟩

/-- A literal that the scanner has opened ends at its closing quote. -/
theorem scan_plain_closed {s : Scan} (inString : s.status = .inString) (last : s.lastC ≠ backslash) {raw : Bytes}
    (plain : ∀ b ∈ raw, b ≠ quote ∧ b ≠ backslash) (rest : Bytes) :
    (scan s (raw ++ quote :: rest)).result = s.keyVal ++ raw := by
  obtain ⟨lastC, notBackslash, run⟩ := scan_plain inString last plain
  have closed : scanStep { s with keyVal := s.keyVal ++ raw, lastC } quote =
      ⟨s.keyVal ++ raw, .finished, quote, 0⟩ := by
    simp [scanStep, inString, scanString, notBackslash]
  rw [scan_append, run, scan_cons, closed, result_finished rfl]
  rfl

/-- Right behind a colon, a literal without quotes and backslashes is scanned as it stands. -/
theorem scan_plainLiteral {raw : Bytes} (plain : ∀ b ∈ raw, b ≠ quote ∧ b ≠ backslash) (rest : Bytes) :
    (scan .initial (colon :: (quoted raw ++ rest))).result = raw := by
  have opened : scanStep (scanStep .initial colon) quote = ⟨[], .inString, quote, 1⟩ := rfl
  have cut : colon :: (quoted raw ++ rest) = colon :: quote :: (raw ++ quote :: rest) := by simp [quoted]
  rw [cut, scan_cons, scan_cons, opened, scan_plain_closed rfl (by decide) plain]
  exact List.nil_append raw

theorem scan_keyVal_grows (s : Scan) (text : Bytes) : s.keyVal <+: (scan s text).keyVal := by
  induction text generalizing s with
  | nil => exact List.prefix_rfl
  | cons c text ih =>
    refine List.IsPrefix.trans ?_ (ih (scanStep s c))
    cases status : s.status with
    | seeking =>
      simp only [scanStep, status, scanSeeking, Scan.push]
      split_ifs <;> simp
    | inObject =>
      simp only [scanStep, status, scanObject, Scan.push]
      split_ifs <;> simp
    | inString =>
      simp only [scanStep, status, scanString, Scan.push]
      split_ifs <;> simp
    | finished => simp [scanStep, status]

/-- The scan of what follows the key of a string member, up to the closing quote. -/
theorem scan_toQuote {beforeColon afterColon raw value : Bytes} (blankBefore : ∀ b ∈ beforeColon, IsBlank b)
    (blankAfter : ∀ b ∈ afterColon, IsBlank b) (spelled : Json.unescape raw = some value) :
    scan .initial ((beforeColon ++ colon :: afterColon) ++ quote :: raw) =
      ⟨afterColon.filter (· ≠ space) ++ raw, .inString, raw.getLast?.getD quote, 1⟩ := by
  have unmarked : ∀ c ∈ beforeColon, c ≠ quote ∧ c ≠ openBrace ∧ c ≠ colon ∧ c ≠ comma ∧ c ≠ closeBrace := by
    intro c member
    obtain rfl | rfl | rfl | rfl := blankBefore c member <;> decide
  obtain ⟨last₁, before⟩ := scan_beforeColon (s := .initial) rfl rfl unmarked
  have before : scan .initial beforeColon = ⟨[], .seeking, last₁, 0⟩ := before
  have atColon : scanStep ⟨[], .seeking, last₁, 0⟩ colon = ⟨[], .seeking, colon, 1⟩ := rfl
  obtain ⟨last₂, gap⟩ := scan_gap (s := ⟨[], .seeking, colon, 1⟩) rfl rfl blankAfter
  have gap : scan ⟨[], .seeking, colon, 1⟩ afterColon = ⟨afterColon.filter (· ≠ space), .seeking, last₂, 1⟩ := gap
  have atQuote : scanStep ⟨afterColon.filter (· ≠ space), .seeking, last₂, 1⟩ quote =
      ⟨afterColon.filter (· ≠ space), .inString, quote, 1⟩ := rfl
  obtain ⟨last₃, literal⟩ := scan_literal (s := ⟨afterColon.filter (· ≠ space), .inString, quote, 1⟩) rfl
    (fun high escaped => by cases escaped) (Json.unescape_eq_some.mp spelled)
  have last := scan_lastC ⟨afterColon.filter (· ≠ space), .inString, quote, 1⟩ raw
  rw [literal] at last
  rw [scan_append, scan_append, before, scan_cons _ colon, atColon, gap, scan_cons _ quote, atQuote, literal]
  exact congrArg (fun lastC => Scan.mk _ _ lastC _) last

/-- The value of a string member is scanned right exactly when it is spelled without an escape and
nothing but spaces stands before it. -/
theorem scan_member_iff {beforeColon afterColon raw value : Bytes} (blankBefore : ∀ b ∈ beforeColon, IsBlank b)
    (blankAfter : ∀ b ∈ afterColon, IsBlank b) (spelled : Json.unescape raw = some value) (rest : Bytes) :
    (scan .initial ((beforeColon ++ colon :: afterColon) ++ quoted raw ++ rest)).result = value ↔
      backslash ∉ raw ∧ ∀ b ∈ afterColon, b = space := by
  have cut : (beforeColon ++ colon :: afterColon) ++ quoted raw ++ rest =
      ((beforeColon ++ colon :: afterColon) ++ quote :: raw) ++ quote :: rest := by
    simp [quoted]
  rw [cut, scan_append, scan_toQuote blankBefore blankAfter spelled, scan_cons]
  have spaces : afterColon.filter (· ≠ space) = [] ↔ ∀ b ∈ afterColon, b = space := by
    simp [List.filter_eq_nil_iff]
  by_cases closes : raw.getLast?.getD quote = backslash
  · -- the closing quote is taken for an escaped one, and the scan runs on
    have inRaw : backslash ∈ raw := by
      cases last : raw.getLast? with
      | none => rw [last] at closes; exact absurd closes (by decide)
      | some b =>
        rw [last] at closes
        exact closes ▸ List.mem_of_getLast? last
    refine iff_of_false ?_ fun clean => clean.1 inRaw
    intro same
    have step : scanStep ⟨afterColon.filter (· ≠ space) ++ raw, .inString, raw.getLast?.getD quote, 1⟩ quote =
        ⟨afterColon.filter (· ≠ space) ++ raw ++ [quote], .inString, quote, 1⟩ := by
      simp only [scanStep, scanString, closes, ne_eq, not_true, and_false, if_false, Scan.push]
    rw [step] at same
    have shorter := Json.unescape_length_lt inRaw spelled
    rw [Scan.result] at same
    split at same
    · exact Json.unescape_ne_nil (List.ne_nil_of_mem inRaw) spelled same.symm
    · have long := (scan_keyVal_grows
        ⟨afterColon.filter (· ≠ space) ++ raw ++ [quote], .inString, quote, 1⟩ rest).length_le
      rw [same] at long
      simp only [List.length_append, List.length_cons, List.length_nil] at long
      omega
  · have step : scanStep ⟨afterColon.filter (· ≠ space) ++ raw, .inString, raw.getLast?.getD quote, 1⟩ quote =
        ⟨afterColon.filter (· ≠ space) ++ raw, .finished, quote, 0⟩ := by
      simp only [scanStep, scanString, closes, ne_eq, not_false_eq_true, and_self, if_true]
    rw [step, result_finished rfl]
    show afterColon.filter (· ≠ space) ++ raw = value ↔ _
    rw [← spaces]
    constructor
    · intro same
      have lengths := congrArg List.length same
      rw [List.length_append] at lengths
      have short := Json.unescape_length_le spelled
      refine ⟨fun inRaw => ?_, List.eq_nil_of_length_eq_zero (by omega)⟩
      have := Json.unescape_length_lt inRaw spelled
      omega
    · rintro ⟨plain, none⟩
      rw [none, List.nil_append, Json.unescape_plain plain spelled]

/-- A member that is written without blanks. -/
theorem scan_compactMember_iff {raw value : Bytes} (spelled : Json.unescape raw = some value) (rest : Bytes) :
    (scan .initial (colon :: (quoted raw ++ rest))).result = value ↔ backslash ∉ raw := by
  have noBlank : ∀ b ∈ ([] : Bytes), IsBlank b := fun b member => absurd member List.not_mem_nil
  simpa using scan_member_iff noBlank noBlank spelled rest

/-! ## Results are cut at ASCII characters -/

/-- The characters that come are kept. -/
def Scan.Collecting (s : Scan) : Prop :=
  s.status = .inObject ∨ s.status = .inString ∨ s.status = .seeking ∧ s.objFlage ≠ 0

/-- In the middle of a character, it is kept from its first byte or not at all. -/
structure WholeCharacters (s : Scan) (read : Utf8.State) : Prop where
  collecting : s.Collecting → follow Utf8.step .start s.keyVal = some read
  skipping : ¬ s.Collecting → Utf8.Valid s.keyVal
  unclosed : s.status = .inObject → s.objFlage ≠ 0

theorem scanStep_keyVal (s : Scan) (c : Byte) :
    (scanStep s c).keyVal = s.keyVal ∨ (scanStep s c).keyVal = s.keyVal ++ [c] := by
  cases status : s.status with
  | seeking =>
    simp only [scanStep, status, scanSeeking, Scan.push]
    split_ifs <;> simp
  | inObject =>
    simp only [scanStep, status, scanObject, Scan.push]
    split_ifs <;> simp
  | inString =>
    simp only [scanStep, status, scanString, Scan.push]
    split_ifs <;> simp
  | finished => exact .inl (by simp only [scanStep, status])

/-- Where braces are counted, some are open. -/
theorem scanStep_open {s : Scan} (c : Byte) (inObject : (scanStep s c).status = .inObject) :
    (scanStep s c).objFlage ≠ 0 := by
  cases status : s.status with
  | seeking =>
    simp only [scanStep, status, scanSeeking, Scan.push] at inObject ⊢
    split_ifs at inObject ⊢ <;> simp_all
  | inObject =>
    simp only [scanStep, status, scanObject, Scan.push] at inObject ⊢
    split_ifs at inObject ⊢ <;> simp_all
  | inString =>
    simp only [scanStep, status, scanString, Scan.push] at inObject
    split_ifs at inObject
  | finished => simp [scanStep, status] at inObject

/-- No byte of a longer character is a mark: it is kept or passed over, and nothing else changes. -/
theorem scanStep_nonAscii {s : Scan} {c : Byte} (notAscii : ¬ Utf8.IsAscii c)
    (opened : s.status = .inObject → s.objFlage ≠ 0) :
    (scanStep s c).status = s.status ∧ (scanStep s c).objFlage = s.objFlage ∧
      (s.Collecting → (scanStep s c).keyVal = s.keyVal ++ [c]) ∧
      (¬ s.Collecting → (scanStep s c).keyVal = s.keyVal) := by
  have unmarked : ∀ mark : Byte, Utf8.IsAscii mark → c ≠ mark := by
    rintro mark isAscii rfl
    exact notAscii isAscii
  have notQuote := unmarked quote (by decide)
  have notOpen := unmarked openBrace (by decide)
  have notClose := unmarked closeBrace (by decide)
  cases status : s.status with
  | seeking =>
    have notColon := unmarked colon (by decide)
    have notComma := unmarked comma (by decide)
    have notSpace := unmarked space (by decide)
    simp only [scanStep, status, scanSeeking, Scan.push, Scan.Collecting, notQuote, notOpen, notColon, notComma,
      notClose, notSpace, if_false, or_self]
    split_ifs <;> simp_all
  | inObject =>
    have flag := opened status
    simp [scanStep, status, scanObject, Scan.push, Scan.Collecting, notOpen, notClose, flag]
  | inString => simp [scanStep, status, scanString, Scan.push, Scan.Collecting, notQuote]
  | finished => simp [scanStep, status, Scan.Collecting]

theorem WholeCharacters.step {s : Scan} {read after : Utf8.State} {c : Byte} (whole : WholeCharacters s read)
    (taken : Utf8.step read c = some after) : WholeCharacters (scanStep s c) after := by
  by_cases isAscii : Utf8.IsAscii c
  · obtain ⟨rfl, rfl⟩ := Utf8.step_ascii isAscii taken
    have valid : Utf8.Valid s.keyVal := by
      by_cases collecting : s.Collecting
      · exact whole.collecting collecting
      · exact whole.skipping collecting
    have validAfter : Utf8.Valid (scanStep s c).keyVal := by
      obtain same | pushed := scanStep_keyVal s c
      · exact same ▸ valid
      · rw [pushed]
        exact valid.append (Utf8.valid_ascii (by simpa using isAscii))
    exact ⟨fun _ => validAfter, fun _ => validAfter, scanStep_open c⟩
  · obtain ⟨status, objFlage, kept, skipped⟩ := scanStep_nonAscii isAscii whole.unclosed
    have same : (scanStep s c).Collecting ↔ s.Collecting := by
      simp only [Scan.Collecting, status, objFlage]
    refine ⟨fun collecting => ?_, fun skipping => ?_, scanStep_open c⟩
    · rw [kept (same.mp collecting), follow_append, whole.collecting (same.mp collecting)]
      simpa using taken
    · rw [skipped (same.not.mp skipping)]
      exact whole.skipping (same.not.mp skipping)

theorem WholeCharacters.scan {s : Scan} {read final : Utf8.State} {text : Bytes} (whole : WholeCharacters s read)
    (run : follow Utf8.step read text = some final) : WholeCharacters (scan s text) final := by
  induction text generalizing s read with
  | nil => cases run; exact whole
  | cons c text ih =>
    rw [follow_cons, Option.bind_eq_some_iff] at run
    obtain ⟨after, taken, rest⟩ := run
    exact ih (whole.step taken) rest

theorem wholeCharacters_initial : WholeCharacters .initial .start :=
  ⟨fun _ => rfl, fun _ => rfl, fun inObject => by cases inObject⟩

/-- What the scanner reads out of a valid text is valid. -/
theorem sampleJsonStrGet_valid {jsonStr : Bytes} (valid : Utf8.Valid jsonStr) (jsonKey : Bytes) :
    Utf8.Valid (sampleJsonStrGet jsonStr jsonKey) := by
  cases found : Search.find (quoted jsonKey) jsonStr with
  | none => rw [sampleJsonStrGet_of_none found]; exact Utf8.valid_nil
  | some position =>
    obtain ⟨before, after, -, here⟩ := Search.find_some found
    have cut : jsonStr = (before ++ quote :: jsonKey) ++ quote :: after := by
      rw [here.occurs]; simp [quoted]
    have afterValid : Utf8.Valid after := (Utf8.Valid.split (by decide) (cut ▸ valid)).2
    rw [sampleJsonStrGet_of_first here, Scan.result]
    split
    · exact Utf8.valid_nil
    · have whole := wholeCharacters_initial.scan afterValid
      by_cases collecting : (scan .initial after).Collecting
      · exact whole.collecting collecting
      · exact whole.skipping collecting

end EdgeFlow.Node
