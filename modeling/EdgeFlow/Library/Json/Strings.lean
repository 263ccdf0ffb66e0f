import EdgeFlow.Library.Utf8

/-! JSON string literals: the escapes `json.dumps` writes and a reader of any
literal, as an automaton over the bytes between the quotes.
-/

set_option autoImplicit false

namespace EdgeFlow.Library.Json
open Byte

/-- A string value: the UTF-8 of its characters. -/
structure Text where
  bytes : Bytes
  valid : Utf8.Valid bytes
  deriving DecidableEq

def Text.ofAscii (text : String) (isAscii : ∀ b ∈ ascii text, Utf8.IsAscii b := by decide +kernel) : Text :=
  ⟨ascii text, Utf8.valid_ascii isAscii⟩

def hexDigit (n : Nat) : Byte := if n < 10 then UInt8.ofNat (48 + n) else UInt8.ofNat (87 + n)

/-- The spelling `json.dumps` gives one byte when it leaves non-ASCII text as it is. -/
def escapeByte (b : Byte) : Bytes :=
  if b = quote then ascii "\\\""
  else if b = backslash then ascii "\\\\"
  else if b = 8 then ascii "\\b"
  else if b = 9 then ascii "\\t"
  else if b = 10 then ascii "\\n"
  else if b = 12 then ascii "\\f"
  else if b = 13 then ascii "\\r"
  else if b < 0x20 then ascii "\\u00" ++ [hexDigit (b.toNat / 16), hexDigit (b.toNat % 16)]
  else [b]

def escape (text : Bytes) : Bytes := text.flatMap escapeByte

/-- How far an escape has been read; `high` is a surrogate waiting for its pair. -/
inductive StringState where
  | plain
  | escaped (high : Option Nat)
  | hex (high : Option Nat) (digits code : Nat)
  | paired (high : Nat)
  deriving DecidableEq, Repr

def hexValue (b : Byte) : Option Nat :=
  if 48 ≤ b ∧ b ≤ 57 then some (b.toNat - 48)
  else if 65 ≤ b ∧ b ≤ 70 then some (b.toNat - 55)
  else if 97 ≤ b ∧ b ≤ 102 then some (b.toNat - 87)
  else none

/-- The UTF-8 of a code point. -/
def encode (code : Nat) : Bytes :=
  if code < 0x80 then [UInt8.ofNat code]
  else if code < 0x800 then [UInt8.ofNat (0xC0 + code / 64), UInt8.ofNat (0x80 + code % 64)]
  else if code < 0x10000 then
    [UInt8.ofNat (0xE0 + code / 4096), UInt8.ofNat (0x80 + code / 64 % 64), UInt8.ofNat (0x80 + code % 64)]
  else
    [UInt8.ofNat (0xF0 + code / 262144), UInt8.ofNat (0x80 + code / 4096 % 64),
      UInt8.ofNat (0x80 + code / 64 % 64), UInt8.ofNat (0x80 + code % 64)]

/-- The character a `\u` escape stands for, once its four digits are read. -/
def unicode (high : Option Nat) (code : Nat) : Option (StringState × Bytes) :=
  match high with
  | none =>
    if 0xD800 ≤ code ∧ code < 0xDC00 then some (.paired code, [])
    else if 0xDC00 ≤ code ∧ code < 0xE000 then none
    else some (.plain, encode code)
  | some high =>
    if 0xDC00 ≤ code ∧ code < 0xE000 then
      some (.plain, encode (0x10000 + (high - 0xD800) * 1024 + (code - 0xDC00)))
    else none

/-- The character a one-letter escape stands for. -/
def shorthand (b : Byte) : Option Byte :=
  if b = quote ∨ b = backslash ∨ b = 47 then some b
  else if b = 98 then some 8
  else if b = 116 then some 9
  else if b = 110 then some 10
  else if b = 102 then some 12
  else if b = 114 then some 13
  else none

/-- One byte inside a literal: the state after it and the text it completes. -/
def stringStep (state : StringState) (b : Byte) : Option (StringState × Bytes) :=
  match state with
  | .plain =>
    if b = quote ∨ b < 0x20 then none
    else if b = backslash then some (.escaped none, [])
    else some (.plain, [b])
  | .escaped high =>
    if b = 117 then some (.hex high 0 0, [])
    else
      match high with
      | none => (shorthand b).map fun meant => (.plain, [meant])
      | some _ => none
  | .hex high digits code => do
    let digit ← hexValue b
    if digits < 3 then some (.hex high (digits + 1) (code * 16 + digit), [])
    else unicode high (code * 16 + digit)
  | .paired high => if b = backslash then some (.escaped (some high), []) else none

/-- Read a literal up to its closing quote: the text it stands for, and what follows the quote. -/
def readString : StringState → Bytes → Option (Bytes × Bytes)
  | _, [] => none
  | state, b :: rest =>
    if state = .plain ∧ b = quote then some ([], rest)
    else do
      let (state, out) ← stringStep state b
      let (text, rest) ← readString state rest
      some (out ++ text, rest)

/-- Read a whole stretch of a literal: the state after it and the text it completes. -/
def stringRun : StringState → Bytes → Option (StringState × Bytes)
  | state, [] => some (state, [])
  | state, b :: rest => do
    let (state, out) ← stringStep state b
    let (state, text) ← stringRun state rest
    some (state, out ++ text)

/-- The text that the bytes between two quotes stand for. -/
def unescape (raw : Bytes) : Option Bytes :=
  match stringRun .plain raw with
  | some (.plain, text) => some text
  | _ => none

theorem unescape_eq_some {raw text : Bytes} :
    unescape raw = some text ↔ stringRun .plain raw = some (.plain, text) := by
  unfold unescape
  constructor
  · intro read
    split at read
    · next run => cases read; exact run
    · cases read
  · intro run
    rw [run]

/-! ## Runs over parts of a literal -/

theorem stringRun_cons {state final : StringState} {b : Byte} {rest text : Bytes} :
    stringRun state (b :: rest) = some (final, text) ↔ ∃ middle out more,
      stringStep state b = some (middle, out) ∧ stringRun middle rest = some (final, more) ∧
        text = out ++ more := by
  simp only [stringRun, Option.bind_eq_bind, Option.bind_eq_some_iff, Prod.exists, Option.some.injEq,
    Prod.mk.injEq]
  constructor
  · rintro ⟨middle, out, taken, after, more, run, rfl, rfl⟩
    exact ⟨middle, out, more, taken, run, rfl⟩
  · rintro ⟨middle, out, more, taken, run, rfl⟩
    exact ⟨middle, out, taken, final, more, run, rfl, rfl⟩

theorem stringRun_append {state final : StringState} {first second text : Bytes} :
    stringRun state (first ++ second) = some (final, text) ↔ ∃ middle out more,
      stringRun state first = some (middle, out) ∧ stringRun middle second = some (final, more) ∧
        text = out ++ more := by
  induction first generalizing state text with
  | nil => simp [stringRun, eq_comm]
  | cons b first ih =>
    simp only [List.cons_append, stringRun_cons, ih]
    constructor
    · rintro ⟨middle, out, _, taken, ⟨after, more, last, run, rest, rfl⟩, rfl⟩
      exact ⟨after, out ++ more, last, ⟨middle, out, more, taken, run, rfl⟩, rest, by simp⟩
    · rintro ⟨after, _, last, ⟨middle, out, more, taken, run, rfl⟩, rest, rfl⟩
      exact ⟨middle, out, more ++ last, taken, ⟨after, more, last, run, rest, rfl⟩, by simp⟩

theorem stringStep_plain_quote : stringStep .plain quote = none := rfl

/-- A stretch that runs through is read without finding the closing quote. -/
theorem readString_of_run {state middle : StringState} {raw text : Bytes}
    (run : stringRun state raw = some (middle, text)) (rest : Bytes) :
    readString state (raw ++ rest) =
      (readString middle rest).map fun read => (text ++ read.1, read.2) := by
  induction raw generalizing state text with
  | nil =>
    cases run
    simp
  | cons b raw ih =>
    obtain ⟨after, out, more, taken, runRest, rfl⟩ := stringRun_cons.mp run
    have inside : ¬ (state = .plain ∧ b = quote) := by
      rintro ⟨rfl, rfl⟩
      rw [stringStep_plain_quote] at taken
      cases taken
    rw [List.cons_append, readString, if_neg inside, taken]
    simp only [Option.bind_eq_bind, Option.bind_some, ih runRest, List.append_assoc]
    cases readString middle rest <;> rfl

theorem readString_of_unescape {raw text : Bytes} (read : unescape raw = some text) (rest : Bytes) :
    readString .plain (raw ++ quote :: rest) = some (text, rest) := by
  rw [readString_of_run (unescape_eq_some.mp read)]
  simp [readString]

theorem readString_shape {state : StringState} {input text rest : Bytes}
    (read : readString state input = some (text, rest)) :
    ∃ raw, input = raw ++ quote :: rest ∧ stringRun state raw = some (.plain, text) := by
  induction input generalizing state text with
  | nil => cases read
  | cons b input ih =>
    rw [readString] at read
    split at read
    · next closing =>
      cases read
      exact ⟨[], by rw [closing.2]; rfl, by rw [closing.1]; rfl⟩
    · next inside =>
      simp only [Option.bind_eq_bind, Option.bind_eq_some_iff, Prod.exists, Option.some.injEq,
        Prod.mk.injEq] at read
      obtain ⟨middle, out, taken, more, _, readRest, rfl, rfl⟩ := read
      obtain ⟨raw, rfl, run⟩ := ih readRest
      exact ⟨b :: raw, rfl, stringRun_cons.mpr ⟨middle, out, more, taken, run, rfl⟩⟩

/-! ## What an escape costs -/

/-- The bytes of an unfinished escape, but one: it stands for fewer bytes than it has. -/
def StringState.owed : StringState → Nat
  | .plain | .escaped none => 0
  | .hex none digits _ => digits + 1
  | .paired _ => 5
  | .escaped (some _) => 6
  | .hex (some _) digits _ => digits + 7

theorem encode_length (code : Nat) : 0 < (encode code).length ∧ (encode code).length ≤ 4 := by
  unfold encode
  split_ifs <;> simp

theorem unicode_length {high : Option Nat} {code : Nat} {after : StringState} {out : Bytes}
    (read : unicode high code = some (after, out)) :
    out.length + after.owed ≤ 5 ∧ (after = .plain → out ≠ []) := by
  have atLeastOne := encode_length
  cases high with
  | none =>
    simp only [unicode] at read
    split_ifs at read <;> cases read
    · exact ⟨Nat.le_refl _, fun plain => by cases plain⟩
    · have := atLeastOne code
      refine ⟨?_, fun _ empty => ?_⟩
      · simp only [StringState.owed]; omega
      · simp [empty] at this
  | some high =>
    simp only [unicode] at read
    split_ifs at read
    cases read
    have := atLeastOne (0x10000 + (high - 0xD800) * 1024 + (code - 0xDC00))
    refine ⟨?_, fun _ empty => ?_⟩
    · simp only [StringState.owed]; omega
    · simp [empty] at this

theorem stringStep_length {state after : StringState} {b : Byte} {out : Bytes}
    (taken : stringStep state b = some (after, out)) :
    out.length + after.owed ≤ 1 + state.owed ∧ (after = .plain → out ≠ []) := by
  cases state with
  | plain =>
    simp only [stringStep] at taken
    split_ifs at taken
    all_goals
      cases taken
      simp [StringState.owed]
  | escaped high =>
    simp only [stringStep] at taken
    split_ifs at taken
    · cases taken
      cases high <;> simp [StringState.owed]
    · cases high with
      | none =>
        obtain ⟨meant, -, same⟩ := Option.map_eq_some_iff.mp taken
        cases same
        simp [StringState.owed]
      | some high => cases taken
  | hex high digits code =>
    simp only [stringStep, Option.bind_eq_bind, Option.bind_eq_some_iff] at taken
    obtain ⟨digit, -, taken⟩ := taken
    split_ifs at taken with few
    · cases taken
      cases high <;> (simp only [StringState.owed, List.length_nil]; exact ⟨by omega, fun plain => by cases plain⟩)
    · obtain ⟨short, nonempty⟩ := unicode_length taken
      have owed : 4 ≤ (StringState.hex high digits code).owed := by
        cases high <;> (simp only [StringState.owed]; omega)
      exact ⟨by omega, nonempty⟩
  | paired high =>
    simp only [stringStep] at taken
    split_ifs at taken
    cases taken
    simp [StringState.owed]

theorem stringRun_length {state final : StringState} {raw text : Bytes}
    (run : stringRun state raw = some (final, text)) : text.length + final.owed ≤ raw.length + state.owed := by
  induction raw generalizing state text with
  | nil =>
    cases run
    simp
  | cons b raw ih =>
    obtain ⟨middle, out, more, taken, rest, rfl⟩ := stringRun_cons.mp run
    have first := (stringStep_length taken).1
    have later := ih rest
    simp only [List.length_append, List.length_cons]
    omega

/-- Where no escape begins, a literal is spelled as it is read. -/
theorem stringRun_plain {raw text : Bytes} {final : StringState} (plain : backslash ∉ raw)
    (run : stringRun .plain raw = some (final, text)) : final = .plain ∧ text = raw := by
  induction raw generalizing text with
  | nil =>
    cases run
    exact ⟨rfl, rfl⟩
  | cons b raw ih =>
    obtain ⟨notHere, notLater⟩ := not_or.mp (List.mem_cons.not.mp plain)
    obtain ⟨middle, out, more, taken, rest, rfl⟩ := stringRun_cons.mp run
    simp only [stringStep, if_neg (Ne.symm notHere)] at taken
    split_ifs at taken
    cases taken
    obtain ⟨rfl, rfl⟩ := ih notLater rest
    exact ⟨rfl, rfl⟩

theorem unescape_plain {raw text : Bytes} (plain : backslash ∉ raw) (read : unescape raw = some text) : text = raw :=
  (stringRun_plain plain (unescape_eq_some.mp read)).2

/-- With an escape in it, a literal is longer than its text. -/
theorem unescape_length_lt {raw text : Bytes} (escaped : backslash ∈ raw) (read : unescape raw = some text) :
    text.length < raw.length := by
  obtain ⟨before, after, rfl, plain⟩ := List.eq_append_cons_of_mem escaped
  obtain ⟨middle, out, more, first, rest, rfl⟩ := stringRun_append.mp (unescape_eq_some.mp read)
  obtain ⟨rfl, rfl⟩ := stringRun_plain plain first
  obtain ⟨opened, noText, later, taken, run, rfl⟩ := stringRun_cons.mp rest
  have escape : opened = .escaped none ∧ noText = [] := by
    have : stringStep .plain backslash = some (.escaped none, []) := rfl
    rw [this] at taken
    cases taken
    exact ⟨rfl, rfl⟩
  have short := stringRun_length run
  rw [escape.1] at short
  simp only [StringState.owed] at short
  simp only [escape.2, List.length_append, List.length_cons, List.length_nil]
  omega

theorem unescape_length_le {raw text : Bytes} (read : unescape raw = some text) : text.length ≤ raw.length := by
  have := stringRun_length (unescape_eq_some.mp read)
  simpa [StringState.owed] using this

/-- Only nothing stands for nothing. -/
theorem unescape_ne_nil {raw text : Bytes} (nonempty : raw ≠ []) (read : unescape raw = some text) : text ≠ [] := by
  have general : ∀ (raw : Bytes) (state : StringState) (text : Bytes), raw ≠ [] →
      stringRun state raw = some (.plain, text) → text ≠ [] := by
    intro raw
    induction raw with
    | nil => exact fun state text nonempty => absurd rfl nonempty
    | cons b raw ih =>
      intro state text _ run
      obtain ⟨middle, out, more, taken, rest, rfl⟩ := stringRun_cons.mp run
      cases raw with
      | nil =>
        cases rest
        simpa using (stringStep_length taken).2 rfl
      | cons c raw =>
        have := ih middle more (List.cons_ne_nil _ _) rest
        simp [this]
  exact general raw .plain text nonempty (unescape_eq_some.mp read)

/-! ## Escapes -/

theorem stringRun_escapeByte (b : Byte) : stringRun .plain (escapeByte b) = some (.plain, [b]) := by
  have control : ∀ n : Fin 32, stringRun .plain (escapeByte (UInt8.ofNat n)) =
      some (.plain, [UInt8.ofNat n]) := by decide
  by_cases isControl : b < 0x20
  · have := control ⟨b.toNat, isControl⟩
    simpa using this
  · by_cases isQuote : b = quote
    · subst isQuote; rfl
    · by_cases isBackslash : b = backslash
      · subst isBackslash; rfl
      · have unchanged : escapeByte b = [b] := by
          simp only [escapeByte]
          grind
        rw [unchanged]
        simp [stringRun, stringStep, isControl, isQuote, isBackslash]

theorem stringRun_escape (text : Bytes) : stringRun .plain (escape text) = some (.plain, text) := by
  induction text with
  | nil => rfl
  | cons b text ih =>
    exact stringRun_append.mpr ⟨.plain, [b], text, stringRun_escapeByte b, ih, rfl⟩

/-- What `json.dumps` writes between the quotes is read back as it was. -/
theorem unescape_escape (text : Bytes) : unescape (escape text) = some text :=
  unescape_eq_some.mpr (stringRun_escape text)

theorem escapeByte_of_not_ascii {b : Byte} (notAscii : ¬ Utf8.IsAscii b) : escapeByte b = [b] := by
  simp only [escapeByte]
  grind

/-- Text in which no character is written as an escape. -/
def Verbatim (text : Bytes) : Prop := ∀ b ∈ text, b ≠ quote ∧ b ≠ backslash ∧ 0x20 ≤ b

instance (text : Bytes) : Decidable (Verbatim text) := inferInstanceAs (Decidable (∀ b ∈ text, _))

theorem escapeByte_verbatim {b : Byte} (verbatim : b ≠ quote ∧ b ≠ backslash ∧ 0x20 ≤ b) : escapeByte b = [b] := by
  obtain ⟨notQuote, notBackslash, printable⟩ := verbatim
  simp only [escapeByte]
  grind

/-- The characters that are not written as they are. -/
theorem mem_of_escaped {b : Byte} (escaped : ¬ (b ≠ quote ∧ b ≠ backslash ∧ 0x20 ≤ b)) :
    b ∈ quote :: backslash :: (List.range 32).map UInt8.ofNat := by
  by_cases isQuote : b = quote
  · exact isQuote ▸ List.mem_cons_self
  · by_cases isBackslash : b = backslash
    · exact isBackslash ▸ List.mem_cons_of_mem _ List.mem_cons_self
    · have control : b < 0x20 := UInt8.not_le.mp fun printable => escaped ⟨isQuote, isBackslash, printable⟩
      have inRange : b.toNat ∈ List.range 32 := List.mem_range.mpr control
      refine List.mem_cons_of_mem _ (List.mem_cons_of_mem _ ?_)
      simpa using List.mem_map_of_mem (f := UInt8.ofNat) inRange

theorem backslash_mem_escapeByte {b : Byte} (escaped : ¬ (b ≠ quote ∧ b ≠ backslash ∧ 0x20 ≤ b)) :
    backslash ∈ escapeByte b := by
  have all : ∀ c ∈ quote :: backslash :: (List.range 32).map UInt8.ofNat, backslash ∈ escapeByte c := by decide +kernel
  exact all b (mem_of_escaped escaped)

theorem escape_verbatim {text : Bytes} (verbatim : Verbatim text) : escape text = text := by
  induction text with
  | nil => rfl
  | cons b text ih =>
    rw [escape, List.flatMap_cons, escapeByte_verbatim (verbatim b List.mem_cons_self)]
    exact congrArg (b :: ·) (ih fun c member => verbatim c (List.mem_cons_of_mem b member))

theorem backslash_notMem_escape_iff {text : Bytes} : backslash ∉ escape text ↔ Verbatim text := by
  constructor
  · intro plain b member
    by_contra escaped
    exact plain (List.mem_flatMap.mpr ⟨b, member, backslash_mem_escapeByte escaped⟩)
  · intro verbatim member
    rw [escape_verbatim verbatim] at member
    exact (verbatim backslash member).2.1 rfl

/-- Escapes take the place of ASCII characters only, and are written in printable ones. -/
theorem escapeByte_ascii {b : Byte} (isAscii : Utf8.IsAscii b) : ∀ c ∈ escapeByte b, 0x20 ≤ c ∧ Utf8.IsAscii c := by
  have all : ∀ n : Fin 128, ∀ c ∈ escapeByte (UInt8.ofNat n), 0x20 ≤ c ∧ Utf8.IsAscii c := by decide +kernel
  have := all ⟨b.toNat, isAscii⟩
  simpa using this

theorem escapeByte_printable (b : Byte) : ∀ c ∈ escapeByte b, 0x20 ≤ c := by
  intro c member
  by_cases isAscii : Utf8.IsAscii b
  · exact (escapeByte_ascii isAscii c member).1
  · rw [escapeByte_of_not_ascii isAscii, List.mem_singleton] at member
    subst member
    unfold Utf8.IsAscii at isAscii
    grind

theorem quote_notMem_escape {text : Bytes} (noQuote : quote ∉ text) : quote ∉ escape text := by
  intro member
  obtain ⟨b, inText, member⟩ := List.mem_flatMap.mp member
  by_cases verbatim : b ≠ quote ∧ b ≠ backslash ∧ 0x20 ≤ b
  · rw [escapeByte_verbatim verbatim, List.mem_singleton] at member
    exact verbatim.1 member.symm
  · have others : ∀ c ∈ quote :: backslash :: (List.range 32).map UInt8.ofNat, c ≠ quote → quote ∉ escapeByte c := by
      decide +kernel
    exact others b (mem_of_escaped verbatim) (fun isQuote => noQuote (isQuote ▸ inText)) member

theorem escape_append (first second : Bytes) : escape (first ++ second) = escape first ++ escape second :=
  List.flatMap_append

theorem escapeByte_ne_nil (b : Byte) : escapeByte b ≠ [] := by
  intro none
  have run := stringRun_escapeByte b
  rw [none] at run
  cases run

/-- An automaton that takes each escape for the character it stands for takes escaped text for the text. -/
theorem follow_escape {State : Type} {step : State → Byte → Option State}
    (bytewise : ∀ state b, follow step state (escapeByte b) = step state b) (state : State) (text : Bytes) :
    follow step state (escape text) = follow step state text := by
  induction text generalizing state with
  | nil => rfl
  | cons b text ih =>
    rw [escape, List.flatMap_cons, follow_append, bytewise, follow_cons]
    exact congrArg _ (funext ih)

theorem escape_valid_iff {text : Bytes} : Utf8.Valid (escape text) ↔ Utf8.Valid text := by
  have bytewise (state : Utf8.State) (b : Byte) : follow Utf8.step state (escapeByte b) = Utf8.step state b := by
    by_cases isAscii : Utf8.IsAscii b
    · have single : follow Utf8.step state [b] = Utf8.step state b := follow_singleton state b
      rw [← single, Utf8.follow_ascii (fun c member => (escapeByte_ascii isAscii c member).2) (escapeByte_ne_nil b),
        Utf8.follow_ascii (by simpa using isAscii) (List.cons_ne_nil _ _)]
    · rw [escapeByte_of_not_ascii isAscii, follow_singleton]
  rw [Utf8.Valid, follow_escape bytewise, Utf8.Valid]

theorem escape_valid {text : Bytes} (valid : Utf8.Valid text) : Utf8.Valid (escape text) := escape_valid_iff.mpr valid

end EdgeFlow.Library.Json
