import EdgeFlow.Library.Decimal
import Mathlib.Data.List.DropRight

/-! The fragment of C formatted input and output that integer URL formats use,
and `std::stoi`.

Formats are C strings: they end at their first NUL. A directive other than
`%i`, `%d` and `%%`, or one with no argument left for it, is undefined.
-/

set_option autoImplicit false

namespace EdgeFlow.Library.Printf
open Byte Decimal

/-- The text a C function sees of a byte string. -/
def cstr (text : Bytes) : Bytes := text.takeWhile (· ≠ 0)

theorem cstr_append {first : Bytes} (noNul : 0 ∉ first) (second : Bytes) :
    cstr (first ++ second) = first ++ cstr second := by
  induction first with
  | nil => rfl
  | cons b first ih =>
    rw [List.mem_cons, not_or] at noNul
    rw [List.cons_append, cstr, List.takeWhile_cons_of_pos (by simpa using Ne.symm noNul.1)]
    exact congrArg (b :: ·) (ih noNul.2)

theorem nul_notMem_cstr (text : Bytes) : 0 ∉ cstr text := by
  intro nul
  have notNul := List.mem_takeWhile_imp nul
  exact absurd rfl (of_decide_eq_true notNul)

theorem cstr_eq_iff {text : Bytes} : cstr text = text ↔ 0 ∉ text := by
  rw [cstr, List.takeWhile_eq_self_iff]
  constructor
  · intro all nul
    exact absurd rfl (of_decide_eq_true (all 0 nul))
  · rintro noNul b member
    exact decide_eq_true fun isNul => noNul (isNul ▸ member)

def isIntDirective (c : Byte) : Bool := c == 105 || c == 100

def sprintf : Bytes → List Int → Option Bytes
  | [], _ => some []
  | c :: rest, args =>
    if c = 0 then some []
    else if c = percent then
      match rest, args with
      | directive :: rest, args =>
        if directive = percent then (sprintf rest args).map (percent :: ·)
        else if isIntDirective directive then
          match args with
          | arg :: args => (sprintf rest args).map (ofInt arg ++ ·)
          | [] => none
        else none
      | [], _ => none
    else (sprintf rest args).map (c :: ·)

/-- An optional sign: whether it is a minus, and what follows it. -/
def sign : Bytes → Bool × Bytes
  | [] => (false, [])
  | c :: rest => if c = minus then (true, rest) else if c = plus then (false, rest) else (false, c :: rest)

def isOctDigit (b : Byte) : Bool := 48 ≤ b && b ≤ 55

def isHexDigit (b : Byte) : Bool := isDigit b || (65 ≤ b && b ≤ 70) || (97 ≤ b && b ≤ 102)

/-- `%i` takes the base from the text: a leading `0x` means sixteen, another leading `0` eight. -/
def radix : Bytes → Nat × (Byte → Bool) × Bytes
  | first :: second :: rest =>
    if first = zero then
      if second = 120 ∨ second = 88 then (16, isHexDigit, rest)
      else (8, isOctDigit, first :: second :: rest)
    else (10, isDigit, first :: second :: rest)
  | rest => (10, isDigit, rest)

def signed (negative : Bool) (magnitude : Nat) : Int := if negative then -magnitude else magnitude

/-- The integer `%i` reads at the front of the input, and the input after it. -/
def scanInteger (input : Bytes) : Option (Int × Bytes) :=
  let (negative, input) := sign (input.dropWhile isSpace)
  let (base, belongs, input) := radix input
  let digits := input.takeWhile belongs
  if digits = [] then none
  else some (signed negative (value base digits), input.dropWhile belongs)

/-- The integers `sscanf` stores, in the order of their directives. -/
def sscanf : Bytes → Bytes → List Int
  | _, [] => []
  | input, c :: format =>
    if c = 0 then []
    else if c = percent then
      match format with
      | directive :: format =>
        if directive = 105 then
          match scanInteger input with
          | some (read, input) => read :: sscanf input format
          | none => []
        else []
      | [] => []
    else if isSpace c then sscanf (input.dropWhile isSpace) format
    else
      match input with
      | head :: input => if head = c then sscanf input format else []
      | [] => []

inductive StoiError where
  | invalidArgument
  | outOfRange
  deriving DecidableEq, Repr

/-- The values of a 32-bit `int`. -/
def IsInt32 (n : Int) : Prop := -2 ^ 31 ≤ n ∧ n < 2 ^ 31

instance (n : Int) : Decidable (IsInt32 n) := inferInstanceAs (Decidable (_ ∧ _))

def stoi (text : Bytes) : Except StoiError Int :=
  let (negative, text) := sign (text.dropWhile isSpace)
  let digits := text.takeWhile isDigit
  if digits = [] then .error .invalidArgument
  else
    let read := signed negative (value 10 digits)
    if IsInt32 read then .ok read else .error .outOfRange

/-- What `%i` cannot mistake for a continuation of the number before it. -/
def EndsNumber (rest : Bytes) : Prop :=
  ∀ c ∈ rest.head?, isDigit c = false ∧ c ≠ 120 ∧ c ≠ 88

instance (rest : Bytes) : Decidable (EndsNumber rest) :=
  inferInstanceAs (Decidable (∀ c ∈ rest.head?, _))

/-- Text that stands for itself in a format. -/
def Plain (text : Bytes) : Prop := ∀ c ∈ text, c ≠ 0 ∧ c ≠ percent ∧ isSpace c = false

instance (text : Bytes) : Decidable (Plain text) := inferInstanceAs (Decidable (∀ c ∈ text, _))

/-- A text in which a format finds neither its end nor a directive. -/
def Literal (text : Bytes) : Prop := ∀ c ∈ text, c ≠ 0 ∧ c ≠ percent

instance (text : Bytes) : Decidable (Literal text) := inferInstanceAs (Decidable (∀ c ∈ text, _))

theorem Plain.literal {text : Bytes} (plain : Plain text) : Literal text := fun c member =>
  ⟨(plain c member).1, (plain c member).2.1⟩

/-- A format with one `%i` in it. -/
structure IntFormat where
  before : Bytes
  after : Bytes
  plainBefore : Plain before
  plainAfter : Plain after
  endsNumber : EndsNumber after

def IntFormat.text (format : IntFormat) : Bytes := format.before ++ ascii "%i" ++ format.after

/-- The format with its directive replaced by the number. -/
def IntFormat.render (format : IntFormat) (n : Int) : Bytes := format.before ++ ofInt n ++ format.after

/-! ## Printing -/

theorem sprintf_literal {c : Byte} (notNul : c ≠ 0) (notPercent : c ≠ percent) (rest : Bytes)
    (args : List Int) : sprintf (c :: rest) args = (sprintf rest args).map (c :: ·) := by
  rw [sprintf.eq_def]
  simp only [if_neg notNul, if_neg notPercent]

theorem sprintf_int (rest : Bytes) (arg : Int) (args : List Int) :
    sprintf (ascii "%i" ++ rest) (arg :: args) = (sprintf rest args).map (ofInt arg ++ ·) := by
  have directive : ascii "%i" = [percent, 105] := rfl
  rw [directive, List.cons_append, sprintf.eq_def]
  simp [isIntDirective, show (105 : Byte) ≠ percent by decide, show percent ≠ 0 by decide]

theorem sprintf_append_of_literal {text : Bytes} (literal : Literal text) (rest : Bytes) (args : List Int) :
    sprintf (text ++ rest) args = (sprintf rest args).map (text ++ ·) := by
  induction text with
  | nil => simp
  | cons c text ih =>
    obtain ⟨notNul, notPercent⟩ := literal c List.mem_cons_self
    have rest := ih fun c member => literal c (List.mem_cons_of_mem _ member)
    rw [List.cons_append, sprintf_literal notNul notPercent, rest, Option.map_map]
    rfl

theorem sprintf_plain {text : Bytes} (plain : Plain text) (rest : Bytes) (args : List Int) :
    sprintf (text ++ rest) args = (sprintf rest args).map (text ++ ·) :=
  sprintf_append_of_literal plain.literal rest args

theorem sprintf_noDirective {suffix : Bytes} (noPercent : percent ∉ suffix) (args : List Int) :
    sprintf suffix args = some (cstr suffix) := by
  induction suffix with
  | nil => rfl
  | cons c suffix ih =>
    simp only [List.mem_cons, not_or] at noPercent
    by_cases nul : c = 0
    · rw [sprintf.eq_def]
      simp [nul, cstr]
    · rw [sprintf_literal nul (Ne.symm noPercent.1), ih noPercent.2]
      simp [nul, cstr]

theorem IntFormat.sprintf_text (format : IntFormat) {suffix : Bytes} (noPercent : percent ∉ suffix)
    (n : Int) : sprintf (format.text ++ suffix) [n] = some (format.render n ++ cstr suffix) := by
  rw [text, List.append_assoc, List.append_assoc, sprintf_plain format.plainBefore, sprintf_int,
    sprintf_plain format.plainAfter, sprintf_noDirective noPercent]
  simp [render]

theorem IntFormat.sprintf_alone (format : IntFormat) (n : Int) :
    sprintf format.text [n] = some (format.render n) := by
  have printed := format.sprintf_text (show percent ∉ ([] : Bytes) by simp) n
  simpa [cstr] using printed

/-- How many bytes the arguments print as. -/
def printedLength (args : List Int) : Nat := (args.map fun arg => (ofInt arg).length).sum

theorem sprintf_length_le : ∀ (format : Bytes) (args : List Int) {text : Bytes},
    sprintf format args = some text → text.length ≤ format.length + printedLength args
  | [], args, text, printed => by
    rw [sprintf.eq_def] at printed
    cases printed
    exact Nat.zero_le _
  | c :: rest, args, text, printed => by
    rw [sprintf.eq_def] at printed
    simp only at printed
    split_ifs at printed with nul isPercent
    · cases printed
      exact Nat.zero_le _
    · cases rest with
      | nil => cases printed
      | cons directive rest =>
        simp only at printed
        split_ifs at printed with doubled isInt
        · obtain ⟨more, read, rfl⟩ := Option.map_eq_some_iff.mp printed
          have := sprintf_length_le rest args read
          simp only [List.length_cons]
          omega
        · cases args with
          | nil => cases printed
          | cons arg args =>
            obtain ⟨more, read, rfl⟩ := Option.map_eq_some_iff.mp printed
            have := sprintf_length_le rest args read
            simp only [printedLength, List.map_cons, List.sum_cons, List.length_cons, List.length_append] at this ⊢
            omega
    · obtain ⟨more, read, rfl⟩ := Option.map_eq_some_iff.mp printed
      have := sprintf_length_le rest args read
      simp only [List.length_cons]
      omega

/-- Two texts printed with formats of one beginning differ in length by what follows it and by the arguments. -/
theorem sprintf_length_le_of_common {suffix suffix' : Bytes}
    (dangling : ∀ args, sprintf (percent :: suffix') args = none) :
    ∀ (format : Bytes) {args args' : List Int} {text text' : Bytes}, args.length = args'.length →
      sprintf (format ++ suffix) args = some text → sprintf (format ++ suffix') args' = some text' →
      text'.length ≤ text.length + suffix'.length + printedLength args'
  | [], args, args', text, text', _, _, printed' => by
    have := sprintf_length_le _ _ printed'
    simp only [List.nil_append] at this
    omega
  | c :: rest, args, args', text, text', same, printed, printed' => by
    rw [List.cons_append, sprintf.eq_def] at printed printed'
    simp only at printed printed'
    split_ifs at printed printed' with nul isPercent
    · cases printed'
      exact Nat.zero_le _
    · cases rest with
      | nil =>
        -- the percent sign is the last of the common part, and the second suffix gives it no directive
        have stuck := dangling args'
        rw [sprintf.eq_def] at stuck
        simp only [if_neg (show percent ≠ 0 by decide), if_true] at stuck
        rw [List.nil_append] at printed'
        rw [stuck] at printed'
        cases printed'
      | cons directive rest =>
        simp only [List.cons_append] at printed printed'
        split_ifs at printed printed' with doubled isInt
        · obtain ⟨more, read, rfl⟩ := Option.map_eq_some_iff.mp printed
          obtain ⟨more', read', rfl⟩ := Option.map_eq_some_iff.mp printed'
          have := sprintf_length_le_of_common dangling rest same read read'
          simp only [List.length_cons]
          omega
        · cases args with
          | nil => cases printed
          | cons arg args =>
            cases args' with
            | nil => cases same
            | cons arg' args' =>
              obtain ⟨more, read, rfl⟩ := Option.map_eq_some_iff.mp printed
              obtain ⟨more', read', rfl⟩ := Option.map_eq_some_iff.mp printed'
              have := sprintf_length_le_of_common dangling rest (Nat.succ.inj same) read read'
              simp only [printedLength, List.map_cons, List.sum_cons, List.length_append] at this ⊢
              omega
    · obtain ⟨more, read, rfl⟩ := Option.map_eq_some_iff.mp printed
      obtain ⟨more', read', rfl⟩ := Option.map_eq_some_iff.mp printed'
      have := sprintf_length_le_of_common dangling rest same read read'
      simp only [List.length_cons]
      omega

/-! ## Reading back -/

theorem dropWhile_isSpace_digits {digits : Bytes} (nonempty : digits ≠ [])
    (areDigits : ∀ b ∈ digits, isDigit b = true) (rest : Bytes) :
    (digits ++ rest).dropWhile isSpace = digits ++ rest ∧
      sign (digits ++ rest) = (false, digits ++ rest) := by
  cases digits with
  | nil => exact absurd rfl nonempty
  | cons head tail =>
    have headDigit := areDigits head List.mem_cons_self
    have notSpace : isSpace head = false := by simp only [isDigit, isSpace] at *; grind
    have notMinus : head ≠ minus := by rintro rfl; exact absurd headDigit (by decide)
    have notPlus : head ≠ plus := by rintro rfl; exact absurd headDigit (by decide)
    simp [notSpace, sign, notMinus, notPlus]

/-- The sign and the digits a printed number is read back from. -/
theorem sign_ofInt (n : Int) (rest : Bytes) :
    sign ((ofInt n ++ rest).dropWhile isSpace) = (decide (n < 0), ofNat n.natAbs ++ rest) := by
  cases n with
  | ofNat n =>
    obtain ⟨kept, noSign⟩ := dropWhile_isSpace_digits (ofNat_ne_nil n) (ofNat_isDigit n) rest
    simp only [ofInt, kept, noSign]
    simp
  | negSucc n =>
    have notSpace : isSpace minus = false := by decide
    simp [ofInt, notSpace, sign, Int.negSucc_lt_zero]

theorem signed_natAbs (n : Int) : signed (decide (n < 0)) n.natAbs = n := by
  unfold signed
  split
  · next negative => have := of_decide_eq_true negative; omega
  · next positive => simp only [decide_eq_true_eq] at positive; omega

theorem takeWhile_ofNat (n : Nat) (rest : Bytes) {belongs : Byte → Bool}
    (digits : ∀ b ∈ ofNat n, belongs b = true) (stops : ∀ c ∈ rest.head?, belongs c = false) :
    (ofNat n ++ rest).takeWhile belongs = ofNat n ∧ (ofNat n ++ rest).dropWhile belongs = rest := by
  rw [List.takeWhile_append_of_pos digits, List.dropWhile_append_of_pos digits]
  cases rest with
  | nil => simp
  | cons c rest =>
    have stop := stops c (by simp)
    simp [stop]

theorem radix_of_head {head : Byte} (rest : Bytes) (nonzero : head ≠ zero) :
    radix (head :: rest) = (10, isDigit, head :: rest) := by
  cases rest with
  | nil => rfl
  | cons second rest => rw [radix, if_neg nonzero]

theorem scanInteger_ofInt (n : Int) {rest : Bytes} (ends : EndsNumber rest) :
    scanInteger (ofInt n ++ rest) = some (n, rest) := by
  simp only [scanInteger, sign_ofInt]
  by_cases nought : n.natAbs = 0
  · have : n = 0 := by omega
    subst this
    cases rest with
    | nil => rfl
    | cons c rest =>
      obtain ⟨notDigit, notLower, notUpper⟩ := ends c (by simp)
      have notOct : isOctDigit c = false := by simp only [isDigit, isOctDigit] at *; grind
      have zeroOct : isOctDigit zero = true := by decide
      have nothing : value 8 [zero] = 0 := by decide
      simp [ofNat, radix, notLower, notUpper, notOct, zeroOct, signed, nothing]
  · obtain ⟨head, tail, shape, notZero⟩ := ofNat_head nought
    obtain ⟨taken, dropped⟩ := takeWhile_ofNat n.natAbs rest
      (ofNat_isDigit _) fun c member => (ends c member).1
    have decimal : radix (ofNat n.natAbs ++ rest) = (10, isDigit, ofNat n.natAbs ++ rest) := by
      rw [shape]; exact radix_of_head _ notZero
    simp only [decimal, taken, dropped, if_neg (ofNat_ne_nil _), value_ofNat, signed_natAbs]

theorem sscanf_literal {c : Byte} (notNul : c ≠ 0) (notPercent : c ≠ percent) (notSpace : isSpace c = false)
    (input format : Bytes) : sscanf (c :: input) (c :: format) = sscanf input format := by
  rw [sscanf.eq_def]
  simp [notNul, notPercent, notSpace]

theorem sscanf_int (n : Int) {rest : Bytes} (ends : EndsNumber rest) (format : Bytes) :
    sscanf (ofInt n ++ rest) (ascii "%i" ++ format) = n :: sscanf rest format := by
  have directive : ascii "%i" = [percent, 105] := rfl
  rw [directive, List.cons_append, sscanf.eq_def]
  simp [scanInteger_ofInt n ends, show percent ≠ 0 by decide]

theorem sscanf_plain {text : Bytes} (plain : Plain text) (input format : Bytes) :
    sscanf (text ++ input) (text ++ format) = sscanf input format := by
  induction text with
  | nil => rfl
  | cons c text ih =>
    simp only [Plain, List.mem_cons, forall_eq_or_imp] at plain
    rw [List.cons_append, List.cons_append, sscanf_literal plain.1.1 plain.1.2.1 plain.1.2.2, ih plain.2]

/-- `sscanf` reads back from a rendered format the number that was put there. -/
theorem IntFormat.sscanf_render (format : IntFormat) (n : Int) {suffix : Bytes}
    (ends : EndsNumber (format.after ++ suffix)) :
    sscanf (format.render n ++ suffix) format.text = [n] := by
  have literal : sscanf (format.after ++ suffix) format.after = [] := by
    have := sscanf_plain format.plainAfter suffix []
    rw [List.append_nil] at this
    rw [this]
    rw [sscanf.eq_def]
  rw [render, text]
  simp only [List.append_assoc]
  rw [sscanf_plain format.plainBefore, sscanf_int n ends, literal]

theorem IntFormat.render_injective (format : IntFormat) : Function.Injective format.render := by
  intro m n same
  simp only [render, List.append_assoc, List.append_cancel_left_eq, List.append_cancel_right_eq] at same
  exact ofInt_injective same

/-- Spaces before a number are passed over, and what comes behind its digits is not read. -/
theorem stoi_between {before after : Bytes} (spaces : ∀ b ∈ before, isSpace b = true)
    (ends : ∀ b ∈ after.head?, isDigit b = false) (n : Int) :
    stoi (before ++ (ofInt n ++ after)) = if IsInt32 n then .ok n else .error .outOfRange := by
  have passed : (before ++ (ofInt n ++ after)).dropWhile isSpace = (ofInt n ++ after).dropWhile isSpace :=
    List.dropWhile_append_of_pos spaces
  have digits := (takeWhile_ofNat n.natAbs after (ofNat_isDigit _) ends).1
  simp only [stoi, passed, sign_ofInt n after, digits, if_neg (ofNat_ne_nil _), value_ofNat, signed_natAbs]

theorem stoi_ofInt {n : Int} (fits : IsInt32 n) : stoi (ofInt n) = .ok n := by
  have read : stoi ([] ++ (ofInt n ++ [])) = _ := stoi_between (List.forall_mem_nil _) (by simp) n
  rwa [List.nil_append, List.append_nil, if_pos fits] at read

theorem stoi_isInt32 {text : Bytes} {n : Int} (read : stoi text = .ok n) : IsInt32 n := by
  simp only [stoi] at read
  split at read
  · cases read
  · split at read
    · next fits =>
      cases read
      exact fits
    · cases read

/-! ## Texts without a directive -/

theorem Literal.append {first second : Bytes} (literal : Literal first) (literal' : Literal second) :
    Literal (first ++ second) := by
  intro c member
  rcases List.mem_append.mp member with member | member
  · exact literal c member
  · exact literal' c member

/-- Without arguments a format prints itself exactly when nothing in it is a directive or its end. -/
theorem sprintf_self_iff {text : Bytes} : sprintf text [] = some text ↔ Literal text := by
  constructor
  · intro printed c member
    induction text with
    | nil => cases member
    | cons head rest ih =>
      rw [sprintf.eq_def] at printed
      simp only at printed
      split_ifs at printed with nul isPercent
      · cases printed
      · cases rest with
        | nil => cases printed
        | cons directive rest =>
          simp only at printed
          split_ifs at printed with doubled isInt
          -- `%%` prints one byte less than it has
          obtain ⟨more, read, same⟩ := Option.map_eq_some_iff.mp printed
          have short := sprintf_length_le rest [] read
          have length := congrArg List.length same
          simp only [List.length_cons, printedLength, List.map_nil, List.sum_nil] at short length
          omega
      · obtain ⟨more, read, same⟩ := Option.map_eq_some_iff.mp printed
        obtain rfl : more = rest := (List.cons.inj same).2
        rcases List.mem_cons.mp member with rfl | member
        · exact ⟨nul, isPercent⟩
        · exact ih read member
  · intro literal
    have printed := sprintf_append_of_literal literal [] []
    rw [List.append_nil] at printed
    rw [printed, sprintf.eq_def]
    simp

/-- Blanks of a format read as many blanks of the input as there are, and the text before a number has them all. -/
theorem sscanf_append_of_literal {text input : Bytes} (literal : Literal text)
    (begins : input.dropWhile isSpace = input) (format : Bytes) :
    sscanf (text ++ input) (text ++ format) = sscanf input format ∧
      sscanf ((text ++ input).dropWhile isSpace) (text ++ format) = sscanf input format := by
  induction text with
  | nil => exact ⟨rfl, by rw [List.nil_append, List.nil_append, begins]⟩
  | cons c text ih =>
    obtain ⟨notNul, notPercent⟩ := literal c List.mem_cons_self
    obtain ⟨kept, skipped⟩ := ih fun c member => literal c (List.mem_cons_of_mem _ member)
    rw [List.cons_append, List.cons_append]
    by_cases blank : isSpace c = true
    · have reads (input : Bytes) : sscanf input (c :: (text ++ format)) =
          sscanf (input.dropWhile isSpace) (text ++ format) := by
        rw [sscanf.eq_def]
        simp [notNul, notPercent, blank]
      rw [reads, reads, List.dropWhile_cons_of_pos blank, List.dropWhile_idempotent]
      exact ⟨skipped, skipped⟩
    · rw [List.dropWhile_cons_of_neg blank, sscanf_literal notNul notPercent (by simpa using blank)]
      exact ⟨kept, kept⟩

theorem sscanf_int_head (input format : Bytes) :
    (sscanf input (ascii "%i" ++ format)).head? = (scanInteger input).map Prod.fst := by
  have directive : ascii "%i" = [percent, 105] := rfl
  rw [directive, List.cons_append, sscanf.eq_def]
  simp only [show percent ≠ 0 by decide, if_false, if_true, List.cons_append, List.nil_append]
  cases scanInteger input with
  | none => rfl
  | some read => rfl

theorem dropWhile_isSpace_ofInt (n : Int) (rest : Bytes) : (ofInt n ++ rest).dropWhile isSpace = ofInt n ++ rest := by
  cases n with
  | ofNat n => exact (dropWhile_isSpace_digits (ofNat_ne_nil n) (ofNat_isDigit n) rest).1
  | negSucc n => rfl

end EdgeFlow.Library.Printf
