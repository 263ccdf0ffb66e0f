import EdgeFlow.Library.Decimal
import EdgeFlow.Library.Json.Strings
import Mathlib.Data.List.TakeWhile

/-! JSON values and the text `json.dumps` writes for them.

A number is its spelling: two numbers are the same value here only when they are
written the same way. An object is its members in order.
-/

set_option autoImplicit false

namespace EdgeFlow.Library
open Byte

namespace Json

/-- The characters a number is written with. -/
def isNumberChar (b : Byte) : Bool :=
  isDigit b || b == minus || b == plus || b == dot || b == 101 || b == 69

/-- What follows a nonempty run of digits. -/
def digits (input : Bytes) : Option Bytes :=
  if (input.takeWhile isDigit).isEmpty then none else some (input.dropWhile isDigit)

def integerPart (input : Bytes) : Option Bytes :=
  match input with
  | first :: rest => if first = zero then some rest else digits input
  | [] => none

def fractionPart (input : Bytes) : Option Bytes :=
  match input with
  | first :: rest => if first = dot then digits rest else some input
  | [] => some []

def exponentPart (input : Bytes) : Option Bytes :=
  match input with
  | first :: rest =>
    if first = 101 ∨ first = 69 then
      digits (if rest.head? = some minus ∨ rest.head? = some plus then rest.tail else rest)
    else some input
  | [] => some []

/-- The grammar of JSON numbers. -/
def isNumber (lexeme : Bytes) : Bool :=
  let unsigned := if lexeme.head? = some minus then lexeme.tail else lexeme
  lexeme.all isNumberChar && (integerPart unsigned >>= fractionPart >>= exponentPart) == some []

structure Number where
  lexeme : Bytes
  wellFormed : isNumber lexeme = true
  deriving DecidableEq

end Json

inductive Json where
  | null
  | bool (b : Bool)
  | number (n : Json.Number)
  | string (s : Json.Text)
  | array (items : List Json)
  | object (members : List (Json.Text × Json))

namespace Json

def dumpsString (s : Text) : Bytes := quoted (escape s.bytes)

/-- What is written between two items or members. -/
def separator : Bytes := [comma, space]

mutual

/-- `json.dumps` with `ensure_ascii=False`. -/
def dumps : Json → Bytes
  | .null => ascii "null"
  | .bool true => ascii "true"
  | .bool false => ascii "false"
  | .number n => n.lexeme
  | .string s => dumpsString s
  | .array items => openBracket :: (dumpsItems items ++ [closeBracket])
  | .object members => openBrace :: (dumpsMembers members ++ [closeBrace])

def dumpsItems : List Json → Bytes
  | [] => []
  | item :: items => dumps item ++ dumpsMoreItems items

def dumpsMoreItems : List Json → Bytes
  | [] => []
  | item :: items => separator ++ (dumps item ++ dumpsMoreItems items)

def dumpsMembers : List (Text × Json) → Bytes
  | [] => []
  | member :: members => dumpsMember member ++ dumpsMoreMembers members

def dumpsMoreMembers : List (Text × Json) → Bytes
  | [] => []
  | member :: members => separator ++ (dumpsMember member ++ dumpsMoreMembers members)

def dumpsMember : Text × Json → Bytes
  | (key, value) => dumpsString key ++ (colon :: space :: dumps value)

end

/-! ## What a written text consists of -/

/-- A property that every token has, and every text put together from texts that have it. -/
structure Tokenwise (P : Bytes → Prop) : Prop where
  nil : P []
  append : ∀ {first second}, P first → P second → P (first ++ second)
  mark : ∀ b ∈ [openBracket, closeBracket, openBrace, closeBrace, comma, colon, space], P [b]
  word : ∀ word ∈ [ascii "null", ascii "true", ascii "false"], P word
  number : ∀ n : Number, P n.lexeme
  string : ∀ s : Text, P (dumpsString s)

section
variable {P : Bytes → Prop} (tokenwise : Tokenwise P)

include tokenwise

theorem Tokenwise.cons {b : Byte} (member : b ∈ [openBracket, closeBracket, openBrace, closeBrace, comma, colon, space])
    {rest : Bytes} (holds : P rest) : P (b :: rest) := tokenwise.append (tokenwise.mark b member) holds

theorem Tokenwise.separated {rest : Bytes} (holds : P rest) : P (separator ++ rest) :=
  tokenwise.cons (by decide) (tokenwise.cons (by decide) holds)

mutual

theorem Tokenwise.dumps : ∀ value, P (dumps value)
  | .null => tokenwise.word _ (by decide)
  | .bool true => tokenwise.word _ (by decide)
  | .bool false => tokenwise.word _ (by decide)
  | .number n => tokenwise.number n
  | .string s => tokenwise.string s
  | .array items => tokenwise.cons (by decide)
      (tokenwise.append (Tokenwise.dumpsItems items) (tokenwise.mark _ (by decide)))
  | .object members =>
    tokenwise.cons (by decide) (tokenwise.append (Tokenwise.dumpsMembers members) (tokenwise.mark _ (by decide)))

theorem Tokenwise.dumpsItems : ∀ items, P (dumpsItems items)
  | [] => tokenwise.nil
  | item :: items => tokenwise.append (Tokenwise.dumps item) (Tokenwise.dumpsMoreItems items)

theorem Tokenwise.dumpsMoreItems : ∀ items, P (dumpsMoreItems items)
  | [] => tokenwise.nil
  | item :: items => tokenwise.separated (tokenwise.append (Tokenwise.dumps item) (Tokenwise.dumpsMoreItems items))

theorem Tokenwise.dumpsMembers : ∀ members, P (dumpsMembers members)
  | [] => tokenwise.nil
  | member :: members => tokenwise.append (Tokenwise.dumpsMember member) (Tokenwise.dumpsMoreMembers members)

theorem Tokenwise.dumpsMoreMembers : ∀ members, P (dumpsMoreMembers members)
  | [] => tokenwise.nil
  | member :: members =>
    tokenwise.separated (tokenwise.append (Tokenwise.dumpsMember member) (Tokenwise.dumpsMoreMembers members))

theorem Tokenwise.dumpsMember : ∀ member, P (dumpsMember member)
  | (key, value) => tokenwise.append (tokenwise.string key)
      (tokenwise.cons (by decide) (tokenwise.cons (by decide) (Tokenwise.dumps value)))

end

end

theorem Number.chars (n : Number) : ∀ b ∈ n.lexeme, isNumberChar b = true := by
  have wellFormed := n.wellFormed
  simp only [isNumber, Bool.and_eq_true, List.all_eq_true] at wellFormed
  exact wellFormed.1

theorem isNumberChar_range {b : Byte} (isNumber : isNumberChar b = true) : 0x20 ≤ b ∧ Utf8.IsAscii b := by
  simp only [isNumberChar, isDigit] at isNumber
  grind

theorem tokenwise_valid : Tokenwise Utf8.Valid where
  nil := Utf8.valid_nil
  append := Utf8.Valid.append
  mark := by decide +kernel
  word := by decide +kernel
  number n := Utf8.valid_ascii fun b member => (isNumberChar_range (n.chars b member)).2
  string s := by
    have isQuote : Utf8.Valid [quote] := by decide
    exact isQuote.append ((escape_valid s.valid).append isQuote)

theorem tokenwise_printable : Tokenwise fun text => ∀ b ∈ text, 0x20 ≤ b where
  nil b member := by cases member
  append first second b member := (List.mem_append.mp member).elim (first b) (second b)
  mark := by decide +kernel
  word := by decide +kernel
  number n b member := (isNumberChar_range (n.chars b member)).1
  string s b member := by
    simp only [dumpsString, quoted, escape, List.mem_cons, List.mem_append, List.mem_flatMap, List.not_mem_nil,
      or_false] at member
    rcases member with rfl | ⟨c, -, member⟩ | rfl
    · decide
    · exact escapeByte_printable c b member
    · decide

theorem dumps_valid (value : Json) : Utf8.Valid (dumps value) := tokenwise_valid.dumps value

/-- No line feed or other control character is written. -/
theorem dumps_printable (value : Json) : ∀ b ∈ dumps value, 0x20 ≤ b := tokenwise_printable.dumps value

theorem isNumber_unsigned {lexeme : Bytes} (unsigned : lexeme.head? ≠ some minus)
    (chars : lexeme.all isNumberChar = true)
    (parts : (integerPart lexeme >>= fractionPart >>= exponentPart) = some []) : isNumber lexeme = true := by
  simp only [isNumber, chars, if_neg unsigned, Bool.true_and, beq_iff_eq]
  exact parts

/-- A whole number is a number. -/
theorem isNumber_ofInt (n : Int) : isNumber (Decimal.ofInt n) = true := by
  have natural : ∀ k : Nat, (Decimal.ofNat k).all isNumberChar = true ∧
      (integerPart (Decimal.ofNat k) >>= fractionPart >>= exponentPart) = some [] ∧
        (Decimal.ofNat k).head? ≠ some minus := by
    intro k
    have areDigits := Decimal.ofNat_isDigit k
    refine ⟨?_, ?_, fun isMinus => Decimal.minus_notMem_ofNat k (List.mem_of_head? isMinus)⟩
    · rw [List.all_eq_true]
      intro b member
      simp [isNumberChar, areDigits b member]
    · by_cases isZero : k = 0
      · subst isZero
        rfl
      · obtain ⟨head, tail, spelled, notZero⟩ := Decimal.ofNat_head isZero
        have taken : (Decimal.ofNat k).takeWhile isDigit = Decimal.ofNat k := by
          rw [List.takeWhile_eq_self_iff]
          exact areDigits
        have dropped : (Decimal.ofNat k).dropWhile isDigit = [] := by
          rw [List.dropWhile_eq_nil_iff]
          exact areDigits
        have whole : integerPart (Decimal.ofNat k) = some [] := by
          rw [spelled] at taken dropped ⊢
          simp only [integerPart, if_neg notZero, digits, taken, dropped]
          rfl
        rw [whole]
        rfl
  cases n with
  | ofNat k =>
    obtain ⟨chars, parts, notMinus⟩ := natural k
    exact isNumber_unsigned notMinus chars parts
  | negSucc k =>
    obtain ⟨chars, parts, -⟩ := natural (k + 1)
    have isMinus : isNumberChar minus = true := rfl
    simp only [Decimal.ofInt, isNumber, List.all_cons, isMinus, chars, List.head?_cons, if_true, List.tail_cons,
      Bool.true_and, beq_iff_eq]
    exact parts

def Number.ofInt (n : Int) : Number := ⟨Decimal.ofInt n, isNumber_ofInt n⟩

end Json

end EdgeFlow.Library
