import EdgeFlow.Library.Bytes

/-! The base 64 encoding of RFC 4648, read back: four digits are three octets, and a text ends with a
padded group where one or two octets are left.
-/

set_option autoImplicit false

namespace EdgeFlow.Library.Base64

abbrev pad : Byte := 61

/-- The six bits that a digit stands for. -/
def digitValue (c : Byte) : Option Nat :=
  if 65 ≤ c ∧ c ≤ 90 then some (c.toNat - 65)
  else if 97 ≤ c ∧ c ≤ 122 then some (c.toNat - 97 + 26)
  else if 48 ≤ c ∧ c ≤ 57 then some (c.toNat - 48 + 52)
  else if c = 43 then some 62
  else if c = 47 then some 63
  else none

/-- The character is in the alphabet. -/
def IsDigit (c : Byte) : Prop := (digitValue c).isSome = true

/-- Some bits as an octet. -/
def octet (bits : Nat) : Byte := UInt8.ofNat bits

/-- The octets of a text, which is refused unless the bits that are left over in its last digit are zero. -/
def decode : Bytes → Option Bytes
  | [] => some []
  | first :: second :: third :: fourth :: text => do
    let a ← digitValue first
    let b ← digitValue second
    if fourth = pad then
      if text ≠ [] then none
      else if third = pad then
        if b % 16 = 0 then some [octet (a * 4 + b / 16)] else none
      else
        let c ← digitValue third
        if c % 4 = 0 then some [octet (a * 4 + b / 16), octet (b % 16 * 16 + c / 4)] else none
    else
      let c ← digitValue third
      let d ← digitValue fourth
      let bytes ← decode text
      some (octet (a * 4 + b / 16) :: octet (b % 16 * 16 + c / 4) :: octet (c % 4 * 64 + d) :: bytes)
  | _ => none

section
variable {a b c d : Nat} {first second third fourth : Byte}

theorem ne_pad (isDigit : digitValue first = some a) : first ≠ pad := by
  rintro rfl
  cases isDigit

/-- A whole group. -/
theorem decode_group (isFirst : digitValue first = some a) (isSecond : digitValue second = some b)
    (isThird : digitValue third = some c) (isFourth : digitValue fourth = some d) {text bytes : Bytes}
    (rest : decode text = some bytes) : decode (first :: second :: third :: fourth :: text) =
      some (octet (a * 4 + b / 16) :: octet (b % 16 * 16 + c / 4) :: octet (c % 4 * 64 + d) :: bytes) := by
  rw [decode]
  simp only [isFirst, isSecond, isThird, isFourth, rest, if_neg (ne_pad isFourth), bind, Option.bind]

/-- The last group of a text that leaves two octets. -/
theorem decode_two (isFirst : digitValue first = some a) (isSecond : digitValue second = some b)
    (isThird : digitValue third = some c) (left : c % 4 = 0) :
    decode [first, second, third, pad] = some [octet (a * 4 + b / 16), octet (b % 16 * 16 + c / 4)] := by
  rw [decode]
  simp only [isFirst, isSecond, isThird, if_neg (ne_pad isThird), left, bind, Option.bind, ne_eq, not_true_eq_false,
    if_true, if_false]

/-- The last group of a text that leaves one octet. -/
theorem decode_one (isFirst : digitValue first = some a) (isSecond : digitValue second = some b) (left : b % 16 = 0) :
    decode [first, second, pad, pad] = some [octet (a * 4 + b / 16)] := by
  rw [decode]
  simp only [isFirst, isSecond, left, bind, Option.bind, ne_eq, not_true_eq_false, if_true, if_false]

end

/-- A text is the encoding of some octets: it is as long as it must be, digits but for a padding of two at most, and
these octets are read back from it. -/
structure Encodes (text bytes : Bytes) : Prop where
  length : text.length = 4 * ((bytes.length + 2) / 3)
  padded : ∃ digits pads, text = digits ++ List.replicate pads pad ∧ pads ≤ 2 ∧ ∀ c ∈ digits, IsDigit c
  decoded : decode text = some bytes

end EdgeFlow.Library.Base64
