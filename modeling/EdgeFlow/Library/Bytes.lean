import Mathlib.Data.List.Basic

/-! Byte strings and the ASCII characters the wire formats are written with. -/

set_option autoImplicit false

namespace EdgeFlow.Library

abbrev Byte := UInt8
abbrev Bytes := List Byte

/-- The bytes of a text in the ASCII range. -/
def ascii (text : String) : Bytes := text.toList.map fun c => UInt8.ofNat c.toNat

namespace Byte

abbrev newline : Byte := 10
abbrev space : Byte := 32
abbrev quote : Byte := 34
abbrev percent : Byte := 37
abbrev plus : Byte := 43
abbrev comma : Byte := 44
abbrev minus : Byte := 45
abbrev dot : Byte := 46
abbrev zero : Byte := 48
abbrev colon : Byte := 58
abbrev openBracket : Byte := 91
abbrev backslash : Byte := 92
abbrev closeBracket : Byte := 93
abbrev openBrace : Byte := 123
abbrev closeBrace : Byte := 125

/-- `isspace` in the C locale. -/
def isSpace (b : Byte) : Bool := b == 32 || (9 ≤ b && b ≤ 13)

def isDigit (b : Byte) : Bool := 48 ≤ b && b ≤ 57

/-- White space between the tokens of a JSON text. -/
def IsBlank (b : Byte) : Prop := b = space ∨ b = 9 ∨ b = newline ∨ b = 13

instance (b : Byte) : Decidable (IsBlank b) := inferInstanceAs (Decidable (_ ∨ _))

end Byte

/-- A text between quotes. -/
def quoted (text : Bytes) : Bytes := Byte.quote :: (text ++ [Byte.quote])

end EdgeFlow.Library
