import EdgeFlow.Library.Decimal
import EdgeFlow.Library.Except
import EdgeFlow.Library.Json.Parsing

/-! The Python values that the gateway handles, and what it does to them.

A `str` is given by the UTF-8 of its code points, lone surrogates among them, and a
`float` by what `json.dumps` writes for it.
-/

set_option autoImplicit false

namespace EdgeFlow.Gateway
open Library Library.Byte

inductive Value where
  | none
  | bool (b : Bool)
  | int (n : Int)
  | float (spelling : Bytes)
  | str (s : Bytes)
  | list (items : List Value)
  | dict (members : List (Bytes × Value))

inductive Builtin where
  | osError
  | jsonDecodeError
  | unicodeError
  | attributeError
  | typeError
  | valueError
  | overflowError
  | recursionError
  deriving DecidableEq, Repr

/-- What is raised: the gateway's own exception or one of Python's. -/
inductive Exc where
  | unitManagerError (message : Bytes) (code : Int)
  | builtin (error : Builtin)
  deriving DecidableEq

/-- The parts of the runtime that work on texts. -/
structure Python where
  /-- `json.loads` -/
  loads : (text : Bytes) → Except Builtin Value
  /-- `str` of anything but a `str` -/
  repr : Value → Bytes
  /-- `int` of a `str` -/
  parseInt : (text : Bytes) → Option Int
  /-- `int` of a `float` that is finite -/
  truncate : (spelling : Bytes) → Option Int

namespace Value

/-- `==` against the number zero -/
def isZero : Value → Bool
  | .bool b => !b
  | .int n => n == 0
  | .float spelling => spelling == ascii "0.0" || spelling == ascii "-0.0"
  | _ => false

/-- `bool` -/
def truthy : Value → Bool
  | .none => false
  | .str s => !s.isEmpty
  | .list items => !items.isEmpty
  | .dict members => !members.isEmpty
  | number => !number.isZero

@[simp] theorem truthy_str (s : Bytes) : (str s).truthy = !s.isEmpty := rfl

/-- `.get(key, default)`, which only a `dict` has. -/
def get (value : Value) (key : String) (default : Value) : Except Exc Value :=
  match value with
  | .dict members => .ok (((members.find? fun member => member.1 == ascii key).map (·.2)).getD default)
  | _ => .error (.builtin .attributeError)

mutual

/-- `json.dumps` with `ensure_ascii=False` -/
def dumps : Value → Bytes
  | .none => ascii "null"
  | .bool true => ascii "true"
  | .bool false => ascii "false"
  | .int n => Decimal.ofInt n
  | .float spelling => spelling
  | .str s => quoted (Json.escape s)
  | .list items => openBracket :: (dumpsItems items ++ [closeBracket])
  | .dict members => openBrace :: (dumpsMembers members ++ [closeBrace])

def dumpsItems : List Value → Bytes
  | [] => []
  | item :: items => dumps item ++ dumpsMoreItems items

def dumpsMoreItems : List Value → Bytes
  | [] => []
  | item :: items => Json.separator ++ (dumps item ++ dumpsMoreItems items)

def dumpsMembers : List (Bytes × Value) → Bytes
  | [] => []
  | member :: members => dumpsMember member ++ dumpsMoreMembers members

def dumpsMoreMembers : List (Bytes × Value) → Bytes
  | [] => []
  | member :: members => Json.separator ++ (dumpsMember member ++ dumpsMoreMembers members)

def dumpsMember : Bytes × Value → Bytes
  | (key, value) => quoted (Json.escape key) ++ (colon :: space :: dumps value)

end

end Value

namespace Python
variable (python : Python)

/-- `str` -/
def str : Value → Bytes
  | .str s => s
  | value => python.repr value

/-- `int` -/
def int : Value → Except Exc Int
  | .int n => .ok n
  | .bool b => .ok (if b then 1 else 0)
  | .float spelling =>
    match python.truncate spelling with
    | some n => .ok n
    -- an infinity; a NaN raises a `ValueError`
    | none => .error (.builtin .overflowError)
  | .str s =>
    match python.parseInt s with
    | some n => .ok n
    | none => .error (.builtin .valueError)
  | .none | .list _ | .dict _ => .error (.builtin .typeError)

end Python

/-! ## A plain runtime -/

mutual

/-- What `json.loads` makes of a value whose numbers are whole. -/
def loaded : Json → Value
  | .null => .none
  | .bool b => .bool b
  | .number n => if n.lexeme.all isDigit then .int (Decimal.value 10 n.lexeme) else .float n.lexeme
  | .string s => .str s.bytes
  | .array items => .list (loadedItems items)
  | .object members => .dict (loadedMembers members)

def loadedItems : List Json → List Value
  | [] => []
  | item :: items => loaded item :: loadedItems items

def loadedMembers : List (Json.Text × Json) → List (Bytes × Value)
  | [] => []
  | (name, value) :: members => (name.bytes, loaded value) :: loadedMembers members

end

def plainPython : Python where
  loads text := (Json.parse text).elim (.error .jsonDecodeError) fun value => .ok (loaded value)
  repr _ := []
  parseInt _ := none
  truncate _ := none

end EdgeFlow.Gateway
