import EdgeFlow.Comm.Frames
import EdgeFlow.Library.Printf

/-! `get_param` as either platform runs it: the length byte is a plain `char`, signed
on x86 and unsigned on ARM, and sizes are squeezed into an `int`.
-/

set_option autoImplicit false

namespace EdgeFlow.Comm
open Library Library.Printf

inductive PlainChar where
  | signed
  | unsigned
  deriving DecidableEq, Repr

def PlainChar.toInt : PlainChar → Byte → Int
  | .signed, b => if b < 0x80 then b.toNat else b.toNat - 256
  | .unsigned, b => b.toNat

/-- The largest value of a `char`. -/
def PlainChar.limit : PlainChar → Nat
  | .signed => 127
  | .unsigned => 255

/-- `static_cast<int>` of a length. -/
def toInt32 (length : Nat) : Int := Int.bmod length (2 ^ 32)

/-- `std::string(data + offset, static_cast<size_t>(count))` -/
def stringAt (data : Bytes) (offset count : Int) : Except Fault Bytes :=
  -- as a `size_t`, a negative count is past `max_size`
  if count < 0 then .error .lengthError
  else if 0 ≤ offset ∧ offset + count ≤ data.length then .ok ((data.drop offset.toNat).take count.toNat)
  else .error .undefined

/-- `get_param` on a buffer that holds `length` bytes of text. -/
def readParamAs (char : PlainChar) (data : Bytes) (length index : Nat) : Except Fault Bytes :=
  match data with
  | [] => .error .undefined
  | first :: _ =>
    if index % 2 = 0 then stringAt data 1 (char.toInt first)
    else
      -- the differences are `int`s
      if IsInt32 (toInt32 length - char.toInt first) ∧ IsInt32 (toInt32 length - char.toInt first - 1) then
        stringAt data (char.toInt first + 1) (toInt32 length - char.toInt first - 1)
      else .error .undefined

def getParamAs (char : PlainChar) (msg : Bytes) (index : Nat) (idata : Bytes) : Except Fault Bytes :=
  -- `c_str` ends with a NUL that may be read
  if 0 < idata.length then readParamAs char (idata ++ [0]) idata.length index
  else readParamAs char msg msg.length index

/-- With no `idata` the message itself is read. -/
theorem getParamAs_msg (char : PlainChar) (msg : Bytes) (index : Nat) :
    getParamAs char msg index [] = readParamAs char msg msg.length index := by
  rw [getParamAs, List.length_nil, if_neg (Nat.lt_irrefl 0)]

theorem toInt_le_limit (char : PlainChar) (b : Byte) : char.toInt b ≤ char.limit := by
  have bound := b.toNat_lt
  cases char with
  | signed =>
    simp only [PlainChar.toInt, PlainChar.limit]
    split
    · next small =>
      have : b.toNat < 128 := by simpa [UInt8.lt_iff_toNat_lt] using small
      omega
    · omega
  | unsigned =>
    simp only [PlainChar.toInt, PlainChar.limit]
    omega

/-- A length that fits is read back from its byte. -/
theorem toInt_ofNat {char : PlainChar} {length : Nat} (fits : length ≤ char.limit) :
    char.toInt (UInt8.ofNat length) = length := by
  cases char with
  | signed =>
    simp only [PlainChar.limit] at fits
    have value : (UInt8.ofNat length).toNat = length := by
      rw [UInt8.toNat_ofNat']
      omega
    have small : UInt8.ofNat length < 0x80 := by
      rw [UInt8.lt_iff_toNat_lt, value]
      exact Nat.lt_of_le_of_lt fits (by decide)
    simp only [PlainChar.toInt, if_pos small, value]
  | unsigned =>
    simp only [PlainChar.limit] at fits
    simp only [PlainChar.toInt, UInt8.toNat_ofNat']
    omega

theorem toInt32_eq_iff (length : Nat) : toInt32 length = length ↔ length < 2 ^ 31 := by
  unfold toInt32
  constructor
  · intro same
    have below : Int.bmod length (2 ^ 32) < ((2 ^ 32 : Nat) + 1) / 2 := Int.bmod_lt (by decide)
    rw [same] at below
    omega
  · intro small
    rw [Int.bmod_def]
    omega

theorem toInt32_bounds (length : Nat) : IsInt32 (toInt32 length) := by
  have positive : 0 < 2 ^ 32 := by decide
  have lower : -((2 ^ 32 : Nat) / 2 : Int) ≤ Int.bmod length (2 ^ 32) := Int.le_bmod positive
  have upper : Int.bmod length (2 ^ 32) < ((2 ^ 32 : Nat) + 1) / 2 := Int.bmod_lt positive
  exact ⟨lower, upper⟩

theorem stringAt_length_le {data text : Bytes} {offset count : Int} (read : stringAt data offset count = .ok text) :
    (text.length : Int) ≤ count := by
  unfold stringAt at read
  split at read
  · cases read
  · split at read
    · cases read
      have := List.length_take_le count.toNat (data.drop offset.toNat)
      omega
    · cases read

/-- What stands in the middle of a buffer is read by its place and length. -/
theorem stringAt_middle (before text after : Bytes) :
    stringAt (before ++ (text ++ after)) before.length text.length = .ok text := by
  have inside : (0 : Int) ≤ before.length ∧
      (before.length : Int) + text.length ≤ (before ++ (text ++ after)).length := by
    simp only [List.length_append]
    omega
  rw [stringAt, if_neg (by omega), if_pos inside]
  simp

/-- Whatever it is read from, a first parameter is no longer than a `char` can say. -/
theorem getParamAs_zero_length_le {char : PlainChar} {msg idata text : Bytes}
    (read : getParamAs char msg 0 idata = .ok text) : text.length ≤ char.limit := by
  have general {data : Bytes} {length : Nat} (read : readParamAs char data length 0 = .ok text) :
      text.length ≤ char.limit := by
    cases data with
    | nil => cases read
    | cons first rest =>
      simp only [readParamAs, if_true] at read
      have count := stringAt_length_le read
      have limit := toInt_le_limit char first
      omega
  unfold getParamAs at read
  split at read
  · exact general read
  · exact general read

section
variable (char : PlainChar) (msg param0 param1 : Bytes)

theorem getParamAs_one : getParamAs char msg 1 (setParam param0 param1) =
    let length0 := char.toInt (UInt8.ofNat param0.length)
    let size := toInt32 (setParam param0 param1).length
    if IsInt32 (size - length0) ∧ IsInt32 (size - length0 - 1) then
      stringAt (setParam param0 param1 ++ [0]) (length0 + 1) (size - length0 - 1)
    else .error .undefined := by
  have nonempty : 0 < (setParam param0 param1).length := Nat.succ_pos _
  rw [getParamAs, if_pos nonempty]
  simp only [readParamAs, setParam, List.cons_append, Nat.one_mod, one_ne_zero, if_false]

omit msg in
/-- A frame whose sizes fit is read back, whatever stands behind it. -/
theorem readParamAs_setParam (fits : param0.length ≤ char.limit) (small : (setParam param0 param1).length < 2 ^ 31)
    (after : Bytes) :
    readParamAs char (setParam param0 param1 ++ after) (setParam param0 param1).length 0 = .ok param0 ∧
      readParamAs char (setParam param0 param1 ++ after) (setParam param0 param1).length 1 = .ok param1 := by
  have length : (setParam param0 param1).length = 1 + param0.length + param1.length := by
    simp only [setParam, List.length_cons, List.length_append]
    omega
  have size := (toInt32_eq_iff _).mpr small
  have parts : setParam param0 param1 ++ after = UInt8.ofNat param0.length :: (param0 ++ (param1 ++ after)) := by
    simp [setParam]
  have rest : toInt32 (setParam param0 param1).length - param0.length - 1 = param1.length := by omega
  have ints : IsInt32 (toInt32 (setParam param0 param1).length - param0.length) ∧ IsInt32 (param1.length : Int) :=
    ⟨⟨by omega, by omega⟩, by omega, by omega⟩
  simp only [readParamAs, parts, toInt_ofNat fits, if_true, Nat.one_mod, one_ne_zero, if_false, rest, if_pos ints]
  constructor
  · exact stringAt_middle [_] param0 _
  · have offset : (param0.length + 1 : Int) = (UInt8.ofNat param0.length :: param0).length := by simp
    rw [offset, ← List.cons_append]
    exact stringAt_middle _ param1 _

/-- Two parameters come back from their frame exactly when the first fits the length byte and the
frame fits an `int`. -/
theorem getParamAs_roundTrip_iff :
    (getParamAs char msg 0 (setParam param0 param1) = .ok param0 ∧
        getParamAs char msg 1 (setParam param0 param1) = .ok param1) ↔
      param0.length ≤ char.limit ∧ (setParam param0 param1).length < 2 ^ 31 := by
  have length : (setParam param0 param1).length = 1 + param0.length + param1.length := by
    simp only [setParam, List.length_cons, List.length_append]
    omega
  constructor
  · rintro ⟨first, second⟩
    have fits := getParamAs_zero_length_le first
    refine ⟨fits, ?_⟩
    -- the second parameter has its length from the size of the frame
    simp only [getParamAs_one, toInt_ofNat fits] at second
    split at second
    · have lower := stringAt_length_le second
      have bounds := toInt32_bounds (setParam param0 param1).length
      unfold stringAt at second
      split at second
      · cases second
      · split at second
        · next inside =>
          have upper := congrArg List.length (Except.ok.inj second)
          rw [List.length_take, List.length_drop, List.length_append, List.length_singleton] at upper
          apply (toInt32_eq_iff _).mp
          omega
        · cases second
    · cases second
  · rintro ⟨fits, small⟩
    have nonempty : 0 < (setParam param0 param1).length := Nat.succ_pos _
    simpa only [getParamAs, if_pos nonempty] using readParamAs_setParam char param0 param1 fits small [0]

end

/-- A length byte that is not negative means the same on both platforms. -/
theorem toInt_small (char : PlainChar) {b : Byte} (small : b.toNat ≤ maxParam) : char.toInt b = b.toNat := by
  have fits : b.toNat ≤ char.limit := by
    have bound : maxParam = 127 := rfl
    cases char <;> simp only [PlainChar.limit] <;> omega
  simpa using toInt_ofNat fits

/-- What `readParam` reads, either platform reads. -/
theorem readParamAs_of_readParam {data param : Bytes} {index : Nat} (read : readParam index data = .ok param)
    (small : data.length < 2 ^ 31) (char : PlainChar) (after : Bytes) :
    readParamAs char (data ++ after) data.length index = .ok param := by
  unfold readParam at read
  split at read
  · cases read
  · next first rest =>
    split at read
    · cases read
    · next short =>
      have value := toInt_small char (Nat.le_of_not_lt short)
      have size := (toInt32_eq_iff _).mpr small
      have total : ((first :: rest).length : Int) = rest.length + 1 := by simp
      simp only [readParamAs, List.cons_append, value]
      split at read
      · next even =>
        rw [if_pos even]
        split at read
        · next inside =>
          cases read
          -- the first parameter stands behind the byte that gives its length
          have parts : first :: (rest ++ after) =
              [first] ++ (rest.take first.toNat ++ (rest.drop first.toNat ++ after)) := by
            rw [← List.append_assoc (rest.take _), List.take_append_drop, List.singleton_append]
          have length : (first.toNat : Int) = (rest.take first.toNat).length := by
            rw [List.length_take]
            omega
          rw [parts, length]
          exact stringAt_middle [first] _ _
        · cases read
      · next odd =>
        rw [if_neg odd]
        split at read
        · next inside =>
          cases read
          -- and the second one behind the first
          have parts : first :: (rest ++ after) =
              (first :: rest.take first.toNat) ++ (rest.drop first.toNat ++ after) := by
            rw [List.cons_append, ← List.append_assoc (rest.take _), List.take_append_drop]
          have length : toInt32 (first :: rest).length - first.toNat - 1 = (rest.drop first.toNat).length := by
            rw [List.length_drop]
            omega
          have offset : (first.toNat + 1 : Int) = (first :: rest.take first.toNat).length := by
            rw [List.length_cons, List.length_take]
            omega
          have ints : IsInt32 (toInt32 (first :: rest).length - first.toNat) ∧
              IsInt32 ((rest.drop first.toNat).length : Int) :=
            ⟨⟨by omega, by omega⟩, by omega, by omega⟩
          rw [length, if_pos ints, parts, offset]
          exact stringAt_middle _ _ _
        · cases read

/-- What `getParam` reads, both platforms read alike. -/
theorem getParamAs_of_getParam {msg idata param : Bytes} {index : Nat} (read : getParam msg index idata = .ok param)
    (small : (if 0 < idata.length then idata else msg).length < 2 ^ 31) (char : PlainChar) :
    getParamAs char msg index idata = .ok param := by
  unfold getParam at read
  unfold getParamAs
  by_cases given : 0 < idata.length
  · rw [if_pos given] at read small ⊢
    exact readParamAs_of_readParam read small char [0]
  · rw [if_neg given] at read small ⊢
    simpa using readParamAs_of_readParam read small char []

end EdgeFlow.Comm
