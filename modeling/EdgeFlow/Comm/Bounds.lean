import EdgeFlow.Comm.Params

/-! The bytes that `get_param` reads, whatever message it is given. -/

set_option autoImplicit false

namespace EdgeFlow.Comm
open Library Library.Printf

/-- The bytes a parameter is read from. -/
def paramBuffer (msg idata : Bytes) : Bytes := if 0 < idata.length then idata else msg

/-- The offset and the length that `get_param` computes for the constructor of its result. -/
def paramArgs (char : PlainChar) (data : Bytes) (length index : Nat) : Option (Int × Int) :=
  match data with
  -- `data[0]` is outside an empty message
  | [] => none
  | first :: _ =>
    if index % 2 = 0 then some (1, char.toInt first)
    else if IsInt32 (toInt32 length - char.toInt first) ∧ IsInt32 (toInt32 length - char.toInt first - 1) then
      some (char.toInt first + 1, toInt32 length - char.toInt first - 1)
    else none

theorem readParamAs_eq (char : PlainChar) (data : Bytes) (length index : Nat) :
    readParamAs char data length index =
      match paramArgs char data length index with
      | some (offset, count) => stringAt data offset count
      | none => .error .undefined := by
  cases data with
  | nil => rfl
  | cons first rest =>
    simp only [readParamAs, paramArgs]
    by_cases even : index % 2 = 0
    · simp only [if_pos even]
    · simp only [if_neg even]
      split
      · rfl
      · rfl

/-- Nothing but the message is read, and the result is a part of it. -/
def StaysInside (char : PlainChar) (msg : Bytes) (index : Nat) (idata : Bytes) : Prop :=
  let buffer := paramBuffer msg idata
  ∃ offset count : Nat, paramArgs char buffer buffer.length index = some ((offset : Int), (count : Int)) ∧
    offset + count ≤ buffer.length ∧ getParamAs char msg index idata = .ok ((buffer.drop offset).take count)

theorem paramArgs_append (char : PlainChar) {data : Bytes} (nonempty : data ≠ []) (after : Bytes) (length index : Nat) :
    paramArgs char (data ++ after) length index = paramArgs char data length index := by
  cases data with
  | nil => exact absurd rfl nonempty
  | cons first rest => rfl

/-- The terminator of a `c_str` is not reached by what stays inside the text before it. -/
theorem stringAt_inside {data : Bytes} {offset count : Nat} (inside : offset + count ≤ data.length) (after : Bytes) :
    stringAt (data ++ after) offset count = .ok ((data.drop offset).take count) := by
  have within : (0 : Int) ≤ offset ∧ (offset : Int) + count ≤ (data ++ after).length := by
    rw [List.length_append]
    omega
  rw [stringAt, if_neg (Int.not_lt.mpr (Int.natCast_nonneg count)), if_pos within, Int.toNat_natCast, Int.toNat_natCast,
    List.drop_append_of_le_length (by omega), List.take_append_of_le_length (by rw [List.length_drop]; omega)]

theorem getParamAs_eq (char : PlainChar) (msg : Bytes) (index : Nat) (idata : Bytes) :
    ∃ after, getParamAs char msg index idata =
      readParamAs char (paramBuffer msg idata ++ after) (paramBuffer msg idata).length index := by
  unfold getParamAs paramBuffer
  by_cases given : 0 < idata.length
  · rw [if_pos given, if_pos given]
    exact ⟨[0], rfl⟩
  · rw [if_neg given, if_neg given]
    exact ⟨[], by rw [List.append_nil]⟩

/-- Whether a message is kept to is a matter of the arguments alone. -/
theorem staysInside_iff (char : PlainChar) (msg : Bytes) (index : Nat) (idata : Bytes) :
    StaysInside char msg index idata ↔
      ∃ offset count : Nat,
        paramArgs char (paramBuffer msg idata)
          (paramBuffer msg idata).length index = some ((offset : Int), (count : Int)) ∧
          offset + count ≤ (paramBuffer msg idata).length := by
  constructor
  · rintro ⟨offset, count, args, inside, -⟩
    exact ⟨offset, count, args, inside⟩
  · rintro ⟨offset, count, args, inside⟩
    refine ⟨offset, count, args, inside, ?_⟩
    have nonempty : paramBuffer msg idata ≠ [] := by
      intro empty
      rw [empty] at args
      cases args
    obtain ⟨after, read⟩ := getParamAs_eq char msg index idata
    rw [read, readParamAs_eq, paramArgs_append char nonempty, args]
    exact stringAt_inside inside after

/-- Reading stays inside a message exactly when its length byte, as this platform reads it, is one of the message:
for the first parameter at least 0 and below the size, for the second at least -1 and below the size as an `int`. -/
theorem getParam_inside_iff (char : PlainChar) (msg idata : Bytes) :
    (StaysInside char msg 0 idata ↔
      ∃ length ∈ (paramBuffer msg idata).head?,
        0 ≤ char.toInt length ∧ char.toInt length < (paramBuffer msg idata).length) ∧
    (StaysInside char msg 1 idata ↔
      ∃ length ∈ (paramBuffer msg idata).head?,
        -1 ≤ char.toInt length ∧ char.toInt length < toInt32 (paramBuffer msg idata).length ∧
          toInt32 (paramBuffer msg idata).length - char.toInt length < 2 ^ 31) := by
  rw [staysInside_iff, staysInside_iff]
  cases paramBuffer msg idata with
  | nil => simp [paramArgs]
  | cons first rest =>
    simp only [List.head?_cons, Option.mem_def, Option.some.injEq, exists_eq_left', paramArgs, Nat.zero_mod, if_true,
      Nat.one_mod, one_ne_zero, if_false, Prod.mk.injEq]
    constructor
    · constructor
      · rintro ⟨offset, count, ⟨one, length⟩, inside⟩
        omega
      · rintro ⟨lower, upper⟩
        exact ⟨1, (char.toInt first).toNat, ⟨rfl, by omega⟩, by omega⟩
    · -- an `int` is no larger than the size it was cast from, once it is not negative
      have cast : 0 ≤ toInt32 (first :: rest).length → toInt32 (first :: rest).length ≤ (first :: rest).length := by
        unfold toInt32
        rw [Int.bmod_def]
        omega
      obtain ⟨lowest, largest⟩ := toInt32_bounds (first :: rest).length
      constructor
      · rintro ⟨offset, count, args, inside⟩
        split at args
        · next ints =>
          obtain ⟨start, length⟩ := Prod.mk.inj (Option.some.inj args)
          obtain ⟨-, small⟩ := ints.1
          omega
        · cases args
      · rintro ⟨lower, upper, small⟩
        rw [if_pos ⟨⟨by omega, by omega⟩, by omega, by omega⟩]
        exact ⟨(char.toInt first + 1).toNat, (toInt32 (first :: rest).length - char.toInt first - 1).toNat,
          by rw [Int.toNat_of_nonneg (by omega), Int.toNat_of_nonneg (by omega)], by omega⟩

/-- What a timed out call leaves behind is read outside. -/
theorem getParam_timeout : ¬ StaysInside .signed [] 0 [] := by
  rintro ⟨offset, count, args, -⟩
  cases args

end EdgeFlow.Comm
