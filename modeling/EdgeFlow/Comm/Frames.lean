import EdgeFlow.Library.Bytes

/-! `pzmq_data`: two parameters in one message, the first behind a length byte. -/

set_option autoImplicit false

namespace EdgeFlow.Comm
open Library

/-- How reading a parameter goes wrong. -/
inductive Fault where
  /-- `std::length_error` of a `std::string` constructor -/
  | lengthError
  /-- bytes outside the buffer are read -/
  | undefined
  deriving DecidableEq, Repr

def setParam (param0 param1 : Bytes) : Bytes := UInt8.ofNat param0.length :: (param0 ++ param1)

/-- Longer first parameters have a length byte that is negative, or another length's. -/
def maxParam : Nat := 127

/-- `get_param` on a buffer of `data.length` bytes. -/
def readParam (index : Nat) (data : Bytes) : Except Fault Bytes :=
  match data with
  | [] => .error .undefined
  | length :: rest =>
    if maxParam < length.toNat then .error .undefined
    else if index % 2 = 0 then
      if length.toNat ≤ rest.length then .ok (rest.take length.toNat) else .error .undefined
    else
      if length.toNat ≤ rest.length then .ok (rest.drop length.toNat) else .error .lengthError

/-- `get_param`; the message itself is read when `idata` is empty. -/
def getParam (msg : Bytes) (index : Nat) (idata : Bytes) : Except Fault Bytes :=
  readParam index (if 0 < idata.length then idata else msg)

variable {param0 : Bytes} (short : param0.length ≤ maxParam) (param1 : Bytes)

include short in
theorem readParam_zero : readParam 0 (setParam param0 param1) = .ok param0 := by
  have length : (UInt8.ofNat param0.length).toNat = param0.length := by
    rw [UInt8.toNat_ofNat']; simp only [maxParam] at short; omega
  simp [readParam, setParam, length, Nat.not_lt.mpr short]

include short in
theorem readParam_one : readParam 1 (setParam param0 param1) = .ok param1 := by
  have length : (UInt8.ofNat param0.length).toNat = param0.length := by
    rw [UInt8.toNat_ofNat']; simp only [maxParam] at short; omega
  simp [readParam, setParam, length, Nat.not_lt.mpr short]

end EdgeFlow.Comm
