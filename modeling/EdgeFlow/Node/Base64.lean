import EdgeFlow.Library.Base64
import EdgeFlow.Node.TtsTask

/-! `base64_encode` of the speech node: what it makes of the bytes of a WAV file. -/

set_option autoImplicit false

namespace EdgeFlow.Node
open Library Library.Base64

/-- The table holds the digits in the order of their values. -/
theorem digitValue_alphabet : ∀ value < 64, digitValue (alphabet.getD value 0) = some value := by decide +kernel

theorem digitValue_sextet (value shift : Nat) : digitValue (sextet value shift) = some (value / 2 ^ shift % 64) :=
  digitValue_alphabet _ (Nat.mod_lt _ (by decide))

theorem isDigit_sextet (value shift : Nat) : IsDigit (sextet value shift) := by
  rw [IsDigit, digitValue_sextet]
  rfl

theorem octet_eq {b : Byte} {bits : Nat} (same : bits = b.toNat) : octet bits = b := by
  rw [octet, same, UInt8.ofNat_toNat]

theorem decode_base64Encode (bytes : Bytes) : decode (base64Encode bytes) = some bytes := by
  fun_induction base64Encode bytes with
  | case1 first second third bytes value ih =>
    have := first.toNat_lt
    have := second.toNat_lt
    have := third.toNat_lt
    rw [decode_group (digitValue_sextet _ _) (digitValue_sextet _ _) (digitValue_sextet _ _) (digitValue_sextet _ _) ih,
      octet_eq (b := first) (by omega), octet_eq (b := second) (by omega), octet_eq (b := third) (by omega)]
  | case2 first second value =>
    have := first.toNat_lt
    have := second.toNat_lt
    rw [decode_two (digitValue_sextet _ _) (digitValue_sextet _ _) (digitValue_sextet _ _) (by omega),
      octet_eq (b := first) (by omega), octet_eq (b := second) (by omega)]
  | case3 first value =>
    have := first.toNat_lt
    rw [decode_one (digitValue_sextet _ _) (digitValue_sextet _ _) (by omega), octet_eq (b := first) (by omega)]
  | case4 => rfl

theorem base64Encode_length (bytes : Bytes) : (base64Encode bytes).length = 4 * ((bytes.length + 2) / 3) := by
  fun_induction base64Encode bytes with
  | case1 first second third bytes value ih =>
    simp only [List.length_cons, ih]
    omega
  | case2 | case3 => simp
  | case4 => rfl

theorem base64Encode_padded (bytes : Bytes) : ∃ digits pads, base64Encode bytes = digits ++ List.replicate pads pad ∧
    pads ≤ 2 ∧ ∀ c ∈ digits, IsDigit c := by
  fun_induction base64Encode bytes with
  | case1 first second third bytes value ih =>
    obtain ⟨digits, pads, shape, few, areDigits⟩ := ih
    refine ⟨sextet value 18 :: sextet value 12 :: sextet value 6 :: sextet value 0 :: digits, pads, ?_, few, ?_⟩
    · rw [shape]
      rfl
    · simp only [List.forall_mem_cons]
      exact ⟨isDigit_sextet _ _, isDigit_sextet _ _, isDigit_sextet _ _, isDigit_sextet _ _, areDigits⟩
  | case2 first second value =>
    exact ⟨[sextet value 18, sextet value 12, sextet value 6], 1, rfl, by decide, by simp [isDigit_sextet]⟩
  | case3 first value => exact ⟨[sextet value 18, sextet value 12], 2, rfl, by decide, by simp [isDigit_sextet]⟩
  | case4 => exact ⟨[], 0, rfl, by decide, by simp⟩

/-- Whatever the bytes are, they are encoded as RFC 4648 has it. -/
theorem base64Encode_exact (bytes : Bytes) : Encodes (base64Encode bytes) bytes where
  length := base64Encode_length bytes
  padded := base64Encode_padded bytes
  decoded := decode_base64Encode bytes

end EdgeFlow.Node
