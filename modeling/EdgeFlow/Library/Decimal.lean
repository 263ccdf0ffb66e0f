import EdgeFlow.Library.Bytes
import Mathlib.Data.Nat.Digits.Lemmas

/-! Decimal numbers as C and C++ print and read them: `std::to_string` and `%i`
on the way out, `std::stoi` and the `%i` of `sscanf` on the way back. -/

set_option autoImplicit false

namespace EdgeFlow.Library.Decimal
open Byte

def digit (value : Nat) : Byte := UInt8.ofNat (48 + value)

def ofNat (n : Nat) : Bytes := if n = 0 then [zero] else (Nat.digits 10 n).reverse.map digit

/-- `std::to_string` of an `int`, and what `%i` prints for it. -/
def ofInt : Int → Bytes
  | .ofNat n => ofNat n
  | .negSucc n => minus :: ofNat (n + 1)

/-- The number a text of digits denotes in a base up to sixteen. -/
def value (base : Nat) (digits : Bytes) : Nat :=
  digits.foldl (fun total d => total * base +
    (if isDigit d then d.toNat - 48 else if d < 97 then d.toNat - 55 else d.toNat - 87)) 0

theorem digit_isDigit {d : Nat} (small : d < 10) : isDigit (digit d) = true := by
  have cases : ∀ d : Fin 10, isDigit (digit d) = true := by decide
  exact cases ⟨d, small⟩

theorem digit_value {d : Nat} (small : d < 10) : (digit d).toNat - 48 = d := by
  have cases : ∀ d : Fin 10, (digit d).toNat - 48 = d.val := by decide
  exact cases ⟨d, small⟩

theorem digit_ne_zero {d : Nat} (small : d < 10) (nonzero : d ≠ 0) : digit d ≠ zero := by
  have cases : ∀ d : Fin 10, d.val ≠ 0 → digit d ≠ zero := by decide
  exact cases ⟨d, small⟩ nonzero

theorem ofNat_isDigit (n : Nat) : ∀ b ∈ ofNat n, isDigit b = true := by
  intro b member
  unfold ofNat at member
  split at member
  · simp only [List.mem_singleton] at member
    subst member
    rfl
  · obtain ⟨d, inDigits, rfl⟩ := List.mem_map.mp member
    exact digit_isDigit (Nat.digits_lt_base (by decide) (List.mem_reverse.mp inDigits))

theorem ofNat_ne_nil (n : Nat) : ofNat n ≠ [] := by
  unfold ofNat
  split
  · simp
  · next nonzero => simpa [Nat.digits_eq_nil_iff_eq_zero] using nonzero

theorem ofNat_length_le {n k : Nat} (positive : 0 < k) (small : n < 10 ^ k) : (ofNat n).length ≤ k := by
  unfold ofNat
  split
  · exact positive
  · rw [List.length_map, List.length_reverse]
    exact (Nat.digits_length_le_iff (by decide) n).mpr small

/-- An `int` takes up eleven characters at most. -/
theorem ofInt_length_le {n : Int} (lower : -2 ^ 31 ≤ n) (upper : n < 2 ^ 31) : (ofInt n).length ≤ 11 := by
  cases n with
  | ofNat n =>
    have : (ofNat n).length ≤ 10 := ofNat_length_le (by decide) (by simp at upper; omega)
    exact Nat.le_succ_of_le this
  | negSucc n => exact Nat.succ_le_succ (ofNat_length_le (by decide) (by omega))

theorem value_append (base : Nat) (digits : Bytes) (last : Byte) (isDigit : isDigit last = true) :
    value base (digits ++ [last]) = value base digits * base + (last.toNat - 48) := by
  simp [value, isDigit]

theorem value_reverse_digits (digits : List Nat) (small : ∀ d ∈ digits, d < 10) :
    value 10 (digits.reverse.map digit) = Nat.ofDigits 10 digits := by
  induction digits with
  | nil => rfl
  | cons d digits ih =>
    simp only [List.mem_cons, forall_eq_or_imp] at small
    rw [List.reverse_cons, List.map_append, List.map_singleton, value_append _ _ _ (digit_isDigit small.1),
      ih small.2, digit_value small.1, Nat.ofDigits_cons]
    omega

@[simp] theorem value_ofNat (n : Nat) : value 10 (ofNat n) = n := by
  unfold ofNat
  split
  · next nought => subst nought; rfl
  · rw [value_reverse_digits _ fun d member => Nat.digits_lt_base (by decide) member]
    exact Nat.ofDigits_digits 10 n

theorem ofNat_injective : Function.Injective ofNat := by
  intro m n same
  rw [← value_ofNat m, same, value_ofNat n]

/-- Only zero is printed with a leading zero. -/
theorem ofNat_head {n : Nat} (nonzero : n ≠ 0) : ∃ head tail, ofNat n = head :: tail ∧ head ≠ zero := by
  have nonempty : Nat.digits 10 n ≠ [] := Nat.digits_ne_nil_iff_ne_zero.mpr nonzero
  have split := List.dropLast_append_getLast nonempty
  refine ⟨digit ((Nat.digits 10 n).getLast nonempty), (Nat.digits 10 n).dropLast.reverse.map digit, ?_, ?_⟩
  · rw [ofNat, if_neg nonzero]
    conv_lhs => rw [← split]
    rw [List.reverse_append, List.reverse_singleton, List.singleton_append, List.map_cons]
  · apply digit_ne_zero
    · exact Nat.digits_lt_base (by decide) (List.getLast_mem nonempty)
    · exact Nat.getLast_digit_ne_zero 10 nonzero

theorem minus_notMem_ofNat (n : Nat) : minus ∉ ofNat n := fun member =>
  absurd (ofNat_isDigit n _ member) (by decide)

theorem ofInt_ne_nil (n : Int) : ofInt n ≠ [] := by
  cases n with
  | ofNat n => exact ofNat_ne_nil n
  | negSucc n => exact List.cons_ne_nil _ _

theorem mem_ofInt {n : Int} {b : Byte} (member : b ∈ ofInt n) : isDigit b = true ∨ b = minus := by
  cases n with
  | ofNat n => exact Or.inl (ofNat_isDigit n b member)
  | negSucc n =>
    rcases List.mem_cons.mp member with same | member
    · exact Or.inr same
    · exact Or.inl (ofNat_isDigit (n + 1) b member)

theorem ofInt_injective : Function.Injective ofInt := by
  intro m n same
  cases m with
  | ofNat m =>
    cases n with
    | ofNat n => exact congrArg Int.ofNat (ofNat_injective same)
    | negSucc n =>
      simp only [ofInt] at same
      exact absurd (same ▸ List.mem_cons_self) (minus_notMem_ofNat m)
  | negSucc m =>
    cases n with
    | ofNat n =>
      simp only [ofInt] at same
      exact absurd (same ▸ List.mem_cons_self) (minus_notMem_ofNat n)
    | negSucc n =>
      simp only [ofInt, List.cons.injEq, true_and] at same
      have := ofNat_injective same
      exact congrArg Int.negSucc (by omega)

end EdgeFlow.Library.Decimal
