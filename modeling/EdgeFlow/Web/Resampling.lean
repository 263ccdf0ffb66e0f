import Mathlib.Algebra.Order.Field.Basic
import Mathlib.Data.Rat.Floor
import Mathlib.Tactic.Linarith

/-! `resampleFloat32` of `audioWav.js`: a recording at another rate.

The numbers are exact; a read outside the input is `undefined`, and what is computed from
it is no number.
-/

set_option autoImplicit false

namespace EdgeFlow.Web

/-- `Math.round` -/
def round (value : ℚ) : Int := ⌊value + 1 / 2⌋

/-- `input[index]` -/
def sampleAt (input : List ℚ) (index : Int) : Option ℚ := if index < 0 then none else input[index.toNat]?

section
variable (input : List ℚ) (ratio : ℚ) (index : Nat)

def before : Int := ⌊index * ratio⌋

def after : Int := min (before ratio index + 1) (input.length - 1)

def weight : ℚ := index * ratio - before ratio index

/-- What is stored in the output at an index. -/
def interpolate : Option ℚ := do
  let first ← sampleAt input (before ratio index)
  let second ← sampleAt input (after input ratio index)
  some (first * (1 - weight ratio index) + second * weight ratio index)

end

def outputLength (input : List ℚ) (ratio : ℚ) : Int := round (input.length / ratio)

def resampleFloat32 (input : List ℚ) (sourceRate targetRate : Nat) : List (Option ℚ) :=
  if sourceRate = targetRate then input.map some
  else
    let ratio : ℚ := sourceRate / targetRate
    (List.range (outputLength input ratio).toNat).map (interpolate input ratio)

/-- Both reads are inside the input, and the sample is between what they find. -/
structure Between (input : List ℚ) (ratio : ℚ) (index : Nat) (sample : Option ℚ) : Prop where
  beforeInside : 0 ≤ before ratio index ∧ before ratio index < input.length
  afterInside : 0 ≤ after input ratio index ∧ after input ratio index < input.length
  between : ∃ first second value, sampleAt input (before ratio index) = some first ∧
    sampleAt input (after input ratio index) = some second ∧ sample = some value ∧
      min first second ≤ value ∧ value ≤ max first second

section
variable {input : List ℚ} {ratio : ℚ} {index : Nat}

theorem sampleAt_inside {position : Int} (nonnegative : 0 ≤ position) (inside : position < input.length) :
    ∃ sample, sampleAt input position = some sample := by
  rw [sampleAt, if_neg (not_lt.mpr nonnegative)]
  exact ⟨_, List.getElem?_eq_getElem (by omega : position.toNat < input.length)⟩

/-- An output sample is taken half a source sample before the end of the input at the latest. -/
theorem sourceIndex_lt (positive : 0 < ratio) (produced : (index : Int) < outputLength input ratio) :
    index * ratio < input.length := by
  have rounded : ((index + 1 : Int) : ℚ) ≤ input.length / ratio + 1 / 2 :=
    le_trans (Int.cast_le.mpr (Int.add_one_le_iff.mpr produced)) (Int.floor_le _)
  push_cast at rounded
  have early : (index : ℚ) < input.length / ratio := by linarith
  exact (lt_div_iff₀ positive).mp early

theorem weight_bounds (ratio : ℚ) (index : Nat) : 0 ≤ weight ratio index ∧ weight ratio index ≤ 1 := by
  have low := Int.floor_le (index * ratio)
  have high := Int.lt_floor_add_one (index * ratio)
  unfold weight before
  constructor <;> linarith

/-- A weighted mean of two numbers is between them. -/
theorem mean_bounds {weight : ℚ} (low : 0 ≤ weight) (high : weight ≤ 1) (first second : ℚ) :
    min first second ≤ first * (1 - weight) + second * weight ∧
      first * (1 - weight) + second * weight ≤ max first second := by
  have rest : 0 ≤ 1 - weight := sub_nonneg.mpr high
  constructor
  · calc min first second = min first second * (1 - weight) + min first second * weight := by ring
      _ ≤ first * (1 - weight) + second * weight :=
        add_le_add (mul_le_mul_of_nonneg_right (min_le_left _ _) rest)
          (mul_le_mul_of_nonneg_right (min_le_right _ _) low)
  · calc first * (1 - weight) + second * weight ≤ max first second * (1 - weight) + max first second * weight :=
        add_le_add (mul_le_mul_of_nonneg_right (le_max_left _ _) rest)
          (mul_le_mul_of_nonneg_right (le_max_right _ _) low)
      _ = max first second := by ring

theorem interpolate_between (positive : 0 < ratio) (produced : (index : Int) < outputLength input ratio) :
    Between input ratio index (interpolate input ratio index) := by
  have early := sourceIndex_lt positive produced
  have beforeInside : 0 ≤ before ratio index ∧ before ratio index < input.length := by
    refine ⟨Int.floor_nonneg.mpr (mul_nonneg (Nat.cast_nonneg _) positive.le), Int.floor_lt.mpr ?_⟩
    exact_mod_cast early
  have afterInside : 0 ≤ after input ratio index ∧ after input ratio index < input.length := by
    unfold after
    omega
  obtain ⟨first, isFirst⟩ := sampleAt_inside beforeInside.1 beforeInside.2
  obtain ⟨second, isSecond⟩ := sampleAt_inside afterInside.1 afterInside.2
  obtain ⟨low, high⟩ := weight_bounds ratio index
  refine ⟨beforeInside, afterInside, first, second, _, isFirst, isSecond, ?_, mean_bounds low high first second⟩
  simp only [interpolate, isFirst, isSecond, bind, Option.bind]

/-- At the same rate every sample is its own. -/
theorem same_between {value : ℚ} (found : input[index]? = some value) : Between input 1 index (some value) := by
  obtain ⟨inside, rfl⟩ := List.getElem?_eq_some_iff.mp found
  have isBefore : before 1 index = index := by simp [before]
  have beforeInside : 0 ≤ before 1 index ∧ before 1 index < input.length := by omega
  have afterInside : 0 ≤ after input 1 index ∧ after input 1 index < input.length := by
    unfold after
    omega
  obtain ⟨second, isSecond⟩ := sampleAt_inside afterInside.1 afterInside.2
  refine ⟨beforeInside, afterInside, input[index], second, input[index], ?_, isSecond, rfl, ?_⟩
  · rw [isBefore, sampleAt, if_neg (by omega)]
    exact found
  · exact ⟨min_le_left _ _, le_max_left _ _⟩

end

/-- At any rates, the output is as long as it should be, and every sample of it is between two of the input. -/
theorem resampleFloat32_inside (input : List ℚ) {sourceRate targetRate : Nat} (sourcePositive : 0 < sourceRate)
    (targetPositive : 0 < targetRate) :
    ((resampleFloat32 input sourceRate targetRate).length : Int) = round (input.length * targetRate / sourceRate) ∧
      ∀ index sample, (resampleFloat32 input sourceRate targetRate)[index]? = some sample →
        Between input (sourceRate / targetRate) index sample := by
  have source : (0 : ℚ) < sourceRate := Nat.cast_pos.mpr sourcePositive
  have target : (0 : ℚ) < targetRate := Nat.cast_pos.mpr targetPositive
  unfold resampleFloat32
  split
  · next same =>
    subst same
    rw [mul_div_cancel_right₀ _ source.ne', div_self source.ne']
    constructor
    · have half : ⌊(1 : ℚ) / 2⌋ = 0 := by norm_num
      rw [List.length_map, round, Int.floor_natCast_add, half, add_zero]
    · intro index sample found
      rw [List.getElem?_map, Option.map_eq_some_iff] at found
      obtain ⟨value, found, rfl⟩ := found
      exact same_between found
  · have positive : (0 : ℚ) < sourceRate / targetRate := div_pos source target
    have length : (input.length : ℚ) / (sourceRate / targetRate) = input.length * targetRate / sourceRate :=
      div_div_eq_mul_div _ _ _
    have nonnegative : 0 ≤ outputLength input (sourceRate / targetRate) :=
      Int.floor_nonneg.mpr (add_nonneg (div_nonneg (Nat.cast_nonneg _) positive.le) (by norm_num))
    constructor
    · rw [List.length_map, List.length_range, Int.toNat_of_nonneg nonnegative, outputLength, length]
    · intro index sample found
      rw [List.getElem?_map, Option.map_eq_some_iff] at found
      obtain ⟨position, isPosition, rfl⟩ := found
      obtain ⟨produced, rfl⟩ := List.getElem?_eq_some_iff.mp isPosition
      rw [List.length_range] at produced
      rw [List.getElem_range]
      exact interpolate_between positive (by omega)

theorem resampleFloat32_upsampled :
    ((resampleFloat32 [0, 1] 2 3).length : Int) = round (2 * 3 / 2) ∧
      Between [0, 1] (2 / 3) 2 (some 1) := by
  have inside := resampleFloat32_inside [0, 1] (by decide : 0 < 2) (by decide : 0 < 3)
  exact ⟨by exact_mod_cast inside.1, by exact_mod_cast inside.2 2 (some 1) (by decide +kernel)⟩

end EdgeFlow.Web
