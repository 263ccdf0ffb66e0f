import EdgeFlow.Library.Printf
import EdgeFlow.Library.Search

/-! Work ids `<unit>.<number>` on the side of the nodes.

The source keeps the place of the dot in an `int`; work ids of 2^31 bytes and more are
idealised.
-/

set_option autoImplicit false

namespace EdgeFlow.Node
open Library Library.Printf Library.Decimal

def workIdNone : Int := -100

/-- `sample_get_work_id_num`; `std::stoi` throws. -/
def sampleGetWorkIdNum (workId : Bytes) : Except StoiError Int :=
  match Search.find [Byte.dot] workId with
  | none => .ok workIdNone
  | some a => if a = workId.length - 1 then .ok workIdNone else stoi (workId.drop (a + 1))

def sampleGetWorkId (workIdNum : Int) (unitName : Bytes) : Bytes := unitName ++ ascii "." ++ ofInt workIdNum

theorem find_dot {unitName : Bytes} (noDot : Byte.dot ∉ unitName) (rest : Bytes) :
    Search.find [Byte.dot] (unitName ++ Byte.dot :: rest) = some unitName.length := by
  have occursHere : Search.OccursAt [Byte.dot] (unitName ++ Byte.dot :: rest) unitName rest := by
    simp [Search.OccursAt]
  refine Search.FirstAt.find_eq ⟨occursHere, fun before after occurs => ?_⟩
  by_contra shorter
  -- an earlier dot would stand inside the name
  have prefixed : before ++ [Byte.dot] <+: unitName := by
    have whole : before ++ [Byte.dot] <+: unitName ++ Byte.dot :: rest := ⟨after, occurs.symm⟩
    refine List.prefix_of_prefix_length_le whole (List.prefix_append _ _) ?_
    simp only [List.length_append, List.length_singleton]; omega
  exact noDot (prefixed.subset (by simp))

/-- The number a work id was written with is the one it is read with. -/
theorem sampleGetWorkIdNum_workId {unitName : Bytes} (noDot : Byte.dot ∉ unitName) {workIdNum : Int}
    (fits : IsInt32 workIdNum) : sampleGetWorkIdNum (sampleGetWorkId workIdNum unitName) = .ok workIdNum := by
  have spelled : sampleGetWorkId workIdNum unitName = unitName ++ Byte.dot :: ofInt workIdNum := by
    have dot : ascii "." = [Byte.dot] := rfl
    rw [sampleGetWorkId, dot, List.append_assoc, List.singleton_append]
  have printed : ofInt workIdNum ≠ [] := by
    intro nothing
    have := stoi_ofInt fits
    rw [nothing] at this
    cases this
  have notLast : unitName.length ≠ (unitName ++ Byte.dot :: ofInt workIdNum).length - 1 := by
    have := List.length_pos_of_ne_nil printed
    simp only [List.length_append, List.length_cons]
    omega
  have tail : (unitName ++ Byte.dot :: ofInt workIdNum).drop (unitName.length + 1) = ofInt workIdNum := by
    rw [← List.singleton_append, ← List.append_assoc, List.drop_left' (by simp)]
  rw [spelled, sampleGetWorkIdNum, find_dot noDot]
  simp only [if_neg notLast, tail, stoi_ofInt fits]

end EdgeFlow.Node
