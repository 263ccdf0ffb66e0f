import EdgeFlow.Library.Bytes

/-! Files that are read from front to back, and a part of a file read as a file of its own.

A read at the end of a file, or of a part that says it is longer than it is, returns
fewer bytes than were asked for.
-/

set_option autoImplicit false

namespace EdgeFlow.Library

class Reader (File : Type) where
  /-- what there is to read from here on -/
  rest : File → Bytes
  read : Nat → File → Bytes × File
  data : ∀ n file, (read n file).1 = (rest file).take n
  behind : ∀ n file, rest (read n file).2 = (rest file).drop n

namespace Reader

instance : Reader Bytes where
  rest file := file
  read n file := (file.take n, file.drop n)
  data _ _ := rfl
  behind _ _ := rfl

variable {File : Type} [Reader File]

/-- A read that returns something leaves less. -/
theorem rest_shorter {n : Nat} {file : File} (some : (read n file).1 ≠ []) :
    (rest (read n file).2).length < (rest file).length := by
  rw [data] at some
  rw [behind, List.length_drop]
  have nonempty := List.length_pos_of_ne_nil some
  rw [List.length_take] at nonempty
  omega

/-- The file begins with these bytes, and this is what is behind them. -/
def Reads (data : Bytes) (file after : File) : Prop := read data.length file = (data, after)

theorem reads_bytes_iff {data bytes rest : Bytes} : Reads data bytes rest ↔ bytes = data ++ rest := by
  constructor
  · intro reads
    obtain ⟨first, behind⟩ :=
      Prod.mk.inj (show (bytes.take data.length, bytes.drop data.length) = (data, rest) from reads)
    rw [← behind, ← List.take_append_drop data.length bytes, first]
    simp
  · rintro rfl
    show ((data ++ rest).take data.length, (data ++ rest).drop data.length) = (data, rest)
    rw [List.take_left, List.drop_left]

/-- A read that returns as much as was asked for. -/
theorem read_whole_iff {n : Nat} {data : Bytes} {file after : File} :
    read n file = (data, after) ∧ data.length = n ↔ Reads data file after ∧ data.length = n := by
  constructor
  · rintro ⟨took, rfl⟩
    exact ⟨took, rfl⟩
  · rintro ⟨reads, rfl⟩
    exact ⟨reads, rfl⟩

end Reader

/-- The next `left` bytes of a file, or as many of them as it has. -/
structure Limited (File : Type) where
  file : File
  left : Nat

namespace Limited

variable {File : Type} [Reader File]

def read (n : Nat) (part : Limited File) : Bytes × Limited File :=
  let (data, file) := Reader.read (min n part.left) part.file
  (data, ⟨file, part.left - data.length⟩)

def rest (part : Limited File) : Bytes := (Reader.rest part.file).take part.left

theorem read_fst (n : Nat) (part : Limited File) : (part.read n).1 = part.rest.take n := by
  rw [read, Reader.data, rest, List.take_take]

theorem read_snd (n : Nat) (part : Limited File) : (part.read n).2.rest = part.rest.drop n := by
  simp only [read, rest, Reader.data, Reader.behind, List.length_take]
  generalize Reader.rest part.file = bytes
  refine List.ext_getElem? fun i => ?_
  simp only [List.getElem?_take, List.getElem?_drop]
  by_cases inside : n + i < part.left
  · have kept : min n part.left = n := by omega
    rw [kept]
    by_cases there : n ≤ bytes.length
    · rw [if_pos (by omega), if_pos inside]
    · rw [if_pos inside, List.getElem?_eq_none (by omega : bytes.length ≤ n + i), ite_self]
  · rw [if_neg inside]
    by_cases short : min n part.left ≤ bytes.length
    · rw [if_neg (by omega)]
    · rw [List.getElem?_eq_none (by omega : bytes.length ≤ min n part.left + i), ite_self]

instance : Reader (Limited File) where
  rest
  read
  data := read_fst
  behind := read_snd

theorem reads_iff {data : Bytes} {part after : Limited File} : Reader.Reads data part after ↔
    data.length ≤ part.left ∧ Reader.Reads data part.file after.file ∧ after.left = part.left - data.length := by
  obtain ⟨file, left⟩ := part
  obtain ⟨behind, remains⟩ := after
  have unfolded : Reader.Reads data ⟨file, left⟩ (⟨behind, remains⟩ : Limited File) ↔
      Reader.read (min data.length left) file = (data, behind) ∧ left - data.length = remains := by
    show Limited.read data.length ⟨file, left⟩ = _ ↔ _
    rw [Limited.read]
    cases Reader.read (min data.length left) file
    simp only [Prod.mk.injEq, Limited.mk.injEq]
    constructor
    · rintro ⟨rfl, rfl, rfl⟩
      exact ⟨⟨rfl, rfl⟩, rfl⟩
    · rintro ⟨⟨rfl, rfl⟩, rfl⟩
      exact ⟨rfl, rfl, rfl⟩
  rw [unfolded]
  constructor
  · rintro ⟨took, remaining⟩
    have bound : data.length ≤ min data.length left := by
      have taken := Reader.data (min data.length left) file
      rw [took] at taken
      exact le_of_eq_of_le (congrArg List.length taken) (List.length_take_le _ _)
    have within : data.length ≤ left := by omega
    rw [Nat.min_eq_left within] at took
    exact ⟨within, took, remaining.symm⟩
  · rintro ⟨within, took, remaining⟩
    rw [Nat.min_eq_left within]
    exact ⟨took, remaining.symm⟩

end Limited

end EdgeFlow.Library
