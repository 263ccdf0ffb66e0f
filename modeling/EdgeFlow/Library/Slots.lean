import Mathlib.Data.List.Basic

/-! Bitmaps of slots and the owners the marked slots are held by. -/

set_option autoImplicit false

namespace EdgeFlow.Library.Slots

variable {Owner : Type}

/-- The marked slots are the held ones, and no slot has two owners. -/
structure Exact (marks : List Bool) (Holds : Owner → Nat → Prop) : Prop where
  marked : ∀ slot, marks[slot]? = some true ↔ ∃ owner, Holds owner slot
  exclusive : ∀ owner other slot, Holds owner slot → Holds other slot → owner = other

variable {marks : List Bool} {Holds Holds' : Owner → Nat → Prop}

theorem Exact.congr (exact : Exact marks Holds) (same : ∀ owner slot, Holds' owner slot ↔ Holds owner slot) :
    Exact marks Holds' := by
  have : Holds' = Holds := funext fun owner => funext fun slot => propext (same owner slot)
  exact this ▸ exact

theorem exact_unmarked (marks : List Bool) (clear : ∀ mark ∈ marks, mark = false)
    (nobody : ∀ owner slot, ¬ Holds owner slot) : Exact marks Holds where
  marked slot := by
    constructor
    · intro marked
      exact absurd (clear _ (List.mem_of_getElem? marked)) (by simp)
    · rintro ⟨owner, held⟩
      exact absurd held (nobody owner slot)
  exclusive owner _ slot held := absurd held (nobody owner slot)

theorem Exact.lt_length (exact : Exact marks Holds) {owner : Owner} {slot : Nat} (held : Holds owner slot) :
    slot < marks.length :=
  (List.getElem?_eq_some_iff.mp ((exact.marked slot).mpr ⟨owner, held⟩)).1

theorem Exact.not_held (exact : Exact marks Holds) {slot : Nat} (free : marks[slot]? = some false)
    (owner : Owner) : ¬ Holds owner slot := fun held => by
  have marked := (exact.marked slot).mpr ⟨owner, held⟩
  rw [free] at marked
  simp at marked

/-- A slot that is free beside a marked one was free before. -/
theorem free_of_set {slot place : Nat} (free : (marks.set slot true)[place]? = some false) :
    marks[place]? = some false := by
  by_cases same : slot = place
  · subst same
    rw [List.getElem?_set_self'] at free
    cases here : marks[slot]? with
    | none => rw [here] at free; cases free
    | some mark => rw [here] at free; cases free
  · rwa [List.getElem?_set_ne same] at free

/-- Marking a free slot gives it to one owner. -/
theorem Exact.take (exact : Exact marks Holds) {slot : Nat} (free : marks[slot]? = some false) (owner : Owner) :
    Exact (marks.set slot true) fun other place => Holds other place ∨ (other = owner ∧ place = slot) where
  marked place := by
    have bound := (List.getElem?_eq_some_iff.mp free).1
    by_cases same : place = slot
    · subst same
      simp [bound]
    · rw [List.getElem?_set_ne (Ne.symm same), exact.marked place]
      simp [same]
  exclusive first second place := by
    rintro (held | ⟨rfl, rfl⟩) (held' | ⟨rfl, same⟩)
    · exact exact.exclusive _ _ _ held held'
    · exact absurd (same ▸ held) (exact.not_held free _)
    · exact absurd held' (exact.not_held free _)
    · rfl

/-- Clearing a slot takes it from whoever held it. -/
theorem Exact.free (exact : Exact marks Holds) (slot : Nat) :
    Exact (marks.set slot false) fun owner place => Holds owner place ∧ place ≠ slot where
  marked place := by
    by_cases same : place = slot
    · subst same
      simp [List.getElem?_set]
    · rw [List.getElem?_set_ne (Ne.symm same), exact.marked place]
      simp [same]
  exclusive _ _ place := fun held held' => exact.exclusive _ _ place held.1 held'.1

/-- First fit: a bitmap with an unmarked slot has a first one. -/
theorem exists_firstFree (marks : List Bool) (some : 0 < marks.count false) :
    ∃ slot, marks.findIdx? (fun mark => !mark) = Option.some slot ∧ marks[slot]? = Option.some false := by
  have member : false ∈ marks := List.count_pos_iff.mp some
  cases found : marks.findIdx? (fun mark => !mark) with
  | none =>
    have := List.findIdx?_eq_none_iff.mp found false member
    simp at this
  | some slot =>
    obtain ⟨bound, clear, _⟩ := List.findIdx?_eq_some_iff_getElem.mp found
    refine ⟨slot, rfl, ?_⟩
    rw [List.getElem?_eq_getElem bound]
    simpa using clear

theorem count_false_set {slot : Nat} (free : marks[slot]? = some false) :
    (marks.set slot true).count false + 1 = marks.count false := by
  obtain ⟨bound, clear⟩ := List.getElem?_eq_some_iff.mp free
  have positive : 0 < marks.count false := List.count_pos_iff.mpr (clear ▸ List.getElem_mem bound)
  rw [List.count_set bound, clear]
  simp
  omega

end EdgeFlow.Library.Slots
