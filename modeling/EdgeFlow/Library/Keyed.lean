import Mathlib.Data.Option.Basic
import Mathlib.Logic.Function.Basic

/-! Tables whose entries belong to holders, each under a key of its own. -/

set_option autoImplicit false

namespace EdgeFlow.Library.Keyed

variable {Holder Key Value : Type}

/-- The entries of a table are those of the holders, one for each. -/
structure Exact (key : Holder → Option Key) (held : Holder → Option Value) (table : Key → Option Value) : Prop where
  present : ∀ holder value, held holder = some value → ∃ place, key holder = some place ∧ table place = some value
  nothingElse : ∀ place value, table place = some value → ∃ holder, held holder = some value ∧ key holder = some place
  apart : ∀ holder other place, (held holder).isSome → (held other).isSome →
    key holder = some place → key other = some place → holder = other

theorem exact_empty (key : Holder → Option Key) :
    Exact key (fun _ => none : Holder → Option Value) (fun _ => none : Key → Option Value) where
  present _ _ isHeld := by cases isHeld
  nothingElse _ _ inTable := by cases inTable
  apart _ _ _ isHeld := by cases isHeld

variable {key key' : Holder → Option Key} {held : Holder → Option Value} {table : Key → Option Value}

/-- A holder without a key holds nothing. -/
theorem Exact.not_held (exact : Exact key held table) {holder : Holder} (noKey : key holder = none) :
    held holder = none := by
  by_contra isHeld
  obtain ⟨value, isHeld⟩ := Option.ne_none_iff_exists'.mp isHeld
  obtain ⟨place, found, -⟩ := exact.present holder value isHeld
  rw [noKey] at found
  cases found

/-- What a holder is given or loses at its place changes no other holder's entry. -/
theorem Exact.update [DecidableEq Holder] [DecidableEq Key] (exact : Exact key held table)
    {holder : Holder} {place : Key}
    {value : Option Value} (others : ∀ other, other ≠ holder → key' other = key other)
    (free : ∀ other, other ≠ holder → (held other).isSome → key other ≠ some place)
    (vacated : (held holder).isSome → key holder = some place) (placed : value.isSome → key' holder = some place) :
    Exact key' (Function.update held holder value) (Function.update table place value) where
  present other content isHeld := by
    by_cases same : other = holder
    · subst same
      rw [Function.update_self] at isHeld
      exact ⟨place, placed (isHeld ▸ rfl), by rw [Function.update_self, isHeld]⟩
    · rw [Function.update_of_ne same] at isHeld
      obtain ⟨there, found, inTable⟩ := exact.present other content isHeld
      have elsewhere : there ≠ place := by
        rintro rfl
        exact free other same (isHeld ▸ rfl) found
      exact ⟨there, (others other same).trans found, by rw [Function.update_of_ne elsewhere, inTable]⟩
  nothingElse there content inTable := by
    by_cases same : there = place
    · subst same
      rw [Function.update_self] at inTable
      exact ⟨holder, by rw [Function.update_self, inTable], placed (inTable ▸ rfl)⟩
    · rw [Function.update_of_ne same] at inTable
      obtain ⟨other, isHeld, found⟩ := exact.nothingElse there content inTable
      have different : other ≠ holder := by
        rintro rfl
        exact same (Option.some.inj (found.symm.trans (vacated (isHeld ▸ rfl))))
      exact ⟨other, by rw [Function.update_of_ne different, isHeld], (others other different).trans found⟩
  apart first second there firstHeld secondHeld firstKey secondKey := by
    -- a holder that is not the one changed keeps its key, which is not its place
    have kept (other : Holder) (different : other ≠ holder) (isHeld : (Function.update held holder value other).isSome)
        (found : key' other = some there) : (held other).isSome ∧ key other = some there ∧ there ≠ place := by
      rw [Function.update_of_ne different] at isHeld
      rw [others other different] at found
      refine ⟨isHeld, found, ?_⟩
      rintro rfl
      exact free other different isHeld found
    have own (isHeld : (Function.update held holder value holder).isSome) (found : key' holder = some there) :
        there = place := by
      rw [Function.update_self] at isHeld
      exact Option.some.inj (found.symm.trans (placed isHeld))
    by_cases firstSame : first = holder
    · subst firstSame
      by_cases secondSame : second = first
      · exact secondSame.symm
      · exact absurd (own firstHeld firstKey) (kept second secondSame secondHeld secondKey).2.2
    · obtain ⟨wasHeld, wasKey, elsewhere⟩ := kept first firstSame firstHeld firstKey
      by_cases secondSame : second = holder
      · subst secondSame
        exact absurd (own secondHeld secondKey) elsewhere
      · obtain ⟨wasHeld', wasKey', -⟩ := kept second secondSame secondHeld secondKey
        exact exact.apart first second there wasHeld wasHeld' wasKey wasKey'

end EdgeFlow.Library.Keyed
