/-! Computations that may fail, taken apart from their results. -/

set_option autoImplicit false

namespace EdgeFlow.Library

variable {ε α β : Type}

/-- What a sequence of two returns, its second half returns for something the first half did. -/
theorem ok_of_bind {r : Except ε α} {f : α → Except ε β} {b : β} (done : (r >>= f) = .ok b) :
    ∃ a, r = .ok a ∧ f a = .ok b := by
  cases r with
  | error => cases done
  | ok a => exact ⟨a, rfl, done⟩

theorem ok_of_mapError {ε' : Type} {r : Except ε α} {f : ε → ε'} {a : α} (done : r.mapError f = .ok a) : r = .ok a := by
  cases r with
  | error => cases done
  | ok b =>
    cases done
    rfl

end EdgeFlow.Library
