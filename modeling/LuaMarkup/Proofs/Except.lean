import Mathlib

/-!
# Results of steps that may fail
-/

namespace LuaMarkup

variable {α β ε ε' : Type} {result : Except ε α}

theorem map_eq_error_iff {f : α → β} {e : ε} : result.map f = .error e ↔ result = .error e := by
  cases result <;> simp [Except.map]

theorem bind_pure_eq_error_iff {f : α → β} {e : ε} :
    (result >>= fun a => pure (f a)) = .error e ↔ result = .error e := by
  cases result <;> simp [bind, Except.bind, pure, Except.pure]

theorem mapError_eq_ok_iff {f : ε → ε'} {a : α} : result.mapError f = .ok a ↔ result = .ok a := by
  cases result <;> simp [Except.mapError]

theorem mapError_eq_error_iff {f : ε → ε'} {e' : ε'} :
    result.mapError f = .error e' ↔ ∃ e, result = .error e ∧ f e = e' := by
  cases result <;> simp [Except.mapError]

end LuaMarkup
