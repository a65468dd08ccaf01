/-!
# Requirements

`require` fails with a given error when a condition does not hold. Checks that are done one
after another report the first that fails.
-/

namespace BeaconLight

/-- Fails with an error unless a condition holds. -/
def require {ε : Type} (condition : Bool) (e : ε) : Except ε Unit :=
  if condition then .ok () else .error e

/-- A requirement is met exactly when its condition holds. -/
theorem require_eq_ok_iff {ε : Type} {condition : Bool} {e : ε} :
  require condition e = .ok () ↔ condition = true
  := by
  cases condition <;> simp [require]

/-- A requirement fails exactly when its condition does not hold, and then with its error. -/
theorem require_eq_error_iff {ε : Type} {condition : Bool} {e e' : ε} :
  require condition e = .error e' ↔ condition = false ∧ e = e'
  := by
  cases condition <;> simp [require]

end BeaconLight
