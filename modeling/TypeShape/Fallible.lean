/-!
# Computations that may fail

When a computation that is built from others succeeds, each of them has succeeded. These are the
inversion lemmas for the two ways in which readers are put together.
-/

namespace TypeShape.Fallible

variable {ε α β : Type}

/-- A mapped computation succeeds exactly if the computation does. -/
theorem map_eq_ok_iff {f : α → β} {x : Except ε α} {b : β} :
    x.map f = .ok b ↔ ∃ a, x = .ok a ∧ f a = b := by
  cases x with
  | error reason => simp [Except.map]
  | ok a => simp [Except.map]

/-- A mapped computation fails exactly if the computation does, and in the same way. -/
theorem map_eq_error_iff {f : α → β} {x : Except ε α} {reason : ε} :
    x.map f = .error reason ↔ x = .error reason := by
  cases x with
  | error other => simp [Except.map]
  | ok a => simp [Except.map]

/-- A sequence of computations succeeds exactly if each does. -/
theorem bind_eq_ok_iff {f : α → Except ε β} {x : Except ε α} {b : β} :
    x >>= f = .ok b ↔ ∃ a, x = .ok a ∧ f a = .ok b := by
  cases x with
  | error reason => simp [bind, Except.bind]
  | ok a => simp [bind, Except.bind]

/-- A sequence of computations fails exactly if one of them does after those before it succeeded. -/
theorem bind_eq_error_iff {f : α → Except ε β} {x : Except ε α} {reason : ε} :
    x >>= f = .error reason ↔
      x = .error reason ∨ ∃ a, x = .ok a ∧ f a = .error reason := by
  cases x with
  | error other => simp [bind, Except.bind]
  | ok a => simp [bind, Except.bind]

end TypeShape.Fallible
