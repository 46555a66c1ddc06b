import Mathlib.Tactic.Common

/-!
# Steps that may fail

What can be said of the parts of a step that may fail if the whole step succeeds, and if it fails.
The other modules take executions apart with these statements.
-/

namespace Except

variable {ε ε' : Type} {α β : Type}

/-- A mapped result is a success if the result is. -/
@[simp] theorem map_eq_ok_iff {x : Except ε α} {f : α → β} {b : β} :
    x.map f = .ok b ↔ ∃ a, x = .ok a ∧ f a = b := by
  cases x with
  | error e => simp [Except.map]
  | ok a => simp [Except.map]

/-- Mapping the error of a result leaves a success alone. -/
@[simp] theorem mapError_eq_ok_iff {x : Except ε α} {f : ε → ε'} {a : α} :
    x.mapError f = .ok a ↔ x = .ok a := by
  cases x with
  | error e => simp [Except.mapError]
  | ok a => simp [Except.mapError]

/-- Two steps succeed if both do. -/
@[simp] theorem bind_eq_ok_iff {x : Except ε α} {f : α → Except ε β} {b : β} :
    (x >>= f) = .ok b ↔ ∃ a, x = .ok a ∧ f a = .ok b := by
  cases x with
  | error e => simp [bind, Except.bind]
  | ok a => simp [bind, Except.bind]

/-- A success is passed on. -/
theorem ok_bind (a : α) (f : α → Except ε β) : (.ok a >>= f) = f a := rfl

/-- A success is no error. -/
theorem not_exists_eq_error {x : Except ε α} {a : α} (h : x = .ok a) : ¬ ∃ e, x = .error e := by
  rintro ⟨e, he⟩
  cases h.symm.trans he

/-- A mapped result is an error if the result is. -/
theorem exists_map_eq_error_iff {x : Except ε α} {f : α → β} :
    (∃ e, x.map f = .error e) ↔ ∃ e, x = .error e := by
  cases x with
  | error e => simp [Except.map]
  | ok a => simp [Except.map]

/-- Errors and successes are mapped independently of each other. -/
theorem map_mapError (x : Except ε α) (e : ε → ε') (f : α → β) :
    (x.mapError e).map f = (x.map f).mapError e := by
  cases x <;> rfl

/-- Two steps are mapped alike if their second parts are. -/
theorem map_bind_congr {x : Except ε α} {f f' : α → Except ε β} {γ : Type} {g : β → γ}
    (h : ∀ a, (f a).map g = (f' a).map g) : (x >>= f).map g = (x >>= f').map g := by
  cases x with
  | error e => rfl
  | ok a => exact h a

/-- Results are mapped alike if they are the same error, or successes that are mapped alike. -/
theorem map_eq_map_iff {γ : Type} {x : Except ε α} {y : Except ε β} {f : α → γ} {g : β → γ} :
    x.map f = y.map g ↔
      (∃ e, x = .error e ∧ y = .error e) ∨ ∃ a b, x = .ok a ∧ y = .ok b ∧ f a = g b := by
  cases x <;> cases y <;> simp [Except.map, eq_comm]

/-- A success is kept when errors are forgotten. -/
theorem toOption_ok (a : α) : (.ok a : Except ε α).toOption = some a := rfl

/-- What is left when errors are forgotten was a success. -/
theorem toOption_eq_some_iff {x : Except ε α} {a : α} : x.toOption = some a ↔ x = .ok a := by
  cases x with
  | error e => simp [Except.toOption]
  | ok b => rw [toOption_ok, Option.some.injEq, Except.ok.injEq]

end Except
