import Mathlib

/-!
Contract: calculations that may stop with an error.

Owns: when two calculations in sequence have a value, when they stop, and the same for a
calculation whose error is renamed and for a list of calculations.
-/

namespace PrologImage.Calculation

variable {ε δ α β : Type}

theorem bind_eq_ok_iff (first : Except ε α) (next : α → Except ε β) (value : β) :
    (first >>= next) = .ok value ↔ ∃ middle, first = .ok middle ∧ next middle = .ok value := by
  cases first <;> simp [bind, Except.bind]

theorem bind_eq_error_iff (first : Except ε α) (next : α → Except ε β) (error : ε) :
    (first >>= next) = .error error ↔
      first = .error error ∨ ∃ middle, first = .ok middle ∧ next middle = .error error := by
  cases first <;> simp [bind, Except.bind]

theorem mapError_eq_ok_iff (rename : ε → δ) (calculation : Except ε α) (value : α) :
    calculation.mapError rename = .ok value ↔ calculation = .ok value := by
  cases calculation <;> simp [Except.mapError]

theorem mapError_eq_error_iff (rename : ε → δ) (calculation : Except ε α) (error : δ) :
    calculation.mapError rename = .error error ↔
      ∃ cause, calculation = .error cause ∧ rename cause = error := by
  cases calculation <;> simp [Except.mapError]

/-- A list of calculations has values when each of them has one. -/
theorem exists_mapM_eq_ok_iff (calculate : α → Except ε β) (givens : List α) :
    (∃ values, givens.mapM calculate = .ok values) ↔
      ∀ given ∈ givens, ∃ value, calculate given = .ok value := by
  induction givens with
  | nil => simp [pure, Except.pure]
  | cons first rest inductionHypothesis =>
      rw [List.forall_mem_cons, ← inductionHypothesis, List.mapM_cons]
      cases calculate first <;> cases rest.mapM calculate <;> simp [bind, Except.bind, pure, Except.pure]

end PrologImage.Calculation
