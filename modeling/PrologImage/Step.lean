import PrologImage.Fault

/-!
Contract: steps on a state that may stop with a fault.

Owns: the kind of step that everything with an effect is made of, its outcome from a state, and
one equation for the outcome of each way to make a step.

A step that stops keeps what it has done to the state before.
-/

namespace PrologImage

/-- A step on a state. It may stop with a fault; what it did to the state before stays done. -/
abbrev Step (σ : Type) := ExceptT Fault (StateM σ)

namespace Step

variable {σ τ α β : Type}

/-- Runs a step from a state: the outcome and the state after it. -/
def outcome (step : Step σ α) (state : σ) : Except Fault α × σ :=
  (ExceptT.run step).run state

/-- A step on a part of a larger state. -/
def within (part : τ → σ) (replace : σ → τ → τ) (step : Step σ α) : Step τ α :=
  ExceptT.mk fun whole =>
    match step.outcome (part whole) with
    | (result, changed) => (result, replace changed whole)

/-- Stops with an unexpected error when a calculation has one. -/
def ofForeign : Except ForeignError α → Step σ α
  | .ok value => pure value
  | .error error => throw (.unexpected error)

@[simp] theorem outcome_pure (value : α) (state : σ) :
    (pure value : Step σ α).outcome state = (.ok value, state) := rfl

@[simp] theorem outcome_throw (fault : Fault) (state : σ) :
    (throw fault : Step σ α).outcome state = (.error fault, state) := rfl

@[simp] theorem outcome_get (state : σ) :
    (get : Step σ σ).outcome state = (.ok state, state) := rfl

@[simp] theorem outcome_set (replacement state : σ) :
    (set replacement : Step σ PUnit).outcome state = (.ok ⟨⟩, replacement) := rfl

@[simp] theorem outcome_modify (change : σ → σ) (state : σ) :
    (modify change : Step σ PUnit).outcome state = (.ok ⟨⟩, change state) := rfl

@[simp] theorem outcome_bind (first : Step σ α) (next : α → Step σ β) (state : σ) :
    (first >>= next).outcome state =
      match first.outcome state with
      | (.ok value, after) => (next value).outcome after
      | (.error fault, after) => (.error fault, after) := by
  simp only [outcome, ExceptT.run_bind, StateT.run_bind]
  rcases (ExceptT.run first).run state with ⟨_ | _, _⟩ <;> rfl

/-- A sequence of two steps gets to its end when both do. -/
theorem outcome_bind_eq_ok_iff (first : Step σ α) (next : α → Step σ β) (state after : σ)
    (value : β) :
    (first >>= next).outcome state = (.ok value, after) ↔
      ∃ given middle, first.outcome state = (.ok given, middle) ∧
        (next given).outcome middle = (.ok value, after) := by
  rw [outcome_bind]
  rcases first.outcome state with ⟨fault | given, middle⟩
  · simp
  · constructor
    · intro ended
      exact ⟨given, middle, rfl, ended⟩
    · rintro ⟨_, _, ⟨⟩, ended⟩
      exact ended

@[simp] theorem outcome_map (change : α → β) (step : Step σ α) (state : σ) :
    (change <$> step).outcome state =
      match step.outcome state with
      | (.ok value, after) => (.ok (change value), after)
      | (.error fault, after) => (.error fault, after) := by
  simp only [outcome, ExceptT.run_map, StateT.run_map]
  rcases (ExceptT.run step).run state with ⟨_ | _, _⟩ <;> rfl

@[simp] theorem outcome_tryCatch (step : Step σ α) (handle : Fault → Step σ α) (state : σ) :
    (tryCatch step handle).outcome state =
      match step.outcome state with
      | (.ok value, after) => (.ok value, after)
      | (.error fault, after) => (handle fault).outcome after := by
  unfold outcome ExceptT.run StateT.run
  simp only [tryCatch, tryCatchThe, MonadExceptOf.tryCatch, ExceptT.tryCatch, ExceptT.mk, bind,
    StateT.bind]
  rcases step state with ⟨_ | _, _⟩ <;> rfl

@[simp] theorem outcome_within (part : τ → σ) (replace : σ → τ → τ) (step : Step σ α)
    (whole : τ) :
    (step.within part replace).outcome whole =
      ((step.outcome (part whole)).1, replace (step.outcome (part whole)).2 whole) := rfl

theorem outcome_within_eq_ok_iff (part : τ → σ) (replace : σ → τ → τ) (step : Step σ α)
    (whole after : τ) (value : α) :
    (step.within part replace).outcome whole = (.ok value, after) ↔
      ∃ changed, step.outcome (part whole) = (.ok value, changed) ∧
        replace changed whole = after := by
  rw [outcome_within]
  rcases step.outcome (part whole) with ⟨fault | given, changed⟩
  · simp
  · constructor
    · rintro ⟨⟩
      exact ⟨changed, rfl, rfl⟩
    · rintro ⟨_, ⟨⟩, rfl⟩
      rfl

theorem outcome_ofForeign (result : Except ForeignError α) (state : σ) :
    (ofForeign result : Step σ α).outcome state = (result.mapError .unexpected, state) := by
  cases result <;> rfl

@[simp] theorem outcome_ofForeign_ok (value : α) (state : σ) :
    (ofForeign (.ok value) : Step σ α).outcome state = (.ok value, state) := rfl

@[simp] theorem outcome_ofForeign_error (error : ForeignError) (state : σ) :
    (ofForeign (.error error) : Step σ α).outcome state = (.error (.unexpected error), state) :=
  rfl

end Step

end PrologImage
