import PrologImage.Step

/-!
Contract: two steps seen side by side.

Owns: ends of steps that match, steps in accord, and the closure of accord under the ways to make
a step.

Does not own: which states are beside each other (`Proofs.Interpreter.Accord` for two sessions).

Two steps are in accord when they lead from any two states in a relation to states in that
relation, and end alike: with values in a relation, or stopped by the same fault.
-/

namespace PrologImage

/-- Ends of two steps that match: values in a relation, or the same fault. -/
inductive Matches {α β : Type} (values : α → β → Prop) :
    Except Fault α → Except Fault β → Prop
  | value {left : α} {right : β} : values left right → Matches values (.ok left) (.ok right)
  | fault (fault : Fault) : Matches values (.error fault) (.error fault)

theorem Matches.eq {α : Type} {left right : Except Fault α} (same : Matches Eq left right) :
    left = right := by
  cases same with
  | value same => rw [same]
  | fault fault => rfl

/-- Steps that lead from states in a relation to states in the relation, with ends that match. -/
def Accord {σ τ α β : Type} (states : σ → τ → Prop) (values : α → β → Prop)
    (left : Step σ α) (right : Step τ β) : Prop :=
  ∀ before beside, states before beside →
    Matches values (left.outcome before).1 (right.outcome beside).1 ∧
      states (left.outcome before).2 (right.outcome beside).2

namespace Accord

variable {σ τ σ' τ' α β γ δ : Type} {states : σ → τ → Prop} {values : α → β → Prop}

theorem of_pure {left : α} {right : β} (related : values left right) :
    Accord states values (pure left) (pure right) :=
  fun _ _ beside => ⟨.value related, beside⟩

theorem of_throw (fault : Fault) : Accord states values (throw fault) (throw fault) :=
  fun _ _ beside => ⟨.fault fault, beside⟩

/-- The two states that are read are beside each other. -/
theorem of_get : Accord states states (get : Step σ σ) (get : Step τ τ) :=
  fun _ _ beside => ⟨.value beside, beside⟩

theorem of_modify {leftChange : σ → σ} {rightChange : τ → τ}
    (kept : ∀ left right, states left right → states (leftChange left) (rightChange right)) :
    Accord states Eq (modify leftChange : Step σ PUnit) (modify rightChange : Step τ PUnit) :=
  fun left right beside => ⟨.value rfl, kept left right beside⟩

theorem of_ofForeign (result : Except ForeignError α) :
    Accord states Eq (Step.ofForeign result : Step σ α) (Step.ofForeign result : Step τ α) := by
  cases result with
  | ok value => exact of_pure rfl
  | error error => exact of_throw (.unexpected error)

theorem of_bind {others : γ → δ → Prop} {left : Step σ α} {right : Step τ β}
    {leftNext : α → Step σ γ} {rightNext : β → Step τ δ} (first : Accord states values left right)
    (next : ∀ leftValue rightValue, values leftValue rightValue →
      Accord states others (leftNext leftValue) (rightNext rightValue)) :
    Accord states others (left >>= leftNext) (right >>= rightNext) := by
  intro before beside related
  have stretch := first before beside related
  rw [Step.outcome_bind, Step.outcome_bind]
  rcases leftRan : left.outcome before with ⟨leftEnd, leftAfter⟩
  rcases rightRan : right.outcome beside with ⟨rightEnd, rightAfter⟩
  rw [leftRan, rightRan] at stretch
  obtain ⟨ends, after⟩ := stretch
  cases ends with
  | value matched => exact next _ _ matched leftAfter rightAfter after
  | fault fault => exact ⟨.fault fault, after⟩

/-- The second steps go on from the same value. -/
theorem of_bind_same {others : γ → δ → Prop} {left : Step σ α} {right : Step τ α}
    {leftNext : α → Step σ γ} {rightNext : α → Step τ δ} (first : Accord states Eq left right)
    (next : ∀ value, Accord states others (leftNext value) (rightNext value)) :
    Accord states others (left >>= leftNext) (right >>= rightNext) := by
  apply first.of_bind
  rintro value _ rfl
  exact next value

/-- Steps whose faults are handled. Only the faults that come up are asked about. -/
theorem of_tryCatch {left : Step σ α} {right : Step τ β} {leftHandle : Fault → Step σ α}
    {rightHandle : Fault → Step τ β} (accord : Accord states values left right)
    (handled : ∀ fault, (∃ state, (left.outcome state).1 = .error fault) →
      Accord states values (leftHandle fault) (rightHandle fault)) :
    Accord states values (tryCatch left leftHandle) (tryCatch right rightHandle) := by
  intro before beside related
  have stretch := accord before beside related
  have arises : ∀ fault, (left.outcome before).1 = .error fault →
      Accord states values (leftHandle fault) (rightHandle fault) :=
    fun fault arisen => handled fault ⟨before, arisen⟩
  rw [Step.outcome_tryCatch, Step.outcome_tryCatch]
  rcases leftRan : left.outcome before with ⟨leftEnd, leftAfter⟩
  rcases rightRan : right.outcome beside with ⟨rightEnd, rightAfter⟩
  rw [leftRan, rightRan] at stretch
  rw [leftRan] at arises
  obtain ⟨ends, after⟩ := stretch
  cases ends with
  | value matched => exact ⟨.value matched, after⟩
  | fault fault => exact arises fault rfl leftAfter rightAfter after

/-- Steps on parts of larger states whose parts are beside each other. -/
theorem of_within {wholes : σ' → τ' → Prop} {leftPart : σ' → σ} {rightPart : τ' → τ}
    {leftReplace : σ → σ' → σ'} {rightReplace : τ → τ' → τ'} {left : Step σ α} {right : Step τ β}
    (parts : ∀ whole beside, wholes whole beside → states (leftPart whole) (rightPart beside))
    (replaced : ∀ whole beside, wholes whole beside → ∀ changed other, states changed other →
      wholes (leftReplace changed whole) (rightReplace other beside))
    (accord : Accord states values left right) :
    Accord wholes values (left.within leftPart leftReplace)
      (right.within rightPart rightReplace) := by
  intro whole beside related
  obtain ⟨ends, after⟩ := accord _ _ (parts whole beside related)
  exact ⟨ends, replaced whole beside related _ _ after⟩

end Accord

end PrologImage
