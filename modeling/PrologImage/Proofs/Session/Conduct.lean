import PrologImage.Proofs.Console.HarmlessMarkup
import PrologImage.Proofs.Console.PrintedLines
import PrologImage.Proofs.Session.Progress

/-!
Contract: steps that start processes and print lines in good order.

Owns: the condition on a stretch of a run that it stops as interrupted exactly when the user
interrupted one of its processes, prints whole lines only, and stops with no failure whose hint
cannot be printed; and its closure under the ways to make a step.

Does not own: that the steps of the program are such steps (`Proofs.Application.Boundary`).
-/

namespace PrologImage

/-- A failure whose hint can be printed. -/
def Failure.IsTellable (failure : Failure) : Prop :=
  ∀ hint, failure.hint = some hint → Console.IsBracketFree hint

theorem Failure.isTellable_of_no_hint {failure : Failure} (noHint : failure.hint = none) :
    failure.IsTellable := by
  intro hint present
  rw [noHint] at present
  cases present

/-- A stretch of a run in good order, from a session to a later one with a result. -/
structure Conduct {α : Type} (before : Session) (result : Except Fault α) (after : Session) :
    Prop where
  processes : ∃ processes, before.Advances after processes ∧
    (result = .error .interrupted ↔
      ∃ index < processes.length, (before.outcomeAt index).ending = .interrupted)
  output : ∃ text, after.output = before.output ++ text ∧ Console.IsWhole text
  tellable : ∀ failure, result = .error (.reported failure) → failure.IsTellable

namespace Conduct

variable {α β : Type} {before middle after : Session}

/-- A stretch without a process is not interrupted. -/
theorem of_no_process {result : Except Fault α} (advances : before.Advances after [])
    (output : ∃ text, after.output = before.output ++ text ∧ Console.IsWhole text)
    (goesOn : result ≠ .error .interrupted)
    (tellable : ∀ failure, result = .error (.reported failure) → failure.IsTellable) :
    Conduct before result after where
  processes := by
    refine ⟨[], advances, ?_⟩
    constructor
    · intro interrupted
      exact absurd interrupted goesOn
    · rintro ⟨index, inRange, _⟩
      exact absurd inRange (Nat.not_lt_zero index)
  output := output
  tellable := tellable

theorem refl {result : Except Fault α} (goesOn : result ≠ .error .interrupted)
    (tellable : ∀ failure, result = .error (.reported failure) → failure.IsTellable) :
    Conduct before result before :=
  of_no_process (.refl before) ⟨"", String.append_empty.symm, .empty⟩ goesOn tellable

theorem trans {value : α} {result : Except Fault β} (first : Conduct before (.ok value) middle)
    (second : Conduct middle result after) : Conduct before result after where
  processes := by
    obtain ⟨earlier, earlierAdvances, earlierIff⟩ := first.processes
    obtain ⟨later, laterAdvances, laterIff⟩ := second.processes
    refine ⟨earlier ++ later, earlierAdvances.trans laterAdvances, ?_⟩
    rw [laterIff, List.length_append]
    constructor
    · rintro ⟨index, inRange, interrupted⟩
      rw [earlierAdvances.outcomeAt_eq] at interrupted
      exact ⟨earlier.length + index, by omega, interrupted⟩
    · rintro ⟨index, inRange, interrupted⟩
      -- The interrupted process is not an earlier one, because the first stretch went on.
      have notEarlier : ¬ index < earlier.length := by
        intro inEarlier
        have stopped := earlierIff.mpr ⟨index, inEarlier, interrupted⟩
        cases stopped
      refine ⟨index - earlier.length, by omega, ?_⟩
      rw [earlierAdvances.outcomeAt_eq, Nat.add_sub_cancel' (Nat.le_of_not_lt notEarlier)]
      exact interrupted
  output := by
    obtain ⟨earlier, earlierPrinted, earlierWhole⟩ := first.output
    obtain ⟨later, laterPrinted, laterWhole⟩ := second.output
    refine ⟨earlier ++ later, ?_, earlierWhole.append laterWhole⟩
    rw [laterPrinted, earlierPrinted, String.append_assoc]
  tellable := second.tellable

/-- A stretch that stopped is the same whatever was expected of it. -/
theorem of_error {fault : Fault} (stopped : Conduct (α := α) before (.error fault) after) :
    Conduct (α := β) before (.error fault) after where
  processes := by
    obtain ⟨processes, advances, iff⟩ := stopped.processes
    refine ⟨processes, advances, Iff.trans ?_ iff⟩
    simp only [Except.error.injEq]
  output := stopped.output
  tellable := by
    intro failure reported
    cases reported
    exact stopped.tellable failure rfl

end Conduct

/-- A step that is in good order from every state. The state holds a session. -/
def WellConducted {σ α : Type} (session : σ → Session) (step : Step σ α) : Prop :=
  ∀ state, Conduct (session state) (step.outcome state).1 (session (step.outcome state).2)

/-- A step that starts one process and hands over its end. -/
def StartsProcess {σ : Type} (session : σ → Session) (step : Step σ ProcessEnd) : Prop :=
  ∀ state, ∃ process after, step.outcome state =
      (.ok ((session state).outcomeAt 0).ending, after) ∧
    (session state).Advances (session after) [process] ∧
    (session after).output = (session state).output

namespace WellConducted

variable {σ τ α β : Type} {session : σ → Session}

theorem of_pure (value : α) : WellConducted session (pure value : Step σ α) := by
  intro state
  exact .refl (by simp) (by simp)

theorem of_get : WellConducted session (get : Step σ σ) := by
  intro state
  exact .refl (by simp) (by simp)

theorem of_throw_reported {failure : Failure} (tellable : failure.IsTellable) :
    WellConducted session (throw (.reported failure) : Step σ α) := by
  intro state
  refine .refl (by simp) ?_
  intro other reported
  simp only [Step.outcome_throw, Except.error.injEq, Fault.reported.injEq] at reported
  rwa [← reported]

theorem of_throw_unexpected (error : ForeignError) :
    WellConducted session (throw (.unexpected error) : Step σ α) := by
  intro state
  exact .refl (by simp) (by simp)

theorem of_ofForeign (result : Except ForeignError α) :
    WellConducted session (Step.ofForeign result : Step σ α) := by
  cases result with
  | ok value => exact of_pure value
  | error error => exact of_throw_unexpected error

/-- A change of the state that starts nothing and prints whole lines. -/
theorem of_modify {change : σ → σ}
    (advances : ∀ state, (session state).Advances (session (change state)) [])
    (output : ∀ state, ∃ text,
      (session (change state)).output = (session state).output ++ text ∧ Console.IsWhole text) :
    WellConducted session (modify change : Step σ PUnit) := by
  intro state
  exact .of_no_process (advances state) (output state) (by simp) (by simp)

/-- The second of two steps has to be in good order only for what the first one hands over. -/
theorem of_bind_of {first : Step σ α} {next : α → Step σ β} (left : WellConducted session first)
    (right : ∀ before value after, first.outcome before = (.ok value, after) →
      WellConducted session (next value)) :
    WellConducted session (first >>= next) := by
  intro state
  have stretch := left state
  rw [Step.outcome_bind]
  rcases ended : first.outcome state with ⟨fault | value, middle⟩ <;> rw [ended] at stretch
  · exact stretch.of_error
  · exact stretch.trans (right state value middle ended middle)

theorem of_bind {first : Step σ α} {next : α → Step σ β} (left : WellConducted session first)
    (right : ∀ value, WellConducted session (next value)) :
    WellConducted session (first >>= next) :=
  of_bind_of left fun _ value _ _ => right value

/-- A step on a part of a larger state that holds the same session. -/
theorem of_within {wholeSession : τ → Session} {part : τ → σ} {replace : σ → τ → τ}
    {step : Step σ α} (sameBefore : ∀ whole, session (part whole) = wholeSession whole)
    (sameAfter : ∀ changed whole, wholeSession (replace changed whole) = session changed)
    (conducted : WellConducted session step) :
    WellConducted wholeSession (step.within part replace) := by
  intro whole
  have stretch := conducted (part whole)
  rw [sameBefore] at stretch
  rw [Step.outcome_within, sameAfter]
  exact stretch

/-- A process whose end is looked at: an interruption stops the step, and any other end leads to
a step in good order. -/
theorem of_process {start : Step σ ProcessEnd} {handle : ProcessEnd → Step σ α}
    (starts : StartsProcess session start)
    (stops : handle .interrupted = throw .interrupted)
    (goesOn : ∀ ending, ending ≠ .interrupted → WellConducted session (handle ending)) :
    WellConducted session (start >>= handle) := by
  intro state
  obtain ⟨process, after, started, advances, silent⟩ := starts state
  have printed : ∃ text, (session after).output = (session state).output ++ text ∧
      Console.IsWhole text := ⟨"", by rw [silent, String.append_empty], .empty⟩
  rw [Step.outcome_bind, started]
  by_cases interrupted : ((session state).outcomeAt 0).ending = .interrupted
  · simp only [interrupted, stops, Step.outcome_throw]
    refine ⟨⟨[process], advances, ?_⟩, printed, by simp⟩
    exact ⟨fun _ => ⟨0, Nat.one_pos, interrupted⟩, fun _ => rfl⟩
  · have first : Conduct (session state) (.ok () : Except Fault Unit) (session after) := by
      refine ⟨⟨[process], advances, ?_⟩, printed, by simp⟩
      constructor
      · intro stopped
        cases stopped
      · rintro ⟨index, inRange, wasInterrupted⟩
        obtain rfl : index = 0 := Nat.lt_one_iff.mp inRange
        exact absurd wasInterrupted interrupted
    exact first.trans (goesOn _ interrupted after)

end WellConducted

/-! ## Steps on a session -/

namespace Session

theorem startsProcess_run (process : StartedProcess) : StartsProcess id (run process) := by
  intro session
  exact ⟨process, session.start process, run_outcome process session, .start session process, rfl⟩

theorem wellConducted_debug (message : String) : WellConducted id (debug message) := by
  have silent := fun session : Session => Silent.addRecord session .debug message
  apply WellConducted.of_modify
  · intro session
    exact (silent session).toAdvances
  · intro session
    exact ⟨"", by rw [String.append_empty]; exact (silent session).output, .empty⟩

/-- Printing whole lines on the output. -/
theorem wellConducted_writeOutput {text : String} (whole : Console.IsWhole text) :
    WellConducted id (modify (·.writeOutput text) : Step Session PUnit) := by
  apply WellConducted.of_modify
  · intro session
    exact .of_same rfl rfl rfl
  · intro session
    exact ⟨text, rfl, whole⟩

theorem wellConducted_writeErrors (text : String) :
    WellConducted id (modify (·.writeErrors text) : Step Session PUnit) := by
  apply WellConducted.of_modify
  · intro session
    exact .of_same rfl rfl rfl
  · intro session
    exact ⟨"", String.append_empty.symm, .empty⟩

end Session

namespace Console

theorem wellConducted_printLiteral (mode : ConsoleMode) (texts : List String) :
    WellConducted id (printLiteral mode texts) :=
  Session.wellConducted_writeOutput (isWhole_literalLine mode texts)

theorem wellConducted_printMarked (mode : ConsoleMode) (texts : List String) :
    WellConducted id (printMarked mode texts) := by
  refine .of_bind (.of_ofForeign _) ?_
  intro line
  exact Session.wellConducted_writeErrors line

end Console

end PrologImage
