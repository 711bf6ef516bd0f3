import PrologImage.Build
import PrologImage.Proofs.Accord
import PrologImage.Proofs.Loader.Loading

/-!
Contract: two loaders seen side by side.

Owns: loaders in accord, and that loading, checking and saving with such loaders are steps in
accord when the requests name the same inputs and the same output.

Does not own: backends that are in accord (`Proofs.Interpreter.Accord`).
-/

namespace PrologImage

variable {σ τ : Type} {states : σ → τ → Prop} {leftVerbose rightVerbose : Bool}
  {left : Loader σ} {right : Loader τ}

/-- The same sources are loaded, and the states of the backends are beside each other. -/
structure Loading.Beside (states : σ → τ → Prop) (left : Loading σ) (right : Loading τ) : Prop where
  loaded : left.loaded = right.loaded
  backend : states left.backend right.backend

/-- A step of two backends, as a step of loading with each. -/
theorem Accord.of_backend {α β : Type} {values : α → β → Prop} {first : Step σ α}
    {second : Step τ β} (accord : Accord states values first second) :
    Accord (Loading.Beside states) values (Loading.ofBackend first) (Loading.ofBackend second) :=
  .of_within (fun _ _ beside => beside.backend)
    (fun _ _ beside _ _ changed => ⟨beside.loaded, changed⟩) accord

/-- Loaders that announce sources alike and whose backends answer alike, one asked with one
verbosity and the other with another. -/
structure Loader.InAccord (states : σ → τ → Prop) (leftVerbose rightVerbose : Bool)
    (left : Loader σ) (right : Loader τ) : Prop where
  announce : ∀ path before beside, states before beside →
    states (left.announce path before) (right.announce path beside)
  consult : ∀ sources, Accord states Eq (left.backend.consult sources leftVerbose)
    (right.backend.consult sources rightVerbose)
  saveImage : ∀ sources output options,
    Accord states Eq (left.backend.saveImage sources output options leftVerbose)
      (right.backend.saveImage sources output options rightVerbose)

namespace Loader.InAccord

variable (loaders : Loader.InAccord states leftVerbose rightVerbose left right)
include loaders

theorem load (path : Path) :
    Accord (Loading.Beside states) Eq (left.load path leftVerbose)
      (right.load path rightVerbose) := by
  rintro before beside ⟨sameLoaded, backends⟩
  have answered := loaders.consult (beside.loaded ++ [path]) _ _
    (loaders.announce path _ _ backends)
  rw [Loader.load_outcome, Loader.load_outcome, sameLoaded]
  rcases leftRan : (left.backend.consult (beside.loaded ++ [path]) leftVerbose).outcome
    (left.announce path before.backend) with ⟨leftAnswer, leftAfter⟩
  rcases rightRan : (right.backend.consult (beside.loaded ++ [path]) rightVerbose).outcome
    (right.announce path beside.backend) with ⟨rightAnswer, rightAfter⟩
  rw [leftRan, rightRan] at answered
  obtain ⟨answers, after⟩ := answered
  obtain rfl := answers.eq
  rcases leftAnswer with fault | (_ | diagnostic)
  · exact ⟨.fault fault, rfl, after⟩
  · exact ⟨.value rfl, rfl, after⟩
  · exact ⟨.value rfl, rfl, after⟩

theorem loadAll (paths : List Path) :
    Accord (Loading.Beside states) Eq (left.loadAll leftVerbose paths)
      (right.loadAll rightVerbose paths) := by
  induction paths with
  | nil => exact .of_pure rfl
  | cons path rest inductionHypothesis =>
      apply (loaders.load path).of_bind_same
      intro result
      split
      · exact inductionHypothesis
      · exact .of_pure rfl

theorem loadInputs (inputs : List Path) (leftOutput rightOutput : Option Path) :
    Accord (Loading.Beside states) Eq
      (Build.loadInputs left ⟨leftVerbose, inputs, leftOutput⟩)
      (Build.loadInputs right ⟨rightVerbose, inputs, rightOutput⟩) := by
  apply (loaders.loadAll inputs).of_bind_same
  intro result
  split
  · exact .of_throw _
  · exact .of_pure rfl

theorem precompile (inputs : List Path) (output : Option Path) (options : SaveOptions) :
    Accord (Loading.Beside states) Eq
      (Build.precompile left ⟨leftVerbose, inputs, output⟩ options)
      (Build.precompile right ⟨rightVerbose, inputs, output⟩ options) := by
  cases output with
  | none => exact .of_throw _
  | some output =>
      apply (loaders.loadInputs inputs (some output) (some output)).of_bind_same
      intro _
      apply Accord.of_get.of_bind
      intro before beside loading
      dsimp only
      rw [loading.loaded]
      apply (Accord.of_backend (loaders.saveImage beside.loaded output options)).of_bind_same
      intro answer
      cases answer with
      | some diagnostic => exact .of_throw _
      | none => exact .of_pure rfl

end Loader.InAccord

end PrologImage
