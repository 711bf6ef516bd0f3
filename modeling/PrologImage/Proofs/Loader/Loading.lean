import PrologImage.Build

/-!
Contract: what loading does, for any backend.

Owns: the outcome of loading one source and a list of sources in terms of the answers of the
backend, and when an action gets past its inputs.

Does not own: what an interpreter answers (`Proofs.Interpreter.Question`).
-/

namespace PrologImage

variable {σ : Type}

namespace Loader

/-- A source is announced first; it counts as loaded exactly when the backend has no error. -/
theorem load_outcome (loader : Loader σ) (path : Path) (verbose : Bool) (loading : Loading σ) :
    (loader.load path verbose).outcome loading =
      match (loader.backend.consult (loading.loaded ++ [path]) verbose).outcome
          (loader.announce path loading.backend) with
      | (.ok none, backend) => (.ok { path }, ⟨loading.loaded ++ [path], backend⟩)
      | (.ok (some diagnostic), backend) =>
          (.ok { path, diagnostic := some diagnostic }, ⟨loading.loaded, backend⟩)
      | (.error fault, backend) => (.error fault, ⟨loading.loaded, backend⟩) := by
  simp only [load, Loading.ofBackend, Step.outcome_bind, Step.outcome_modify, Step.outcome_get,
    Step.outcome_within]
  rcases (loader.backend.consult (loading.loaded ++ [path]) verbose).outcome
    (loader.announce path loading.backend) with ⟨fault | (_ | diagnostic), backend⟩ <;> rfl

/-- The sources after one with an error are neither announced nor loaded. -/
theorem loadAll_cons_outcome (loader : Loader σ) (verbose : Bool) (path : Path)
    (rest : List Path) (loading : Loading σ) :
    (loader.loadAll verbose (path :: rest)).outcome loading =
      match (loader.backend.consult (loading.loaded ++ [path]) verbose).outcome
          (loader.announce path loading.backend) with
      | (.ok none, backend) =>
          (loader.loadAll verbose rest).outcome ⟨loading.loaded ++ [path], backend⟩
      | (.ok (some diagnostic), backend) =>
          (.ok (some { path, diagnostic := some diagnostic }), ⟨loading.loaded, backend⟩)
      | (.error fault, backend) => (.error fault, ⟨loading.loaded, backend⟩) := by
  simp only [loadAll, Step.outcome_bind, load_outcome]
  rcases (loader.backend.consult (loading.loaded ++ [path]) verbose).outcome
    (loader.announce path loading.backend) with ⟨fault | (_ | diagnostic), backend⟩ <;> rfl

/-- A result that stops a list has an error to show. -/
theorem diagnostic_of_loadAll {loader : Loader σ} {verbose : Bool} {paths : List Path}
    {loading after : Loading σ} {result : LoadResult}
    (stopped : (loader.loadAll verbose paths).outcome loading = (.ok (some result), after)) :
    ∃ diagnostic, result.diagnostic = some diagnostic := by
  induction paths generalizing loading with
  | nil => cases stopped
  | cons path rest inductionHypothesis =>
      rw [loadAll_cons_outcome] at stopped
      split at stopped
      · exact inductionHypothesis stopped
      · cases stopped
        exact ⟨_, rfl⟩
      · cases stopped

end Loader

namespace Build

theorem loadInputs_eq_ok_iff (loader : Loader σ) (request : Request)
    (loading after : Loading σ) :
    (loadInputs loader request).outcome loading = (.ok (), after) ↔
      (loader.loadAll request.verbose request.inputs).outcome loading = (.ok none, after) := by
  rw [loadInputs, Step.outcome_bind]
  cases ended : (loader.loadAll request.verbose request.inputs).outcome loading with
  | mk result final =>
      rcases result with fault | (_ | result)
      · simp
      · simp
      · obtain ⟨diagnostic, shown⟩ := Loader.diagnostic_of_loadAll ended
        obtain ⟨path, _⟩ := result
        cases shown
        simp

/-- An image is saved when an output is asked for, the inputs load, and the backend saves it. -/
theorem precompile_eq_ok_iff (loader : Loader σ) (request : Request) (options : SaveOptions)
    (loading after : Loading σ) (path : Path) :
    (precompile loader request options).outcome loading = (.ok path, after) ↔
      request.output = some path ∧
      ∃ middle, (loadInputs loader request).outcome loading = (.ok (), middle) ∧
      ∃ backend,
        (loader.backend.saveImage middle.loaded path options request.verbose).outcome
          middle.backend = (.ok none, backend) ∧
        { middle with backend } = after := by
  unfold precompile
  cases request.output with
  | none => simp
  | some output =>
      simp only [Step.outcome_bind_eq_ok_iff, Step.outcome_get, Loading.ofBackend,
        Step.outcome_within_eq_ok_iff]
      constructor
      · rintro ⟨⟨⟩, middle, passed, _, _, ⟨⟩, _ | diagnostic, _, ⟨backend, saved, rfl⟩, ended⟩
        · cases ended
          exact ⟨rfl, middle, passed, backend, saved, rfl⟩
        · cases ended
      · rintro ⟨same, middle, passed, backend, saved, rfl⟩
        cases same
        exact ⟨(), middle, passed, middle, middle, rfl, none, _, ⟨backend, saved, rfl⟩, rfl⟩

end Build

end PrologImage
