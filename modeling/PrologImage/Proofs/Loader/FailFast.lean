import Mathlib.Data.List.Infix
import PrologImage.Proofs.Loader.Record

/-!
Contract: the two actions ask in a fixed order and stop at the first error.

Owns: the calls that an action plans, the relation between planned calls and those that are made,
what the answers lead to, and the theorem that both actions make their calls in this way.

Does not own: what is announced between the calls (`Proofs.Loader.History`).
-/

namespace PrologImage

variable {σ α : Type}

/-- The calls that load sources one by one: each for all sources up to one of them. -/
def loadCalls (loaded : List Path) (verbose : Bool) (paths : List Path) : List Call :=
  paths.inits.tail.map fun first => .consult (loaded ++ first) verbose

theorem loadCalls_cons (loaded : List Path) (verbose : Bool) (path : Path) (rest : List Path) :
    loadCalls loaded verbose (path :: rest) =
      .consult (loaded ++ [path]) verbose :: loadCalls (loaded ++ [path]) verbose rest := by
  have startsEmpty : rest.inits = [] :: rest.inits.tail := by cases rest <;> simp
  simp only [loadCalls, List.inits_cons, List.tail_cons]
  rw [startsEmpty]
  simp [Function.comp_def]

/-- Planned calls are made in order, and the first whose answer is not free of errors is the last
one that is made. -/
inductive FailsFast : List Call → List (Call × Answer) → Prop
  | finished : FailsFast [] []
  | passed {call planned made} :
      FailsFast planned made → FailsFast (call :: planned) ((call, .ok none) :: made)
  | stopped {call planned answer} :
      answer ≠ .ok none → FailsFast (call :: planned) [(call, answer)]

/-- What answers lead to: the first that is not free of errors decides, and without one the action
has its result. -/
def conclusion (value : α) : List (Call × Answer) → Except Fault α
  | [] => .ok value
  | (_, .ok none) :: rest => conclusion value rest
  | (_, .ok (some diagnostic)) :: _ => .error (.reported (.notLoaded diagnostic))
  | (_, .error fault) :: _ => .error fault

theorem conclusion_eq_ok_iff (value : α) (made : List (Call × Answer)) :
    conclusion value made = .ok value ↔ ∀ each ∈ made, each.2 = .ok none := by
  induction made with
  | nil => simp [conclusion]
  | cons each rest inductionHypothesis =>
      obtain ⟨call, fault | (_ | diagnostic)⟩ := each
      · simp [conclusion]
      · simpa [conclusion] using inductionHypothesis
      · simp [conclusion]

/-- After answers free of errors the later ones decide. -/
theorem conclusion_append_of_ok {made : List (Call × Answer)}
    (passed : conclusion () made = .ok ()) (value : α) (later : List (Call × Answer)) :
    conclusion value (made ++ later) = conclusion value later := by
  induction made with
  | nil => rfl
  | cons each rest inductionHypothesis =>
      obtain ⟨call, fault | (_ | diagnostic)⟩ := each
      · cases passed
      · exact inductionHypothesis passed
      · cases passed

/-- What stops one action stops any other one with the same answers. -/
theorem conclusion_eq_error {made : List (Call × Answer)} {fault : Fault}
    (stopped : conclusion () made = .error fault) (value : α) :
    conclusion value made = .error fault := by
  induction made with
  | nil => cases stopped
  | cons each rest inductionHypothesis =>
      obtain ⟨call, other | (_ | diagnostic)⟩ := each
      · cases stopped
        rfl
      · exact inductionHypothesis stopped
      · cases stopped
        rfl

namespace FailsFast

variable {planned later : List Call} {made rest : List (Call × Answer)}

theorem single (call : Call) (answer : Answer) : FailsFast [call] [(call, answer)] := by
  rcases answer with fault | (_ | diagnostic)
  · exact .stopped (by simp)
  · exact .passed .finished
  · exact .stopped (by simp)

/-- Calls without an error are followed by the later ones. -/
theorem append (first : FailsFast planned made) (passed : conclusion () made = .ok ())
    (second : FailsFast later rest) : FailsFast (planned ++ later) (made ++ rest) := by
  induction first with
  | finished => exact second
  | passed _ inductionHypothesis => exact .passed (inductionHypothesis passed)
  | stopped failed =>
      have clean := (conclusion_eq_ok_iff () _).mp passed _ (List.mem_singleton.mpr rfl)
      exact absurd clean failed

/-- After an error none of the later calls is made. -/
theorem append_of_error {fault : Fault} (first : FailsFast planned made)
    (stopped : conclusion () made = .error fault) : FailsFast (planned ++ later) made := by
  induction first with
  | finished => cases stopped
  | passed _ inductionHypothesis => exact .passed (inductionHypothesis stopped)
  | stopped failed => exact .stopped failed

end FailsFast

/-! ## Loading the inputs -/

namespace Build

/-- What the result for a list of sources means for an action. -/
def accept : Option LoadResult → Except Fault Unit
  | some { diagnostic := some diagnostic, .. } => .error (.reported (.notLoaded diagnostic))
  | _ => .ok ()

theorem loadInputs_outcome (loader : Loader σ) (request : Request) (loading : Loading σ) :
    (loadInputs loader request).outcome loading =
      match (loader.loadAll request.verbose request.inputs).outcome loading with
      | (result, after) => (result >>= accept, after) := by
  rw [loadInputs, Step.outcome_bind]
  rcases (loader.loadAll request.verbose request.inputs).outcome loading with
    ⟨fault | (_ | ⟨path, _ | diagnostic⟩), after⟩ <;> rfl

end Build

section Actions

variable (backend : Backend σ) (reporter : Option (Path → σ → σ))

/-- Loading sources makes the calls for them up to the first error. -/
theorem loadAll_failsFast (verbose : Bool) (paths : List Path)
    (loading : Loading (Recorded σ)) :
    ∃ result after made,
      ((Loader.recorded backend reporter).loadAll verbose paths).outcome loading =
        (result, after) ∧
      callsOf after.backend.events = callsOf loading.backend.events ++ made ∧
      FailsFast (loadCalls loading.loaded verbose paths) made ∧
      (result >>= Build.accept) = conclusion () made ∧
      (conclusion () made = .ok () → after.loaded = loading.loaded ++ paths) := by
  induction paths generalizing loading with
  | nil => exact ⟨.ok none, loading, [], rfl, by simp, .finished, rfl, by simp⟩
  | cons path rest inductionHypothesis =>
      obtain ⟨answer, state, loaded⟩ :=
        Loader.load_recorded backend reporter path verbose loading
      rw [loadCalls_cons, Loader.loadAll, Step.outcome_bind, loaded]
      rcases answer with fault | (_ | diagnostic)
      · refine ⟨_, _, [(.consult (loading.loaded ++ [path]) verbose, .error fault)], rfl, ?_,
          .stopped (by simp), rfl, ?_⟩
        · simp
        · intro passed
          cases passed
      · obtain ⟨result, after, made, ended, calls, inOrder, concluded, grown⟩ :=
          inductionHypothesis ⟨loading.loaded ++ [path], ⟨state, loading.backend.events ++
            loadEvents reporter loading.loaded path verbose (.ok none)⟩⟩
        refine ⟨result, after, (.consult (loading.loaded ++ [path]) verbose, .ok none) :: made,
          ended, ?_, .passed inOrder, concluded, ?_⟩
        · simpa using calls
        · intro passed
          simpa using grown passed
      · refine ⟨_, _, [(.consult (loading.loaded ++ [path]) verbose, .ok (some diagnostic))],
          rfl, ?_, .stopped (by simp), rfl, ?_⟩
        · simp
        · intro passed
          cases passed

/-- Checking sources makes the calls for them, and its end is what their answers lead to. -/
theorem loadInputs_failsFast (request : Request) (loading : Loading (Recorded σ)) :
    ∃ after made,
      (Build.loadInputs (Loader.recorded backend reporter) request).outcome loading =
        (conclusion () made, after) ∧
      callsOf after.backend.events = callsOf loading.backend.events ++ made ∧
      FailsFast (loadCalls loading.loaded request.verbose request.inputs) made ∧
      (conclusion () made = .ok () → after.loaded = loading.loaded ++ request.inputs) := by
  obtain ⟨result, after, made, ended, calls, inOrder, concluded, grown⟩ :=
    loadAll_failsFast backend reporter request.verbose request.inputs loading
  refine ⟨after, made, ?_, calls, inOrder, grown⟩
  rw [Build.loadInputs_outcome, ended, ← concluded]

/-- Saving the image of loaded inputs makes one more call, for all sources loaded by then. -/
theorem precompile_failsFast (request : Request) (options : SaveOptions) {output : Path}
    (asked : request.output = some output) (loading : Loading (Recorded σ)) :
    ∃ after made,
      (Build.precompile (Loader.recorded backend reporter) request options).outcome loading =
        (conclusion output made, after) ∧
      callsOf after.backend.events = callsOf loading.backend.events ++ made ∧
      FailsFast (loadCalls loading.loaded request.verbose request.inputs ++
        [.saveImage (loading.loaded ++ request.inputs) output options request.verbose]) made := by
  obtain ⟨middle, made, loaded, calls, inOrder, grown⟩ :=
    loadInputs_failsFast backend reporter request loading
  simp only [Build.precompile, asked, Step.outcome_bind, loaded]
  cases concluded : conclusion () made with
  | error fault =>
      refine ⟨middle, made, ?_, calls, inOrder.append_of_error concluded⟩
      rw [conclusion_eq_error concluded output]
  | ok _ =>
      obtain ⟨answer, state, saved⟩ : ∃ answer state,
          (backend.saveImage (loading.loaded ++ request.inputs) output options
            request.verbose).outcome middle.backend.state = (answer, state) := ⟨_, _, rfl⟩
      let save : Call :=
        .saveImage (loading.loaded ++ request.inputs) output options request.verbose
      let final : Loading (Recorded σ) :=
        ⟨loading.loaded ++ request.inputs,
          ⟨state, middle.backend.events ++ [.asked save answer]⟩⟩
      refine ⟨final, made ++ [(save, answer)], ?_, ?_, inOrder.append concluded (.single _ _)⟩
      · rw [conclusion_append_of_ok concluded]
        simp only [Step.outcome_get, Loading.ofBackend, Step.outcome_within, Loader.recorded,
          Loader.ofReporter, Backend.recorded, Recorded.noting_outcome, grown concluded, saved]
        rcases answer with fault | (_ | diagnostic) <;> rfl
      · rw [callsOf_append, calls, List.append_assoc]
        rfl

/-- Both actions fail fast, for any backend and any loader, fresh or used. Without an output,
nothing at all happens. Otherwise the sources are loaded one by one on top of those loaded before,
the image is saved after all of them, and the first answer that is not free of errors ends the
action with this error. A check never saves. The record that shows this changes nothing. -/
theorem actions_failFast (request : Request) (options : SaveOptions)
    (loading : Loading (Recorded σ)) :
    let loader := Loader.recorded backend reporter
    let plain := Loader.ofReporter backend reporter
    (match request.output with
      | none =>
          (Build.precompile loader request options).outcome loading =
            (.error (.reported Build.outputMissing), loading)
      | some output =>
          ∃ after made,
            (Build.precompile loader request options).outcome loading =
              (conclusion output made, after) ∧
            callsOf after.backend.events = callsOf loading.backend.events ++ made ∧
            FailsFast (loadCalls loading.loaded request.verbose request.inputs ++
              [.saveImage (loading.loaded ++ request.inputs) output options request.verbose])
              made) ∧
    (∃ after made,
      (Build.syntaxCheck loader request).outcome loading = (conclusion () made, after) ∧
      callsOf after.backend.events = callsOf loading.backend.events ++ made ∧
      FailsFast (loadCalls loading.loaded request.verbose request.inputs) made) ∧
    Mirrors (Build.precompile loader request options) (Build.precompile plain request options) ∧
    Mirrors (Build.syntaxCheck loader request) (Build.syntaxCheck plain request) := by
  refine ⟨?_, ?_, mirrors_precompile backend reporter request options,
    mirrors_loadInputs backend reporter request⟩
  · split
    · rename_i missing
      simp only [Build.precompile, missing, Step.outcome_throw]
    · rename_i output asked
      exact precompile_failsFast backend reporter request options asked loading
  · obtain ⟨after, made, checked, calls, inOrder, _⟩ :=
      loadInputs_failsFast backend reporter request loading
    exact ⟨after, made, checked, calls, inOrder⟩

end Actions

end PrologImage
