import PrologImage.Proofs.Loader.Loading

/-!
Contract: a record of what a loader announces and of what its backend is asked and answers.

Owns: calls of a backend as data, the events of a run, a backend and a reporter that note each
event next to their own state, what loading one more source adds to the record, and the lemmas
that keeping a record changes nothing else.

Does not own: which calls an action makes (`Proofs.Loader.FailFast`), and what the record says
about the sources loaded so far (`Proofs.Loader.History`).
-/

namespace PrologImage

variable {σ α β : Type}

/-! ## Events -/

/-- What a backend can be asked. -/
inductive Call where
  | consult (sources : List Path) (verbose : Bool)
  | saveImage (sources : List Path) (output : Path) (options : SaveOptions) (verbose : Bool)

/-- What a backend does with a call: it has an error to report or none, or stops with a fault. -/
abbrev Answer := Except Fault (Option Diagnostic)

/-- What can be seen of a loader from outside. -/
inductive Event where
  | announced (path : Path)
  | asked (call : Call) (answer : Answer)

/-- The call of an event and its answer, unless it is an announcement. -/
def Event.call? : Event → Option (Call × Answer)
  | .announced _ => none
  | .asked call answer => some (call, answer)

/-- The calls among events, each with its answer, in order. -/
def callsOf (events : List Event) : List (Call × Answer) :=
  events.filterMap Event.call?

@[simp] theorem callsOf_append (first second : List Event) :
    callsOf (first ++ second) = callsOf first ++ callsOf second :=
  List.filterMap_append

/-! ## Keeping a record -/

/-- The state of a backend, and what has happened so far. -/
structure Recorded (σ : Type) where
  state : σ
  events : List Event := []

/-- A step of a backend that also notes the call and its answer. -/
def Recorded.noting (call : Call) (step : Step σ (Option Diagnostic)) :
    Step (Recorded σ) (Option Diagnostic) :=
  ExceptT.mk fun recorded =>
    match step.outcome recorded.state with
    | (answer, state) => (answer, ⟨state, recorded.events ++ [.asked call answer]⟩)

theorem Recorded.noting_outcome (call : Call) (step : Step σ (Option Diagnostic))
    (recorded : Recorded σ) :
    (noting call step).outcome recorded =
      match step.outcome recorded.state with
      | (answer, state) => (answer, ⟨state, recorded.events ++ [.asked call answer]⟩) := rfl

/-- A backend that notes its calls and its answers. -/
def Backend.recorded (backend : Backend σ) : Backend (Recorded σ) where
  consult sources verbose :=
    Recorded.noting (.consult sources verbose) (backend.consult sources verbose)
  saveImage sources output options verbose :=
    Recorded.noting (.saveImage sources output options verbose)
      (backend.saveImage sources output options verbose)

/-- A reporter that notes what it announces. -/
def Recorded.reporting (report : Path → σ → σ) (path : Path) (recorded : Recorded σ) :
    Recorded σ :=
  ⟨report path recorded.state, recorded.events ++ [.announced path]⟩

/-- The loader of a backend. With a reporter, each path is reported before it is loaded. -/
def Loader.ofReporter (backend : Backend σ) (reporter : Option (Path → σ → σ)) : Loader σ where
  backend := backend
  announce := reporter.getD fun _ state => state

/-- The loader of a backend whose calls, answers and announcements are noted. -/
def Loader.recorded (backend : Backend σ) (reporter : Option (Path → σ → σ)) :
    Loader (Recorded σ) :=
  .ofReporter backend.recorded (reporter.map Recorded.reporting)

/-- The announcement of a path, when there is a reporter. -/
def announcement (reporter : Option (Path → σ → σ)) (path : Path) : List Event :=
  if reporter.isSome then [.announced path] else []

@[simp] theorem callsOf_announcement (reporter : Option (Path → σ → σ)) (path : Path) :
    callsOf (announcement reporter path) = [] := by
  unfold announcement
  split <;> rfl

/-- What happens when one more source is loaded on top of others. -/
def loadEvents (reporter : Option (Path → σ → σ)) (loaded : List Path) (path : Path)
    (verbose : Bool) (answer : Answer) : List Event :=
  announcement reporter path ++ [.asked (.consult (loaded ++ [path]) verbose) answer]

@[simp] theorem callsOf_loadEvents (reporter : Option (Path → σ → σ)) (loaded : List Path)
    (path : Path) (verbose : Bool) (answer : Answer) :
    callsOf (loadEvents reporter loaded path verbose answer) =
      [(.consult (loaded ++ [path]) verbose, answer)] := by
  unfold loadEvents
  rw [callsOf_append, callsOf_announcement]
  rfl

/-! ## The record of a load -/

namespace Loader

variable (backend : Backend σ) (reporter : Option (Path → σ → σ))

theorem announce_recorded (path : Path) (recorded : Recorded σ) :
    (Loader.recorded backend reporter).announce path recorded =
      ⟨(ofReporter backend reporter).announce path recorded.state,
        recorded.events ++ announcement reporter path⟩ := by
  cases reporter with
  | none => simp [Loader.recorded, ofReporter, announcement]
  | some report => rfl

/-- Loading one more source notes exactly its announcement and one call. -/
theorem load_recorded (path : Path) (verbose : Bool) (loading : Loading (Recorded σ)) :
    ∃ answer state,
      let noted : Recorded σ := ⟨state,
        loading.backend.events ++ loadEvents reporter loading.loaded path verbose answer⟩
      ((Loader.recorded backend reporter).load path verbose).outcome loading =
        match answer with
        | .ok none => (.ok { path }, ⟨loading.loaded ++ [path], noted⟩)
        | .ok (some diagnostic) =>
            (.ok { path, diagnostic := some diagnostic }, ⟨loading.loaded, noted⟩)
        | .error fault => (.error fault, ⟨loading.loaded, noted⟩) := by
  let announced := (Loader.recorded backend reporter).announce path loading.backend
  obtain ⟨answer, state, asked⟩ : ∃ answer state,
      (backend.consult (loading.loaded ++ [path]) verbose).outcome announced.state =
        (answer, state) := ⟨_, _, rfl⟩
  refine ⟨answer, state, ?_⟩
  have noted : ((Loader.recorded backend reporter).backend.consult (loading.loaded ++ [path])
      verbose).outcome announced = (answer, ⟨state, loading.backend.events ++
        loadEvents reporter loading.loaded path verbose answer⟩) := by
    change (Recorded.noting _ _).outcome announced = _
    rw [Recorded.noting_outcome, asked, loadEvents, ← List.append_assoc]
    simp only [announced, announce_recorded]
  rw [load_outcome, noted]
  rcases answer with fault | (_ | diagnostic) <;> rfl

end Loader

/-! ## The record changes nothing -/

/-- A loading without the record. -/
def Loading.withoutRecord (loading : Loading (Recorded σ)) : Loading σ :=
  ⟨loading.loaded, loading.backend.state⟩

/-- A step that keeps a record ends like another one, in the same state but for the record. -/
def Mirrors (recording : Step (Loading (Recorded σ)) α) (plain : Step (Loading σ) α) : Prop :=
  ∀ loading, plain.outcome loading.withoutRecord =
    ((recording.outcome loading).1, (recording.outcome loading).2.withoutRecord)

namespace Mirrors

theorem of_pure (value : α) :
    Mirrors (pure value : Step (Loading (Recorded σ)) α) (pure value) :=
  fun _ => rfl

theorem of_throw (fault : Fault) :
    Mirrors (throw fault : Step (Loading (Recorded σ)) α) (throw fault) :=
  fun _ => rfl

theorem of_bind {recording : Step (Loading (Recorded σ)) α} {plain : Step (Loading σ) α}
    {recordingNext : α → Step (Loading (Recorded σ)) β} {plainNext : α → Step (Loading σ) β}
    (first : Mirrors recording plain)
    (next : ∀ value, Mirrors (recordingNext value) (plainNext value)) :
    Mirrors (recording >>= recordingNext) (plain >>= plainNext) := by
  intro loading
  rw [Step.outcome_bind, Step.outcome_bind, first loading]
  rcases recording.outcome loading with ⟨fault | value, after⟩
  · rfl
  · exact next value after

end Mirrors

section Mirrored

variable (backend : Backend σ) (reporter : Option (Path → σ → σ))

theorem mirrors_load (path : Path) (verbose : Bool) :
    Mirrors ((Loader.recorded backend reporter).load path verbose)
      ((Loader.ofReporter backend reporter).load path verbose) := by
  intro loading
  rw [Loader.load_outcome, Loader.load_outcome, Loader.announce_recorded]
  simp only [Loader.recorded, Loader.ofReporter, Backend.recorded, Recorded.noting_outcome,
    Loading.withoutRecord]
  rcases (backend.consult (loading.loaded ++ [path]) verbose).outcome _ with
    ⟨fault | (_ | diagnostic), state⟩ <;> rfl

theorem mirrors_loadAll (verbose : Bool) (paths : List Path) :
    Mirrors ((Loader.recorded backend reporter).loadAll verbose paths)
      ((Loader.ofReporter backend reporter).loadAll verbose paths) := by
  induction paths with
  | nil => exact .of_pure none
  | cons path rest inductionHypothesis =>
      apply Mirrors.of_bind (mirrors_load backend reporter path verbose)
      intro result
      split
      · exact inductionHypothesis
      · exact .of_pure (some result)

theorem mirrors_loadInputs (request : Request) :
    Mirrors (Build.loadInputs (Loader.recorded backend reporter) request)
      (Build.loadInputs (Loader.ofReporter backend reporter) request) := by
  apply Mirrors.of_bind (mirrors_loadAll backend reporter request.verbose request.inputs)
  intro result
  split
  · exact .of_throw _
  · exact .of_pure ()

theorem mirrors_precompile (request : Request) (options : SaveOptions) :
    Mirrors (Build.precompile (Loader.recorded backend reporter) request options)
      (Build.precompile (Loader.ofReporter backend reporter) request options) := by
  unfold Build.precompile
  cases request.output with
  | none => exact .of_throw _
  | some output =>
      apply Mirrors.of_bind (mirrors_loadInputs backend reporter request)
      intro _ loading
      simp only [Step.outcome_bind, Step.outcome_get, Loading.ofBackend, Step.outcome_within,
        Loader.recorded, Loader.ofReporter, Backend.recorded, Recorded.noting_outcome,
        Loading.withoutRecord]
      rcases (backend.saveImage loading.loaded output options request.verbose).outcome
        loading.backend.state with ⟨fault | (_ | diagnostic), state⟩ <;> rfl

end Mirrored

end PrologImage
