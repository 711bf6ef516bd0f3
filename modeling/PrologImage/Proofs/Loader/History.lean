import PrologImage.Proofs.Loader.FailFast

/-!
Contract: the sources that a loader keeps are the ones that its backend accepted.

Owns: the operations on a loader, sequences of them that go on after a failure, the sources that a
record shows as accepted, and the theorem that relates the two at every point of a sequence.

A history is a stretch of a record that fits a loader: each load is for the sources kept at that
moment and one more, and only an answer free of errors keeps this one.
-/

namespace PrologImage

variable {σ : Type}

/-! ## Operations -/

/-- What can be done with a loader. -/
inductive Operation where
  | load (path : Path) (verbose : Bool)
  | loadAll (paths : List Path) (verbose : Bool)
  | syntaxCheck (request : Request)
  | precompile (request : Request) (options : SaveOptions)

namespace Operation

def verbose : Operation → Bool
  | .load _ verbose | .loadAll _ verbose => verbose
  | .syntaxCheck request | .precompile request _ => request.verbose

/-- The sources that an operation is asked to load. -/
def paths : Operation → List Path
  | .load path _ => [path]
  | .loadAll paths _ => paths
  | .syntaxCheck request | .precompile request _ => request.inputs

end Operation

/-- What an operation leaves behind, also when it fails. -/
def Loader.after (loader : Loader σ) (loading : Loading σ) : Operation → Loading σ
  | .load path verbose => ((loader.load path verbose).outcome loading).2
  | .loadAll paths verbose => ((loader.loadAll verbose paths).outcome loading).2
  | .syntaxCheck request => ((Build.syntaxCheck loader request).outcome loading).2
  | .precompile request options => ((Build.precompile loader request options).outcome loading).2

/-- What a sequence of operations leaves behind. -/
def Loader.afterAll (loader : Loader σ) (loading : Loading σ) (operations : List Operation) :
    Loading σ :=
  operations.foldl loader.after loading

/-! ## Operations as single loads -/

/-- Loads of sources, one after the other. -/
def loads (paths : List Path) (verbose : Bool) : List Operation :=
  paths.map (.load · verbose)

/-- Loading a list is loading its first sources one by one. -/
theorem after_loadAll (loader : Loader σ) (verbose : Bool) (paths : List Path)
    (loading : Loading σ) :
    ∃ count ≤ paths.length, loader.after loading (.loadAll paths verbose) =
      loader.afterAll loading (loads (paths.take count) verbose) := by
  induction paths generalizing loading with
  | nil => exact ⟨0, Nat.le_refl 0, rfl⟩
  | cons path rest inductionHypothesis =>
      have first : loader.afterAll loading (loads ((path :: rest).take 1) verbose) =
          ((loader.load path verbose).outcome loading).2 := rfl
      simp only [Loader.after, Loader.loadAll, Step.outcome_bind]
      rcases ended : (loader.load path verbose).outcome loading with ⟨fault | result, middle⟩
      · exact ⟨1, by simp, by rw [first, ended]⟩
      · dsimp only
        split
        · obtain ⟨count, bound, later⟩ := inductionHypothesis middle
          refine ⟨count + 1, by simpa using bound, ?_⟩
          change loader.after middle (.loadAll rest verbose) = loader.afterAll
            ((loader.load path verbose).outcome loading).2 (loads (rest.take count) verbose)
          rw [later, ended]
        · exact ⟨1, by simp, by rw [first, ended]; rfl⟩

theorem after_syntaxCheck (loader : Loader σ) (request : Request) (loading : Loading σ) :
    loader.after loading (.syntaxCheck request) =
      loader.after loading (.loadAll request.inputs request.verbose) := by
  change ((Build.loadInputs loader request).outcome loading).2 = _
  rw [Build.loadInputs_outcome]
  rfl

/-- Every operation loads its first sources one by one, and at most one save comes after them. -/
theorem after_eq_loads (backend : Backend σ) (reporter : Option (Path → σ → σ))
    (loading : Loading (Recorded σ)) (operation : Operation) :
    let loader := Loader.recorded backend reporter
    ∃ count ≤ operation.paths.length,
      let loaded := loader.afterAll loading
        (loads (operation.paths.take count) operation.verbose)
      ∃ state saves,
        loader.after loading operation =
          ⟨loaded.loaded, ⟨state, loaded.backend.events ++ saves⟩⟩ ∧
        (saves = [] ∨ ∃ output options answer, saves =
          [.asked (.saveImage loaded.loaded output options operation.verbose) answer]) := by
  intro loader
  cases operation with
  | load path verbose =>
      exact ⟨1, Nat.le_refl 1, _, [], by rw [List.append_nil]; rfl, Or.inl rfl⟩
  | loadAll paths verbose =>
      obtain ⟨count, bound, ended⟩ := after_loadAll loader verbose paths loading
      exact ⟨count, bound, _, [], by rw [ended, List.append_nil]; rfl, Or.inl rfl⟩
  | syntaxCheck request =>
      obtain ⟨count, bound, ended⟩ :=
        after_loadAll loader request.verbose request.inputs loading
      rw [after_syntaxCheck]
      exact ⟨count, bound, _, [], by rw [ended, List.append_nil]; rfl, Or.inl rfl⟩
  | precompile request options =>
      cases asked : request.output with
      | none =>
          refine ⟨0, Nat.zero_le _, loading.backend.state, [], ?_, Or.inl rfl⟩
          simp only [Loader.after, Build.precompile, asked, Step.outcome_throw, List.append_nil]
          rfl
      | some output =>
          obtain ⟨count, bound, ended⟩ :=
            after_loadAll loader request.verbose request.inputs loading
          rw [← after_syntaxCheck] at ended
          refine ⟨count, bound, ?_⟩
          simp only [Operation.paths, Operation.verbose, ← ended]
          simp only [Loader.after, Build.syntaxCheck, Build.precompile, asked, Step.outcome_bind]
          rcases (Build.loadInputs loader request).outcome loading with ⟨fault | _, middle⟩
          · exact ⟨_, [], by rw [List.append_nil], Or.inl rfl⟩
          · obtain ⟨answer, state, saved⟩ : ∃ answer state,
                (backend.saveImage middle.loaded output options request.verbose).outcome
                  middle.backend.state = (answer, state) := ⟨_, _, rfl⟩
            refine ⟨state, [.asked (.saveImage middle.loaded output options request.verbose)
              answer], ?_, Or.inr ⟨output, options, answer, rfl⟩⟩
            simp only [Step.outcome_get, Loading.ofBackend, Step.outcome_within, loader,
              Loader.recorded, Loader.ofReporter, Backend.recorded, Recorded.noting_outcome, saved]
            rcases answer with fault | (_ | diagnostic) <;> rfl

/-! ## Accepted sources -/

/-- The source that an event adds: the last one of a call to load without an error. -/
def Event.accepted? : Event → Option Path
  | .asked (.consult sources _) (.ok none) => sources.getLast?
  | _ => none

/-- The last sources of the calls to load that were answered without an error, in order. -/
def accepted (events : List Event) : List Path :=
  events.filterMap Event.accepted?

@[simp] theorem accepted_append (first second : List Event) :
    accepted (first ++ second) = accepted first ++ accepted second :=
  List.filterMap_append

@[simp] theorem accepted_announcement (reporter : Option (Path → σ → σ)) (path : Path) :
    accepted (announcement reporter path) = [] := by
  unfold announcement
  split <;> rfl

/-- A load adds its source exactly when there is no error. -/
theorem accepted_loadEvents (reporter : Option (Path → σ → σ)) (loaded : List Path) (path : Path)
    (verbose : Bool) (answer : Answer) :
    accepted (loadEvents reporter loaded path verbose answer) =
      match answer with
      | .ok none => [path]
      | _ => [] := by
  rw [loadEvents, accepted_append, accepted_announcement]
  rcases answer with fault | (_ | diagnostic)
  · rfl
  · simp [accepted, Event.accepted?]
  · rfl

/-! ## Histories -/

/-- A stretch of a record from some kept sources to others. The loads in it are of the given kind. -/
inductive History (reporter : Option (Path → σ → σ)) (Kind : Path → Bool → Prop) :
    List Path → List Event → List Path → Prop
  | idle {loaded} : History reporter Kind loaded [] loaded
  | load {loaded path verbose answer events final} :
      Kind path verbose →
      History reporter Kind
        (loaded ++ accepted (loadEvents reporter loaded path verbose answer)) events final →
      History reporter Kind loaded
        (loadEvents reporter loaded path verbose answer ++ events) final
  | save {loaded sources output options verbose answer events final} :
      History reporter Kind loaded events final →
      History reporter Kind loaded
        (.asked (.saveImage sources output options verbose) answer :: events) final

namespace History

variable {reporter : Option (Path → σ → σ)} {Kind Other : Path → Bool → Prop}
  {loaded middle final : List Path} {events later : List Event}

theorem append (first : History reporter Kind loaded events middle)
    (second : History reporter Kind middle later final) :
    History reporter Kind loaded (events ++ later) final := by
  induction first with
  | idle => exact second
  | load kind _ inductionHypothesis =>
      rw [List.append_assoc]
      exact .load kind (inductionHypothesis second)
  | save _ inductionHypothesis => exact .save (inductionHypothesis second)

theorem mono (history : History reporter Kind loaded events final)
    (weaker : ∀ path verbose, Kind path verbose → Other path verbose) :
    History reporter Other loaded events final := by
  induction history with
  | idle => exact .idle
  | load kind _ inductionHypothesis => exact .load (weaker _ _ kind) inductionHypothesis
  | save _ inductionHypothesis => exact .save inductionHypothesis

/-- The kept sources grow by the accepted ones. -/
theorem final_eq (history : History reporter Kind loaded events final) :
    final = loaded ++ accepted events := by
  induction history with
  | idle => simp [accepted]
  | load _ _ inductionHypothesis =>
      rw [inductionHypothesis, accepted_append, List.append_assoc]
  | save _ inductionHypothesis =>
      rw [inductionHypothesis]
      rfl

/-- A call in a load and what follows it is the one of this load, or it comes later. -/
theorem eq_or_later_of_split {path : Path} {flag verbose : Bool} {given answer : Answer}
    {sources : List Path} {earlier after : List Event}
    (split : loadEvents reporter loaded path flag given ++ events =
      earlier ++ .asked (.consult sources verbose) answer :: after) :
    (earlier = announcement reporter path ∧ sources = loaded ++ [path] ∧ verbose = flag) ∨
      ∃ between, earlier = loadEvents reporter loaded path flag given ++ between ∧
        events = between ++ .asked (.consult sources verbose) answer :: after := by
  unfold loadEvents announcement at *
  cases reporter with
  | none =>
      rcases earlier with _ | ⟨first, between⟩
      · obtain ⟨⟨⟨same, flags⟩, _⟩, _⟩ := by simpa using split
        exact Or.inl ⟨rfl, same.symm, flags.symm⟩
      · obtain ⟨same, rest⟩ := by simpa using split
        exact Or.inr ⟨between, by simp [same], rest⟩
  | some report =>
      rcases earlier with _ | ⟨first, _ | ⟨second, between⟩⟩
      · simp at split
      · obtain ⟨announced, ⟨⟨same, flags⟩, _⟩, _⟩ := by simpa using split
        exact Or.inl ⟨by simp [announced], same.symm, flags.symm⟩
      · obtain ⟨announced, same, rest⟩ := by simpa using split
        exact Or.inr ⟨between, by simp [announced, same], rest⟩

/-- Each call to load is for the sources kept just before it and one more, which has just been
announced. -/
theorem of_consult (history : History reporter Kind loaded events final)
    {earlier after : List Event} {sources : List Path} {verbose : Bool} {answer : Answer}
    (split : events = earlier ++ .asked (.consult sources verbose) answer :: after) :
    ∃ path, Kind path verbose ∧ sources = loaded ++ accepted earlier ++ [path] ∧
      (reporter.isSome → earlier.getLast? = some (.announced path)) := by
  induction history generalizing earlier with
  | idle => simp at split
  | @load loaded path flag given events final kind _ inductionHypothesis =>
      rcases eq_or_later_of_split split with ⟨rfl, rfl, rfl⟩ | ⟨between, rfl, rest⟩
      · refine ⟨path, kind, by simp, ?_⟩
        intro reports
        simp [announcement, reports]
      · obtain ⟨other, otherKind, same, announced⟩ := inductionHypothesis rest
        refine ⟨other, otherKind, by simp [same], ?_⟩
        intro reports
        rw [List.getLast?_append, announced reports]
        rfl
  | save _ inductionHypothesis =>
      rcases earlier with _ | ⟨first, between⟩
      · simp at split
      · obtain ⟨rfl, rest⟩ := by simpa using split
        obtain ⟨other, otherKind, same, announced⟩ := inductionHypothesis rest
        refine ⟨other, otherKind, same, ?_⟩
        intro reports
        rw [List.getLast?_cons, announced reports]
        rfl

end History

/-! ## Histories of operations -/

section Histories

variable (backend : Backend σ) (reporter : Option (Path → σ → σ))

/-- The loads of an operation: of its sources, with its flag. -/
def Operation.Loads (operation : Operation) (path : Path) (verbose : Bool) : Prop :=
  path ∈ operation.paths ∧ verbose = operation.verbose

/-- One loading comes after another one with a history in between. -/
def Continues (Kind : Path → Bool → Prop) (before after : Loading (Recorded σ)) : Prop :=
  ∃ added, after.backend.events = before.backend.events ++ added ∧
    History reporter Kind before.loaded added after.loaded

section Relation

variable {reporter}

theorem Continues.refl {Kind : Path → Bool → Prop} (loading : Loading (Recorded σ)) :
    Continues reporter Kind loading loading :=
  ⟨[], (List.append_nil _).symm, .idle⟩

theorem Continues.trans {Kind : Path → Bool → Prop} {before middle after : Loading (Recorded σ)}
    (first : Continues reporter Kind before middle)
    (second : Continues reporter Kind middle after) : Continues reporter Kind before after := by
  obtain ⟨added, events, history⟩ := first
  obtain ⟨more, moreEvents, moreHistory⟩ := second
  refine ⟨added ++ more, ?_, history.append moreHistory⟩
  rw [moreEvents, events, List.append_assoc]

theorem Continues.mono {Kind Other : Path → Bool → Prop} {before after : Loading (Recorded σ)}
    (continues : Continues reporter Kind before after)
    (weaker : ∀ path verbose, Kind path verbose → Other path verbose) :
    Continues reporter Other before after := by
  obtain ⟨added, events, history⟩ := continues
  exact ⟨added, events, history.mono weaker⟩

end Relation

theorem continues_load {Kind : Path → Bool → Prop} {path : Path} {verbose : Bool}
    (kind : Kind path verbose) (loading : Loading (Recorded σ)) :
    Continues reporter Kind loading
      ((Loader.recorded backend reporter).after loading (.load path verbose)) := by
  obtain ⟨answer, state, loaded⟩ := Loader.load_recorded backend reporter path verbose loading
  have history : ∀ given, History reporter Kind loading.loaded
      (loadEvents reporter loading.loaded path verbose given)
      (loading.loaded ++ accepted (loadEvents reporter loading.loaded path verbose given)) := by
    intro given
    rw [← List.append_nil (loadEvents reporter loading.loaded path verbose given)]
    exact .load kind (by rw [List.append_nil]; exact .idle)
  refine ⟨loadEvents reporter loading.loaded path verbose answer, ?_, ?_⟩
  · rw [Loader.after, loaded]
    rcases answer with fault | (_ | diagnostic) <;> rfl
  · have kept := history answer
    rw [accepted_loadEvents] at kept
    rw [Loader.after, loaded]
    rcases answer with fault | (_ | diagnostic)
    · simpa using kept
    · exact kept
    · simpa using kept

theorem continues_loads {Kind : Path → Bool → Prop} {verbose : Bool} {paths : List Path}
    (kinds : ∀ path ∈ paths, Kind path verbose) (loading : Loading (Recorded σ)) :
    Continues reporter Kind loading
      ((Loader.recorded backend reporter).afterAll loading (loads paths verbose)) := by
  induction paths generalizing loading with
  | nil => exact .refl loading
  | cons path rest inductionHypothesis =>
      obtain ⟨kind, laterKinds⟩ := List.forall_mem_cons.mp kinds
      exact (continues_load backend reporter kind loading).trans
        (inductionHypothesis laterKinds _)

theorem continues_after (loading : Loading (Recorded σ)) (operation : Operation) :
    Continues reporter operation.Loads loading
      ((Loader.recorded backend reporter).after loading operation) := by
  obtain ⟨count, _, state, saves, ended, saved⟩ :=
    after_eq_loads backend reporter loading operation
  have kinds : ∀ path ∈ operation.paths.take count, operation.Loads path operation.verbose :=
    fun path member => ⟨List.mem_of_mem_take member, rfl⟩
  apply (continues_loads backend reporter kinds loading).trans
  rw [ended]
  rcases saved with rfl | ⟨output, options, answer, rfl⟩
  · exact ⟨[], rfl, .idle⟩
  · exact ⟨_, rfl, .save .idle⟩

theorem continues_afterAll (loading : Loading (Recorded σ)) (operations : List Operation) :
    Continues reporter (fun _ _ => True) loading
      ((Loader.recorded backend reporter).afterAll loading operations) := by
  induction operations generalizing loading with
  | nil => exact .refl loading
  | cons operation rest inductionHypothesis =>
      have first := (continues_after backend reporter loading operation).mono
        fun _ _ _ => trivial
      exact first.trans (inductionHypothesis _)

end Histories

/-- The record of a sequence of operations changes nothing. -/
theorem afterAll_withoutRecord (backend : Backend σ) (reporter : Option (Path → σ → σ))
    (loading : Loading (Recorded σ)) (operations : List Operation) :
    (Loader.ofReporter backend reporter).afterAll loading.withoutRecord operations =
      ((Loader.recorded backend reporter).afterAll loading operations).withoutRecord := by
  have one : ∀ (loading : Loading (Recorded σ)) (operation : Operation),
      (Loader.ofReporter backend reporter).after loading.withoutRecord operation =
        ((Loader.recorded backend reporter).after loading operation).withoutRecord := by
    intro loading operation
    cases operation with
    | load path verbose =>
        exact congrArg Prod.snd (mirrors_load backend reporter path verbose loading)
    | loadAll paths verbose =>
        exact congrArg Prod.snd (mirrors_loadAll backend reporter verbose paths loading)
    | syntaxCheck request =>
        exact congrArg Prod.snd (mirrors_loadInputs backend reporter request loading)
    | precompile request options =>
        exact congrArg Prod.snd (mirrors_precompile backend reporter request options loading)
  induction operations generalizing loading with
  | nil => rfl
  | cons operation rest inductionHypothesis =>
      simp only [Loader.afterAll, List.foldl_cons, one]
      exact inductionHypothesis _

/-- At every point of a sequence of operations on a fresh loader, also after failures, the sources
that it keeps are the ones that its backend accepted. Each call to load is for the sources kept
just before it and one more, which has just been announced if there is a reporter. The next
operation only adds to the kept sources, at the end, and loads its own sources with its own flag;
it is a sequence of single loads, so what holds between operations holds within each, and at most
one save. The record that shows this changes nothing. -/
theorem loaded_eq_accepted (backend : Backend σ) (reporter : Option (Path → σ → σ)) (state : σ)
    (operations : List Operation) :
    let loader := Loader.recorded backend reporter
    let now := loader.afterAll ⟨[], ⟨state, []⟩⟩ operations
    now.loaded = accepted now.backend.events ∧
    (∀ earlier sources verbose answer later,
      now.backend.events = earlier ++ .asked (.consult sources verbose) answer :: later →
        ∃ path, sources = accepted earlier ++ [path] ∧
          (reporter.isSome → earlier.getLast? = some (.announced path))) ∧
    (∀ operation, ∃ added,
      (loader.after now operation).backend.events = now.backend.events ++ added ∧
      (loader.after now operation).loaded = now.loaded ++ accepted added ∧
      ∀ sources verbose answer, .asked (.consult sources verbose) answer ∈ added →
        verbose = operation.verbose ∧
          ∃ path ∈ operation.paths, sources.getLast? = some path) ∧
    (∀ operation, ∃ count ≤ operation.paths.length,
      let loaded := loader.afterAll now (loads (operation.paths.take count) operation.verbose)
      ∃ state saves,
        loader.after now operation =
          ⟨loaded.loaded, ⟨state, loaded.backend.events ++ saves⟩⟩ ∧
        (saves = [] ∨ ∃ output options answer, saves =
          [.asked (.saveImage loaded.loaded output options operation.verbose) answer])) ∧
    (Loader.ofReporter backend reporter).afterAll ⟨[], state⟩ operations = now.withoutRecord := by
  intro loader now
  obtain ⟨events, same, history⟩ :=
    continues_afterAll backend reporter ⟨[], ⟨state, []⟩⟩ operations
  rw [List.nil_append] at same
  refine ⟨?_, ?_, ?_, after_eq_loads backend reporter now,
    afterAll_withoutRecord backend reporter ⟨[], ⟨state, []⟩⟩ operations⟩
  · rw [show now.backend.events = events from same]
    simpa using history.final_eq
  · intro earlier sources verbose answer later split
    obtain ⟨path, _, sourcesEq, announced⟩ := history.of_consult (same.symm.trans split)
    exact ⟨path, by simpa using sourcesEq, announced⟩
  · intro operation
    obtain ⟨added, grown, stretch⟩ := continues_after backend reporter now operation
    refine ⟨added, grown, stretch.final_eq, ?_⟩
    intro sources verbose answer member
    obtain ⟨earlier, later, split⟩ := List.append_of_mem member
    obtain ⟨path, ⟨ofOperation, flag⟩, sourcesEq, _⟩ := stretch.of_consult split
    exact ⟨flag, path, ofOperation, by rw [sourcesEq, List.getLast?_concat]⟩

end PrologImage
