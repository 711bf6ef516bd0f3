import Mathlib.Data.List.Infix
import PrologImage.Proofs.Loader.Loading
import PrologImage.TableBackend

/-!
Contract: loading sources one by one gives the answer for the whole list.

Owns: verdicts on lists of sources, backends that answer by a verdict, the verdict of two tables,
and the theorem that a loader stops where the verdict first finds an error.

Does not own: backends whose answers depend on more than the sources (`Proofs.Loader.FailFast`).
-/

namespace PrologImage

variable {σ ω : Type}

/-! ## Verdicts -/

/-- A verdict looks at sources from the first on: it has nothing against no sources, and what it
has against sources it also has against them and later ones. -/
structure IsStepwise (verdict : List Path → Option Diagnostic) : Prop where
  nil : verdict [] = none
  append {first : List Path} {diagnostic : Diagnostic} :
    verdict first = some diagnostic → ∀ later, verdict (first ++ later) = some diagnostic

/-- The sources `front` and then `path` are the shortest beginning of a list that a verdict has
something against. -/
structure IsShortestFailing (verdict : List Path → Option Diagnostic) (paths front : List Path)
    (path : Path) : Prop where
  beginning : front ++ [path] <+: paths
  fails : verdict (front ++ [path]) ≠ none
  shortest : ∀ shorter, shorter <+: paths → verdict shorter ≠ none →
    (front ++ [path]).length ≤ shorter.length

namespace IsStepwise

variable {verdict : List Path → Option Diagnostic} (stepwise : IsStepwise verdict)

include stepwise

/-- What is clean begins with what is clean. -/
theorem clean_of_append {first later : List Path} (clean : verdict (first ++ later) = none) :
    verdict first = none := by
  cases found : verdict first with
  | none => rfl
  | some diagnostic =>
      rw [stepwise.append found later] at clean
      cases clean

/-- Sources with an error have a first one that the error is found at. -/
theorem exists_first {paths : List Path} {diagnostic : Diagnostic}
    (found : verdict paths = some diagnostic) :
    ∃ front path rest, paths = front ++ path :: rest ∧ verdict front = none ∧
      verdict (front ++ [path]) = some diagnostic := by
  induction paths using List.reverseRecOn with
  | nil =>
      rw [stepwise.nil] at found
      cases found
  | append_singleton earlier last inductionHypothesis =>
      cases before : verdict earlier with
      | none => exact ⟨earlier, last, [], rfl, before, found⟩
      | some other =>
          have same : other = diagnostic := by
            rw [stepwise.append before] at found
            exact Option.some.inj found
          obtain ⟨front, path, rest, rfl, clean, fails⟩ :=
            inductionHypothesis (before.trans (congrArg some same))
          exact ⟨front, path, rest ++ [last], by simp, clean, fails⟩

/-- Where the first error is found the shortest failing beginning ends. -/
theorem isShortestFailing {front rest : List Path} {path : Path} (clean : verdict front = none)
    (fails : verdict (front ++ [path]) ≠ none) :
    IsShortestFailing verdict (front ++ path :: rest) front path where
  beginning := ⟨rest, by simp⟩
  fails := fails
  shortest := by
    intro shorter beginning stillFails
    have frontBeginning : front <+: front ++ path :: rest := List.prefix_append _ _
    by_contra tooShort
    have inFront : shorter <+: front :=
      List.prefix_of_prefix_length_le beginning frontBeginning (by simp at tooShort; omega)
    obtain ⟨later, rfl⟩ := inFront
    exact stillFails (stepwise.clean_of_append clean)

end IsStepwise

/-! ## Loading by a verdict -/

/-- The backend answers what it is asked about sources by a verdict on them, in every state. -/
def Backend.ConsultsBy (backend : Backend σ) (verdict : List Path → Option Diagnostic) : Prop :=
  ∀ sources verbose state,
    ((backend.consult sources verbose).outcome state).1 = .ok (verdict sources)

/-- The backend also saves every image unless a verdict on the sources has something against it. -/
def Backend.SavesBy (backend : Backend σ) (verdict : List Path → Option Diagnostic) : Prop :=
  ∀ sources output options verbose state,
    ((backend.saveImage sources output options verbose).outcome state).1 = .ok (verdict sources)

namespace Loader

variable {loader : Loader σ} {verdict : List Path → Option Diagnostic}

/-- A list is loaded by loading one part of it after the other. -/
theorem loadAll_append_outcome (loader : Loader σ) (verbose : Bool) (first later : List Path)
    (loading : Loading σ) :
    (loader.loadAll verbose (first ++ later)).outcome loading =
      match (loader.loadAll verbose first).outcome loading with
      | (.ok none, after) => (loader.loadAll verbose later).outcome after
      | stopped => stopped := by
  induction first generalizing loading with
  | nil => rfl
  | cons path rest inductionHypothesis =>
      rw [List.cons_append, loadAll_cons_outcome, loadAll_cons_outcome]
      rcases (loader.backend.consult (loading.loaded ++ [path]) verbose).outcome
        (loader.announce path loading.backend) with ⟨fault | (_ | diagnostic), backend⟩
      · rfl
      · exact inductionHypothesis _
      · rfl

variable (stepwise : IsStepwise verdict) (consults : loader.backend.ConsultsBy verdict)

include consults

/-- One source is loaded, or stopped at, by the verdict on all sources up to it. -/
theorem loadAll_cons_of_consultsBy (verbose : Bool) (path : Path) (rest loaded : List Path)
    (state : σ) :
    ∃ after, (loader.loadAll verbose (path :: rest)).outcome ⟨loaded, state⟩ =
      match verdict (loaded ++ [path]) with
      | none => (loader.loadAll verbose rest).outcome ⟨loaded ++ [path], after⟩
      | some diagnostic =>
          (.ok (some { path, diagnostic := some diagnostic }), ⟨loaded, after⟩) := by
  have answer := consults (loaded ++ [path]) verbose (loader.announce path state)
  rw [loadAll_cons_outcome]
  cases asked : (loader.backend.consult (loaded ++ [path]) verbose).outcome
    (loader.announce path state) with
  | mk result after =>
      rw [asked] at answer
      cases answer
      exact ⟨after, by cases verdict (loaded ++ [path]) <;> rfl⟩

include stepwise

/-- Sources that the verdict has nothing against are all loaded. -/
theorem loadAll_of_clean (verbose : Bool) {paths loaded : List Path}
    (clean : verdict (loaded ++ paths) = none) (state : σ) :
    ∃ after, (loader.loadAll verbose paths).outcome ⟨loaded, state⟩ =
      (.ok none, ⟨loaded ++ paths, after⟩) := by
  induction paths generalizing loaded state with
  | nil => exact ⟨state, by rw [List.append_nil]; rfl⟩
  | cons path rest inductionHypothesis =>
      rw [List.append_cons] at clean ⊢
      obtain ⟨next, loads⟩ := loadAll_cons_of_consultsBy consults verbose path rest loaded state
      rw [stepwise.clean_of_append clean] at loads
      rw [loads]
      exact inductionHypothesis clean next

theorem loadAll_of_clean_fresh (verbose : Bool) {paths : List Path} (clean : verdict paths = none)
    (state : σ) :
    ∃ after, (loader.loadAll verbose paths).outcome ⟨[], state⟩ = (.ok none, ⟨paths, after⟩) := by
  have whole : verdict ([] ++ paths) = none := clean
  exact loadAll_of_clean stepwise consults verbose whole state

/-- Loading stops at the source that the verdict first finds an error at. -/
theorem loadAll_of_first (verbose : Bool) {front : List Path} {path : Path}
    {diagnostic : Diagnostic} (clean : verdict front = none)
    (fails : verdict (front ++ [path]) = some diagnostic) (rest : List Path) (state : σ) :
    ∃ after, (loader.loadAll verbose (front ++ path :: rest)).outcome ⟨[], state⟩ =
      (.ok (some { path, diagnostic := some diagnostic }), ⟨front, after⟩) := by
  obtain ⟨middle, loaded⟩ := loadAll_of_clean_fresh stepwise consults verbose clean state
  obtain ⟨after, stopped⟩ := loadAll_cons_of_consultsBy consults verbose path rest front middle
  refine ⟨after, ?_⟩
  rw [loadAll_append_outcome, loaded]
  simp only [stopped, fails]

end Loader

namespace Build

/-- Once the inputs are loaded, what is left of the action is the save. -/
theorem precompile_of_loaded {loader : Loader σ} {request : Request} {loading middle : Loading σ}
    (options : SaveOptions) {output : Path} (asked : request.output = some output)
    (loaded : (loadInputs loader request).outcome loading = (.ok (), middle)) :
    ((precompile loader request options).outcome loading).1 =
      match ((loader.backend.saveImage middle.loaded output options request.verbose).outcome
          middle.backend).1 with
      | .ok none => .ok output
      | .ok (some diagnostic) => .error (.reported (.notLoaded diagnostic))
      | .error fault => .error fault := by
  simp only [precompile, asked, Step.outcome_bind, loaded, Step.outcome_get, Loading.ofBackend,
    Step.outcome_within]
  rcases (loader.backend.saveImage middle.loaded output options request.verbose).outcome
    middle.backend with ⟨fault | (_ | diagnostic), after⟩ <;> rfl

end Build

/-! ## The verdict of two tables -/

namespace Tables

/-- A longer list is looked at further only when its beginning has no error. -/
theorem check_append (tables : Tables) (seen : List String) (first later : List Path) :
    tables.check seen (first ++ later) =
      match tables.check seen first with
      | some diagnostic => some diagnostic
      | none => tables.check ((first.map Path.name).reverse ++ seen) later := by
  induction first generalizing seen with
  | nil => rfl
  | cons source rest inductionHypothesis =>
      rw [List.cons_append, check, check]
      cases tables.errorAfter seen source with
      | some diagnostic => rfl
      | none =>
          simp only [inductionHypothesis]
          rw [List.map_cons, List.reverse_cons, List.append_assoc, List.singleton_append]

theorem isStepwise_verdict (tables : Tables) : IsStepwise tables.verdict where
  nil := rfl
  append := by
    intro first diagnostic found later
    rw [verdict, check_append]
    rw [verdict] at found
    rw [found]

variable (tables : Tables) (write : Path → ByteArray → Step ω Unit)

theorem consultsBy_verdict : (tables.backend write).ConsultsBy tables.verdict := by
  intro sources verbose ledger
  rfl

/-- Without an error the answer of a save waits for the write alone. -/
theorem saveImage_answer (sources : List Path) (output : Path) (options : SaveOptions)
    (verbose : Bool) (ledger : Ledger ω) :
    (((tables.backend write).saveImage sources output options verbose).outcome ledger).1 =
      match tables.verdict sources with
      | some diagnostic => .ok (some diagnostic)
      | none => ((write output image).outcome ledger.world).1.map fun _ => none := by
  simp only [backend]
  cases tables.verdict sources with
  | some diagnostic => rfl
  | none =>
      simp only [Step.outcome_bind, Step.outcome_modify, Step.outcome_within]
      rcases (write output image).outcome ledger.world with ⟨fault | _, after⟩ <;> rfl

theorem savesBy_verdict
    (written : ∀ output world, ((write output image).outcome world).1 = .ok ()) :
    (tables.backend write).SavesBy tables.verdict := by
  intro sources output options verbose ledger
  rw [saveImage_answer]
  cases tables.verdict sources with
  | some diagnostic => rfl
  | none =>
      simp only [written]
      rfl

end Tables

/-! ## Agreement -/

section Agreement

variable {loader : Loader σ} {verdict : List Path → Option Diagnostic}
  (stepwise : IsStepwise verdict) (consults : loader.backend.ConsultsBy verdict)

include stepwise consults

theorem Loader.loadAll_result_eq_none_iff (verbose : Bool) (paths : List Path) (state : σ) :
    ((loader.loadAll verbose paths).outcome ⟨[], state⟩).1 = .ok none ↔ verdict paths = none := by
  cases found : verdict paths with
  | none =>
      obtain ⟨after, loaded⟩ :=
        loadAll_of_clean_fresh stepwise consults verbose found state
      simp [loaded]
  | some diagnostic =>
      obtain ⟨front, path, rest, rfl, clean, fails⟩ := stepwise.exists_first found
      obtain ⟨after, stopped⟩ :=
        loadAll_of_first stepwise consults verbose clean fails rest state
      simp [stopped]

/-- Inputs that get loaded are clean, and exactly they are loaded. -/
theorem Build.clean_of_loaded {request : Request} {state : σ} {middle : Loading σ}
    (loaded : (loadInputs loader request).outcome ⟨[], state⟩ = (.ok (), middle)) :
    verdict request.inputs = none ∧ middle.loaded = request.inputs := by
  have passed := (loadInputs_eq_ok_iff loader request _ _).mp loaded
  have clean : verdict request.inputs = none :=
    (Loader.loadAll_result_eq_none_iff stepwise consults request.verbose request.inputs state).mp
      (congrArg Prod.fst passed)
  obtain ⟨after, ended⟩ :=
    Loader.loadAll_of_clean_fresh stepwise consults request.verbose clean state
  rw [ended] at passed
  cases passed
  exact ⟨clean, rfl⟩

end Agreement

/-- Loading sources one by one agrees with one look at the whole list.

For a backend that answers by a stepwise verdict, a fresh loader gets through a list exactly when
the verdict has nothing against it, and then all of it is loaded. Otherwise it stops with the error
of the verdict at the path that ends the shortest failing beginning, and the sources before this
path are loaded. When the backend also saves by this verdict, an action whose inputs are loaded
ends with its image.

A backend that answers from two tables is of this kind, whatever the tables hold: once its inputs
are loaded, what is left of the action is to write the file. -/
theorem loadAll_agrees_with_verdict :
    (∀ (σ : Type) (loader : Loader σ) (verdict : List Path → Option Diagnostic),
      IsStepwise verdict → loader.backend.ConsultsBy verdict →
      (∀ verbose paths state,
        let ended := (loader.loadAll verbose paths).outcome ⟨[], state⟩
        (ended.1 = .ok none ↔ verdict paths = none) ∧
        (verdict paths = none → ended.2.loaded = paths) ∧
        ∀ diagnostic, verdict paths = some diagnostic →
          ∃ front path, IsShortestFailing verdict paths front path ∧
            ended.1 = .ok (some { path, diagnostic := some diagnostic }) ∧
            ended.2.loaded = front) ∧
      (loader.backend.SavesBy verdict →
        ∀ request options output, request.output = some output → ∀ state middle,
          (Build.loadInputs loader request).outcome ⟨[], state⟩ = (.ok (), middle) →
          ((Build.precompile loader request options).outcome ⟨[], state⟩).1 = .ok output)) ∧
    (∀ (ω : Type) (tables : Tables) (write : Path → ByteArray → Step ω Unit),
      IsStepwise tables.verdict ∧ (tables.backend write).ConsultsBy tables.verdict ∧
      ∀ announce request options output, request.output = some output → ∀ state middle,
        let loader : Loader (Ledger ω) := { backend := tables.backend write, announce }
        (Build.loadInputs loader request).outcome ⟨[], state⟩ = (.ok (), middle) →
        ((Build.precompile loader request options).outcome ⟨[], state⟩).1 =
          ((write output Tables.image).outcome middle.backend.world).1.map fun _ => output) := by
  refine ⟨?_, ?_⟩
  · intro σ loader verdict stepwise consults
    refine ⟨?_, ?_⟩
    · intro verbose paths state
      refine ⟨Loader.loadAll_result_eq_none_iff stepwise consults verbose paths state, ?_, ?_⟩
      · intro clean
        obtain ⟨after, ended⟩ :=
          Loader.loadAll_of_clean_fresh stepwise consults verbose clean state
        rw [ended]
      · intro diagnostic found
        obtain ⟨front, path, rest, rfl, clean, fails⟩ := stepwise.exists_first found
        obtain ⟨after, stopped⟩ :=
          Loader.loadAll_of_first stepwise consults verbose clean fails rest state
        rw [stopped]
        exact ⟨front, path, stepwise.isShortestFailing clean (by simp [fails]), rfl, rfl⟩
    · intro saves request options output asked state middle loaded
      obtain ⟨clean, same⟩ := Build.clean_of_loaded stepwise consults loaded
      rw [Build.precompile_of_loaded options asked loaded, saves, same, clean]
  · intro ω tables write
    refine ⟨tables.isStepwise_verdict, tables.consultsBy_verdict write, ?_⟩
    intro announce request options output asked state middle loader loaded
    obtain ⟨clean, same⟩ :=
      Build.clean_of_loaded tables.isStepwise_verdict (tables.consultsBy_verdict write) loaded
    rw [Build.precompile_of_loaded options asked loaded, same, Tables.saveImage_answer, clean]
    cases ((write output Tables.image).outcome middle.backend.world).1 <;> rfl

/-! ## A table with an order and a failure -/

/-- A main source needs a library before it; another source never loads. -/
def sampleTables : Tables where
  failures := [("broken.pl", .bare "Syntax error")]
  requires := [("main.pl", "library.pl")]

def sampleTableLoader : Loader (Ledger Unit) where
  backend := sampleTables.backend fun _ _ => pure ()
  announce _ ledger := ledger

/-- Sources in a good order, one of them twice. -/
def sampleSources : List Path :=
  [.ofText "src/library.pl", .ofText "main.pl", .ofText "src/library.pl"]

/-- With a broken source after them loading stops there; without it the image is saved. -/
theorem loadAll_sampleTables :
    IsStepwise sampleTables.verdict ∧
    sampleTableLoader.backend.ConsultsBy sampleTables.verdict ∧
    sampleTableLoader.backend.SavesBy sampleTables.verdict ∧
    (∃ front path,
      IsShortestFailing sampleTables.verdict
        (sampleSources ++ [.ofText "old/broken.pl", .ofText "main.pl"]) front path ∧
      ((sampleTableLoader.loadAll true
        (sampleSources ++ [.ofText "old/broken.pl", .ofText "main.pl"])).outcome
          ⟨[], { world := () }⟩).1 =
        .ok (some { path, diagnostic := some (.bare "Syntax error") })) ∧
    ((Build.precompile sampleTableLoader
      { inputs := sampleSources, output := some (.ofText "app") } {}).outcome
        ⟨[], { world := () }⟩).1 = .ok (.ofText "app") := by
  have stepwise := sampleTables.isStepwise_verdict
  have consults : sampleTableLoader.backend.ConsultsBy sampleTables.verdict :=
    sampleTables.consultsBy_verdict fun _ _ => pure ()
  have saves : sampleTableLoader.backend.SavesBy sampleTables.verdict :=
    sampleTables.savesBy_verdict (fun _ _ => pure ()) fun _ _ => rfl
  obtain ⟨loads, precompiles⟩ :=
    loadAll_agrees_with_verdict.1 _ sampleTableLoader _ stepwise consults
  obtain ⟨front, path, shortest, result, _⟩ :=
    (loads true (sampleSources ++ [.ofText "old/broken.pl", .ofText "main.pl"])
      { world := () }).2.2 (.bare "Syntax error") rfl
  refine ⟨stepwise, consults, saves, ⟨front, path, shortest, result⟩, ?_⟩
  exact precompiles saves { inputs := sampleSources, output := some (.ofText "app") } {} _ rfl _ _
    rfl

end PrologImage
