import PrologImage.Application
import PrologImage.Proofs.Interpreter.CleanQuestion
import PrologImage.Proofs.Loader.Loading

/-!
Contract: a build succeeds exactly when each of its steps is clean.

Owns: clean load steps and the clean save step, said about the files and the process outcomes that
a session was prepared with; the processes and the output of a build whose steps are all clean; and
the theorem that the exit status is zero for exactly these builds.

Does not own: what is told when a step is not clean, and whether the image of a clean save step is
new (`Proofs.Application.SavedImage`).
-/

namespace PrologImage.Application

open Interpreter

/-! ## Loading the inputs -/

/-- The line that announces a source. -/
def announcement (mode : ConsoleMode) (path : Path) : String :=
  Console.literalLine mode [s!"Loading {path.text} ..."]

/-- Processes that load further sources, one for each. The one for a source loads all sources
up to it, and is started after a number of processes and the ones before it. -/
structure CleanLoads (site : Site) (settings : Settings) (start : Workbench) (verbose : Bool)
    (count : Nat) (loaded rest : List Path) (processes : List StartedProcess) : Prop where
  length : processes.length = rest.length
  clean : ∀ step process, processes[step]? = some process →
    Question.CleanAt site settings start { sources := loaded ++ rest.take (step + 1), verbose }
      (count + step) process

section Loading

variable {site : Site} {settings : Settings} {start now : Workbench} {verbose : Bool}
  {count : Nat} {loaded rest : List Path} {path : Path} {before processes : List StartedProcess}
  {text : String}

theorem cleanLoads_nil :
    CleanLoads site settings start verbose count loaded [] processes ↔ processes = [] := by
  constructor
  · intro clean
    exact List.eq_nil_of_length_eq_zero clean.length
  · rintro rfl
    exact ⟨rfl, fun _ _ present => by cases present⟩

theorem cleanLoads_cons :
    CleanLoads site settings start verbose count loaded (path :: rest) processes ↔
      ∃ first others, processes = first :: others ∧
        Question.CleanAt site settings start { sources := loaded ++ [path], verbose } count first ∧
        CleanLoads site settings start verbose (count + 1) (loaded ++ [path]) rest others := by
  -- The step after the first one is the first one after the next source.
  have later : ∀ step, loaded ++ (path :: rest).take (step + 1 + 1) =
      loaded ++ [path] ++ rest.take (step + 1) := by
    intro step
    rw [List.take_succ_cons, List.append_assoc, List.singleton_append]
  have laterCount : ∀ step, count + (step + 1) = count + 1 + step := by
    intro step
    omega
  constructor
  · rintro ⟨length, clean⟩
    cases processes with
    | nil => cases length
    | cons first others =>
        refine ⟨first, others, rfl, clean 0 first rfl, Nat.succ.inj length, ?_⟩
        intro step process present
        have next := clean (step + 1) process present
        rwa [later, laterCount] at next
  · rintro ⟨first, others, rfl, cleanFirst, length, clean⟩
    refine ⟨congrArg Nat.succ length, ?_⟩
    intro step process present
    cases step with
    | zero =>
        cases present
        exact cleanFirst
    | succ step =>
        have next := clean step process present
        rwa [← later, ← laterCount] at next

/-- Announcing a source starts nothing. -/
theorem reaches_announce (reached : start.Reaches site settings now before text) (path : Path) :
    start.Reaches site settings (announce site.console path now) before
      (text ++ announcement site.console path) := by
  have announced := reached.trans (.print now (announcement site.console path))
  rwa [List.append_nil] at announced

/-- Sources with clean load steps are all loaded. -/
theorem loadAll_of_cleanLoads (reached : start.Reaches site settings now before text)
    (clean : CleanLoads site settings start verbose before.length loaded rest processes) :
    ∃ after, ((loader site settings).loadAll verbose rest).outcome ⟨loaded, now⟩ =
        (.ok none, ⟨loaded ++ rest, after⟩) ∧
      start.Reaches site settings after (before ++ processes)
        (text ++ String.join (rest.map (announcement site.console))) := by
  induction rest generalizing loaded now before text processes with
  | nil =>
      rw [cleanLoads_nil] at clean
      subst clean
      refine ⟨now, by simp [Loader.loadAll], ?_⟩
      simpa using reached
  | cons path rest inductionHypothesis =>
      obtain ⟨first, others, rfl, cleanFirst, cleanOthers⟩ := cleanLoads_cons.mp clean
      have announced := reaches_announce reached path
      have cleanNow := (Question.cleanAt_iff_of_reaches announced 0).mpr cleanFirst
      obtain ⟨middle, consulted, ran⟩ := consult_of_cleanAt cleanNow
      have counted : before.length + 1 = (before ++ [first]).length := by
        rw [List.length_append, List.length_singleton]
      rw [counted] at cleanOthers
      obtain ⟨after, loadedRest, reachedAfter⟩ :=
        inductionHypothesis (announced.trans ran) cleanOthers
      refine ⟨after, ?_, ?_⟩
      · rw [Loader.loadAll_cons_outcome]
        simp only [loader, backend, consulted]
        rw [← List.append_cons] at loadedRest
        exact loadedRest
      · simpa [String.append_assoc] using reachedAfter

/-- Sources that are all loaded had clean load steps. -/
theorem cleanLoads_of_loadAll {after : Loading Workbench}
    (reached : start.Reaches site settings now before text)
    (passed : ((loader site settings).loadAll verbose rest).outcome ⟨loaded, now⟩ =
      (.ok none, after)) :
    ∃ processes, CleanLoads site settings start verbose before.length loaded rest processes := by
  induction rest generalizing loaded now before text with
  | nil => exact ⟨[], cleanLoads_nil.mpr rfl⟩
  | cons path rest inductionHypothesis =>
      have announced := reaches_announce reached path
      rw [Loader.loadAll_cons_outcome] at passed
      simp only [loader, backend] at passed
      split at passed
      · rename_i middle consulted
        obtain ⟨first, cleanNow⟩ := cleanAt_of_consult consulted
        obtain ⟨_, again, ran⟩ := consult_of_cleanAt cleanNow
        obtain rfl : _ = middle := (Prod.mk.inj (again.symm.trans consulted)).2
        obtain ⟨others, cleanOthers⟩ := inductionHypothesis (announced.trans ran) passed
        rw [List.length_append, List.length_singleton] at cleanOthers
        have cleanFirst := (Question.cleanAt_iff_of_reaches announced 0).mp cleanNow
        exact ⟨first :: others, cleanLoads_cons.mpr ⟨first, others, rfl, cleanFirst, cleanOthers⟩⟩
      · cases passed
      · cases passed

end Loading

/-! ## The steps of a build -/

/-- The settings of the interpreter that options make. -/
def settingsOf (options : CommandLine.Options) : Settings :=
  { explicit := options.interpreter, limit := options.limit.map .seconds }

section Steps

variable (site : Site) (settings : Settings) (session : Session) (request : Request)

/-- The load step for one input is clean: the process that loads all inputs up to it. -/
def LoadClean (step : Nat) (process : StartedProcess) : Prop :=
  Question.CleanAt site settings ⟨session, none⟩
    { sources := request.inputs.take (step + 1), verbose := request.verbose } step process

/-- The save step is clean: the process that loads all inputs and saves an image, and something
that is at the output afterwards. -/
structure SaveClean (output : Path) (process : StartedProcess) : Prop where
  asked : Question.CleanAt site settings ⟨session, none⟩
    { sources := request.inputs, image := some (output, {}), verbose := request.verbose }
    request.inputs.length process
  leads : (session.filesAt (request.inputs.length + 1)).Leads site.workingDirectory output

/-- All steps of an action are clean. -/
structure CleanSteps (action : Action) : Prop where
  loads : ∀ step < request.inputs.length, ∃ process,
    LoadClean site settings session request step process
  saves : action = .precompile → ∃ output process,
    request.output = some output ∧ SaveClean site settings session request output process

/-- The processes of an action whose steps are all clean: one for each input, and one more for an
image. -/
structure CleanBuild (action : Action) (loads saves : List StartedProcess) : Prop where
  length : loads.length = request.inputs.length
  loaded : ∀ step process, loads[step]? = some process →
    LoadClean site settings session request step process
  saved : match action with
    | .syntaxCheck => saves = []
    | .precompile => ∃ output process, request.output = some output ∧ saves = [process] ∧
        SaveClean site settings session request output process

end Steps

/-- The line that tells the success of an action. -/
def successLine (mode : ConsoleMode) (request : Request) : Action → String
  | .syntaxCheck => Console.literalLine mode ["Syntax check passed."]
  | .precompile =>
      match request.output with
      | some output => Console.literalLine mode [s!"Saved program image to {output.text}."]
      | none => ""

/-- What a successful action prints on the output. -/
def successOutput (mode : ConsoleMode) (request : Request) (action : Action) : String :=
  String.join (request.inputs.map (announcement mode)) ++ successLine mode request action

section Build

variable {site : Site} {settings : Settings} {session : Session} {request : Request}
  {action : Action} {loads saves : List StartedProcess}

theorem cleanLoads_zero_iff :
    CleanLoads site settings ⟨session, none⟩ request.verbose 0 [] request.inputs loads ↔
      loads.length = request.inputs.length ∧
      ∀ step process, loads[step]? = some process →
        LoadClean site settings session request step process := by
  unfold LoadClean
  constructor
  · rintro ⟨length, clean⟩
    simp only [List.nil_append, Nat.zero_add] at clean
    exact ⟨length, clean⟩
  · rintro ⟨length, clean⟩
    refine ⟨length, ?_⟩
    simpa only [List.nil_append, Nat.zero_add] using clean

/-- Clean steps have their processes, and only they have. -/
theorem cleanSteps_iff :
    CleanSteps site settings session request action ↔
      ∃ loads saves, CleanBuild site settings session request action loads saves := by
  constructor
  · rintro ⟨loaded, saved⟩
    have chosen : ∀ step : Fin request.inputs.length, ∃ process,
        LoadClean site settings session request step process :=
      fun step => loaded step step.isLt
    choose process clean using chosen
    have cleanLoads : ∀ step started, (List.ofFn process)[step]? = some started →
        LoadClean site settings session request step started := by
      intro step started present
      obtain ⟨inRange, rfl⟩ := List.getElem?_eq_some_iff.mp present
      rw [List.getElem_ofFn]
      exact clean ⟨step, _⟩
    cases action with
    | syntaxCheck => exact ⟨List.ofFn process, [], List.length_ofFn, cleanLoads, rfl⟩
    | precompile =>
        obtain ⟨output, save, asked, cleanSave⟩ := saved rfl
        exact ⟨List.ofFn process, [save], List.length_ofFn, cleanLoads, output, save, asked, rfl,
          cleanSave⟩
  · rintro ⟨loads, saves, length, loaded, saved⟩
    refine ⟨?_, ?_⟩
    · intro step inRange
      rw [← length] at inRange
      exact ⟨loads[step], loaded step _ (List.getElem?_eq_getElem inRange)⟩
    · rintro rfl
      obtain ⟨output, save, asked, _, cleanSave⟩ := saved
      exact ⟨output, save, asked, cleanSave⟩

theorem build_syntaxCheck_eq_ok_iff {after : Session} :
    (build site settings .syntaxCheck request).outcome session = (.ok (), after) ↔
      ∃ loading, ((loader site settings).loadAll request.verbose request.inputs).outcome
          ⟨[], ⟨session, none⟩⟩ = (.ok none, loading) ∧
        loading.backend.session.writeOutput (successLine site.console request .syntaxCheck) =
          after := by
  simp only [build, onFreshLoader, Build.syntaxCheck, Step.outcome_bind_eq_ok_iff,
    Step.outcome_within_eq_ok_iff, Console.printLiteral, Step.outcome_modify, Prod.mk.injEq,
    true_and]
  constructor
  · rintro ⟨_, _, ⟨loading, passed, rfl⟩, told⟩
    exact ⟨loading, (Build.loadInputs_eq_ok_iff _ _ _ _).mp passed, told⟩
  · rintro ⟨loading, passed, told⟩
    exact ⟨(), _, ⟨loading, (Build.loadInputs_eq_ok_iff _ _ _ _).mpr passed, rfl⟩, told⟩

theorem build_precompile_eq_ok_iff {after : Session} :
    (build site settings .precompile request).outcome session = (.ok (), after) ↔
      ∃ output, request.output = some output ∧
      ∃ loading, ((loader site settings).loadAll request.verbose request.inputs).outcome
          ⟨[], ⟨session, none⟩⟩ = (.ok none, loading) ∧
      ∃ workbench, (saveImage site settings loading.loaded output {} request.verbose).outcome
          loading.backend = (.ok none, workbench) ∧
        workbench.session.writeOutput (successLine site.console request .precompile) = after := by
  simp only [build, onFreshLoader, Step.outcome_bind_eq_ok_iff, Step.outcome_within_eq_ok_iff,
    Build.precompile_eq_ok_iff, Build.loadInputs_eq_ok_iff, Console.printLiteral,
    Step.outcome_modify, Prod.mk.injEq, true_and]
  constructor
  · rintro ⟨output, _, ⟨_, ⟨asked, loading, passed, workbench, saved, rfl⟩, rfl⟩, told⟩
    refine ⟨output, asked, loading, passed, workbench, saved, ?_⟩
    rw [← told, successLine, asked]
  · rintro ⟨output, asked, loading, passed, workbench, saved, told⟩
    refine ⟨output, _, ⟨_, ⟨asked, loading, passed, workbench, saved, rfl⟩, rfl⟩, ?_⟩
    rw [← told, successLine, asked]

/-- A build whose steps are all clean gets to its end. -/
theorem build_of_cleanBuild
    (clean : CleanBuild site settings session request action loads saves) :
    ∃ after, (build site settings action request).outcome session = (.ok (), after) ∧
      session.Advances after (loads ++ saves) ∧
      after.output = session.output ++ successOutput site.console request action := by
  obtain ⟨loaded, passed, reached⟩ := loadAll_of_cleanLoads (.refl ⟨session, none⟩)
    (cleanLoads_zero_iff.mpr ⟨clean.length, clean.loaded⟩)
  rw [List.nil_append] at passed
  rw [List.nil_append, String.empty_append] at reached
  have saved := clean.saved
  cases action with
  | syntaxCheck =>
      subst saved
      refine ⟨_, build_syntaxCheck_eq_ok_iff.mpr ⟨_, passed, rfl⟩, ?_, ?_⟩
      · rw [List.append_nil]
        exact reached.advances.writeOutput _
      · rw [Session.writeOutput, reached.output, String.append_assoc]
        rfl
  | precompile =>
      obtain ⟨output, process, asked, rfl, cleanSave⟩ := saved
      have cleanNow : Question.CleanAt site settings loaded
          { sources := request.inputs, image := some (output, {}), verbose := request.verbose }
          0 process := by
        rw [Question.cleanAt_iff_of_reaches reached, clean.length]
        exact cleanSave.asked
      have leads : (loaded.session.filesAt 1).Leads site.workingDirectory output := by
        rw [reached.advances.filesAt_eq, clean.length]
        exact cleanSave.leads
      obtain ⟨final, wasSaved, ran⟩ := saveImage_of_cleanAt cleanNow leads
      have reachedFinal := reached.trans ran
      rw [String.append_empty] at reachedFinal
      refine ⟨_, build_precompile_eq_ok_iff.mpr
        ⟨output, asked, _, passed, final, wasSaved, rfl⟩, ?_, ?_⟩
      · exact reachedFinal.advances.writeOutput _
      · rw [Session.writeOutput, reachedFinal.output, String.append_assoc]
        rfl

/-- A build that gets to its end had clean steps. -/
theorem cleanBuild_of_build {after : Session}
    (built : (build site settings action request).outcome session = (.ok (), after)) :
    ∃ loads saves, CleanBuild site settings session request action loads saves := by
  cases action with
  | syntaxCheck =>
      obtain ⟨loading, passed, _⟩ := build_syntaxCheck_eq_ok_iff.mp built
      obtain ⟨loads, clean⟩ := cleanLoads_of_loadAll (.refl ⟨session, none⟩) passed
      obtain ⟨length, loaded⟩ := cleanLoads_zero_iff.mp clean
      exact ⟨loads, [], length, loaded, rfl⟩
  | precompile =>
      obtain ⟨output, asked, loading, passed, final, saved, _⟩ :=
        build_precompile_eq_ok_iff.mp built
      obtain ⟨loads, clean⟩ := cleanLoads_of_loadAll (.refl ⟨session, none⟩) passed
      obtain ⟨length, loaded⟩ := cleanLoads_zero_iff.mp clean
      -- The save step starts from the workbench that the clean load steps reach.
      obtain ⟨workbench, passedAgain, reached⟩ :=
        loadAll_of_cleanLoads (.refl ⟨session, none⟩) clean
      obtain rfl := (Prod.mk.inj (passed.symm.trans passedAgain)).2
      rw [List.nil_append, String.empty_append] at reached
      obtain ⟨⟨process, cleanNow⟩, leads⟩ := cleanAt_of_saveImage saved
      rw [Question.cleanAt_iff_of_reaches reached, length] at cleanNow
      rw [reached.advances.filesAt_eq, length] at leads
      exact ⟨loads, [process], length, loaded, output, process, asked, rfl, cleanNow, leads⟩

/-- How much is logged does not matter for the processes of a build. -/
theorem cleanBuild_threshold_iff (threshold : LogLevel) :
    CleanBuild site settings { session with threshold } request action loads saves ↔
      CleanBuild site settings session request action loads saves := by
  have same : ∀ question count process,
      Question.CleanAt site settings ⟨{ session with threshold }, none⟩ question count process ↔
        Question.CleanAt site settings ⟨session, none⟩ question count process := by
    intro question count process
    have reached : Workbench.Reaches site settings ⟨session, none⟩
        ⟨{ session with threshold }, none⟩ [] "" :=
      ⟨.of_same rfl rfl rfl, String.append_empty.symm, rfl⟩
    rw [Question.cleanAt_iff_of_reaches reached, List.length_nil, Nat.zero_add]
  have sameSave : ∀ output process,
      SaveClean site settings { session with threshold } request output process ↔
        SaveClean site settings session request output process := by
    intro output process
    exact ⟨fun clean => ⟨(same _ _ _).mp clean.asked, clean.leads⟩,
      fun clean => ⟨(same _ _ _).mpr clean.asked, clean.leads⟩⟩
  constructor
  · rintro ⟨length, loaded, saved⟩
    simp only [LoadClean, same, sameSave] at loaded saved
    exact ⟨length, loaded, saved⟩
  · rintro ⟨length, loaded, saved⟩
    refine ⟨length, ?_, ?_⟩
    · simpa only [LoadClean, same] using loaded
    · simpa only [sameSave] using saved

end Build

/-! ## The exit status -/

/-- A fault never becomes success. -/
theorem settle_ne_success (site : Site) (fault : Fault) (session : Session) :
    ((settle site fault).outcome session).1 ≠ .ok .success := by
  cases fault with
  | reported failure =>
      rw [settle, Step.outcome_bind]
      rcases (Report.failure site.console failure).outcome session with ⟨_ | _, after⟩ <;> simp
  | interrupted =>
      rw [settle, Step.outcome_bind]
      rcases (Console.printMarked site.console ["\n[yellow]Aborted by user.[/yellow]"]).outcome
        session with ⟨_ | _, after⟩ <;> simp
  | unexpected error => simp [settle, Console.printLiteral]

/-- The boundary lets exactly the runs succeed that succeed by themselves. -/
theorem main_eq_success_iff_run (site : Site) (arguments : List String)
    (session after : Session) :
    (main site arguments).outcome session = (.ok .success, after) ↔
      (run site arguments).outcome session = (.ok .success, after) := by
  rw [main, Step.outcome_tryCatch]
  rcases (run site arguments).outcome session with ⟨fault | status, final⟩
  · constructor
    · intro settled
      exact absurd (congrArg Prod.fst settled) (settle_ne_success site fault final)
    · intro ended
      cases ended
  · exact Iff.rfl

section Run

variable {site : Site} {arguments : List String} {session after : Session}
  {options : CommandLine.Options} {action : Action} {request : Request}

theorem run_eq_success_iff_build
    (invoked : CommandLine.Invocation.ofArguments (splitArguments arguments).1 =
      .ok (.run options (.build action)))
    (requested : Request.ofArguments arguments = .ok request) :
    (run site arguments).outcome session = (.ok .success, after) ↔
      (build site (settingsOf options) action request).outcome
        { session with threshold := options.logLevel } = (.ok (), after) := by
  simp only [run, invoked, runCommand, requested, settingsOf, Step.outcome_bind,
    Step.outcome_modify]
  rcases (build site { explicit := options.interpreter, limit := options.limit.map .seconds }
    action request).outcome { session with threshold := options.logLevel } with
    ⟨_ | _, final⟩ <;> simp

/-- A build whose steps are all clean exits with success. -/
theorem main_of_cleanBuild {loads saves : List StartedProcess}
    (invoked : CommandLine.Invocation.ofArguments (splitArguments arguments).1 =
      .ok (.run options (.build action)))
    (requested : Request.ofArguments arguments = .ok request)
    (clean : CleanBuild site (settingsOf options) session request action loads saves) :
    ∃ after, (main site arguments).outcome session = (.ok .success, after) ∧
      session.Advances after (loads ++ saves) ∧
      after.output = session.output ++ successOutput site.console request action := by
  obtain ⟨after, built, advances, output⟩ :=
    build_of_cleanBuild ((cleanBuild_threshold_iff options.logLevel).mpr clean)
  refine ⟨after, ?_, ?_, output⟩
  · rw [main_eq_success_iff_run]
    exact (run_eq_success_iff_build invoked requested).mpr built
  · exact ⟨advances.started, advances.outcomes, advances.files⟩

/-- Clean steps make a build exit with success. -/
theorem main_of_cleanSteps
    (invoked : CommandLine.Invocation.ofArguments (splitArguments arguments).1 =
      .ok (.run options (.build action)))
    (requested : Request.ofArguments arguments = .ok request)
    (cleanSteps : CleanSteps site (settingsOf options) session request action) :
    ((main site arguments).outcome session).1 = .ok .success := by
  obtain ⟨loads, saves, clean⟩ := cleanSteps_iff.mp cleanSteps
  obtain ⟨after, ended, _⟩ := main_of_cleanBuild invoked requested clean
  rw [ended]

/-- A build that exits with success had clean steps, and has left behind what these leave. -/
theorem cleanBuild_of_main
    (invoked : CommandLine.Invocation.ofArguments (splitArguments arguments).1 =
      .ok (.run options (.build action)))
    (requested : Request.ofArguments arguments = .ok request)
    (succeeded : ((main site arguments).outcome session).1 = .ok .success) :
    ∃ loads saves, CleanBuild site (settingsOf options) session request action loads saves ∧
      session.Advances ((main site arguments).outcome session).2 (loads ++ saves) ∧
      ((main site arguments).outcome session).2.output =
        session.output ++ successOutput site.console request action := by
  have ended : (main site arguments).outcome session =
      (.ok .success, ((main site arguments).outcome session).2) := Prod.ext succeeded rfl
  rw [main_eq_success_iff_run] at ended
  have built := (run_eq_success_iff_build invoked requested).mp ended
  obtain ⟨loads, saves, cleanBuild⟩ := cleanBuild_of_build built
  have clean := (cleanBuild_threshold_iff options.logLevel).mp cleanBuild
  obtain ⟨after, endedAgain, advances, output⟩ := main_of_cleanBuild invoked requested clean
  rw [endedAgain]
  exact ⟨loads, saves, clean, advances, output⟩

/-- A build exits with success exactly when all its steps are clean. It then has started one
process for each input and, for an image, one more, and has told each input and its success. -/
theorem main_eq_success_iff_cleanSteps
    (invoked : CommandLine.Invocation.ofArguments (splitArguments arguments).1 =
      .ok (.run options (.build action)))
    (requested : Request.ofArguments arguments = .ok request) :
    (((main site arguments).outcome session).1 = .ok .success ↔
      CleanSteps site (settingsOf options) session request action) ∧
    (((main site arguments).outcome session).1 = .ok .success →
      ∃ loads saves,
        CleanBuild site (settingsOf options) session request action loads saves ∧
        ((main site arguments).outcome session).2.started =
          session.started ++ (loads ++ saves) ∧
        ((main site arguments).outcome session).2.output =
          session.output ++ successOutput site.console request action) := by
  refine ⟨⟨?_, ?_⟩, ?_⟩
  · intro succeeded
    obtain ⟨loads, saves, clean, _⟩ := cleanBuild_of_main invoked requested succeeded
    exact cleanSteps_iff.mpr ⟨loads, saves, clean⟩
  · intro cleanSteps
    exact main_of_cleanSteps invoked requested cleanSteps
  · intro succeeded
    obtain ⟨loads, saves, clean, advances, output⟩ :=
      cleanBuild_of_main invoked requested succeeded
    exact ⟨loads, saves, clean, advances.started, output⟩

end Run

/-- The load step of a build with the one source of the sample machine is clean. -/
theorem sample_loadClean :
    LoadClean sampleSite { explicit := some "./s" } { files := sampleFiles }
      { inputs := [Path.ofText "a"] } 0
      ⟨["/w/s", "--on-error=halt", "-q", "-g", "consult(['/w/a'])", "-t", "halt"], none⟩ where
  regular := by
    intro source member
    obtain rfl : source = Path.ofText "a" := by simpa using member
    exact Or.inl (by cbv)
  started := by
    refine ⟨Path.ofText "/w/s", [Path.ofText "/w/a"], [], by cbv, ?_, rfl, by decide +kernel⟩
    exact .cons (by cbv) .nil
  ended := ⟨{}, rfl, rfl, by decide⟩

theorem main_eq_success_of_one_clean_input :
    ((main sampleSite ["--swipl", "./s", "syntax_check", "--", "-c", "a"]).outcome
      { files := sampleFiles }).1 = .ok .success := by
  have invoked : CommandLine.Invocation.ofArguments
      (splitArguments ["--swipl", "./s", "syntax_check", "--", "-c", "a"]).1 =
        .ok (.run { interpreter := some "./s" } (.build .syntaxCheck)) := by decide +kernel
  have requested : Request.ofArguments ["--swipl", "./s", "syntax_check", "--", "-c", "a"] =
      .ok { inputs := [Path.ofText "a"] } := by decide +kernel
  refine (main_eq_success_iff_cleanSteps invoked requested).1.mpr ⟨?_, by simp⟩
  intro step inRange
  obtain rfl : step = 0 := by simpa using inRange
  exact ⟨_, sample_loadClean⟩

end PrologImage.Application
