import PrologImage.Interpreter.Backend
import PrologImage.Proofs.Calculation
import PrologImage.Proofs.Diagnostic.ErrorLines
import PrologImage.Proofs.FileSystem.Entry
import PrologImage.Proofs.Interpreter.Search

/-!
Contract: what a question to the interpreter answers, and what it leaves behind.

Owns: a question as data, with or without an image to save; its answer as a calculation from the
files, the interpreter and the outcome of the next process; the theorem that loading sources and
saving an image give this answer; and the conditions for each stage of it.

Does not own: what a sequence of questions does (`Proofs.Application.CleanBuild`).

The stages are: all sources are regular files, the place of the image resolves, the interpreter is
there, the sources resolve, the process ends, its errors are read, and the image is looked for.
-/

namespace PrologImage

/-! ## Sources -/

namespace FileSystem

/-- The absolute, link-free forms of paths, in order, or the error of the first without one. -/
def resolveAll (files : FileSystem) (base : Location) (paths : List Path) :
    Except ForeignError (List Path) :=
  paths.mapM (files.resolve base)

theorem resolveAll_eq_ok_iff (files : FileSystem) (base : Location) (paths targets : List Path) :
    files.resolveAll base paths = .ok targets ↔
      List.Forall₂ (fun path target => files.resolve base path = .ok target) paths targets := by
  unfold resolveAll
  induction paths generalizing targets with
  | nil => simp [pure, Except.pure, eq_comm]
  | cons path rest inductionHypothesis =>
      rw [List.mapM_cons, List.forall₂_cons_left_iff]
      simp only [Calculation.bind_eq_ok_iff, inductionHypothesis, pure, Except.pure,
        Except.ok.injEq]
      constructor
      · rintro ⟨first, found, others, resolved, same⟩
        exact ⟨first, others, found, resolved, same.symm⟩
      · rintro ⟨first, others, found, resolved, same⟩
        exact ⟨first, found, others, resolved, same.symm⟩

end FileSystem

namespace Interpreter

theorem firstMissing_eq_ok_none_iff (files : FileSystem) (base : Location)
    (sources : List Path) :
    firstMissing files base sources = .ok none ↔
      ∀ source ∈ sources, files.IsRegular base source := by
  induction sources with
  | nil => simp [firstMissing]
  | cons source rest inductionHypothesis =>
      rw [List.forall_mem_cons, ← inductionHypothesis, firstMissing, FileSystem.IsRegular,
        ← FileSystem.entryOf?_eq_ok_some_iff, ← FileSystem.entryOf?_eq_ok_some_iff]
      rcases files.entryOf? base source with error | (_ | entry)
      · simp
      · simp
      · cases entry <;> simp

/-! ## The interpreter -/

/-- The interpreter that a workbench keeps, or else the one that the search finds. -/
def Workbench.interpreter (site : Site) (settings : Settings) (workbench : Workbench) :
    Except Fault Path :=
  match workbench.executable with
  | some program => .ok program
  | none =>
      match find? site workbench.session.files (nameSought site settings.explicit) with
      | none => .error (.reported (notInstalled (installCommands site.platform.system)))
      | some text =>
          (workbench.session.files.resolve site.workingDirectory (Path.ofText text)).mapError
            .unexpected

variable {site : Site} {settings : Settings}

theorem require_outcome (site : Site) (explicit : Option String) (session : Session) :
    (require site explicit).outcome session =
      (Workbench.interpreter site { explicit } ⟨session, none⟩,
        session.addRecord .debug (searchMessage site explicit session.files)) := by
  rw [require, Step.outcome_bind, detect_outcome, detected, Workbench.interpreter]
  cases find? site session.files (nameSought site explicit) with
  | none => rfl
  | some text =>
      dsimp only
      cases session.files.resolve site.workingDirectory (Path.ofText text) <;> rfl

/-- The workbench once the interpreter was asked for: a search is noted, and what it finds is
kept. -/
def Workbench.afterSearch (site : Site) (settings : Settings) (workbench : Workbench) :
    Workbench :=
  match workbench.executable with
  | some _ => workbench
  | none =>
      { session := workbench.session.addRecord .debug
          (searchMessage site settings.explicit workbench.session.files)
        executable := (workbench.interpreter site settings).toOption }

theorem Workbench.interpreter_of_kept {workbench : Workbench} {program : Path}
    (kept : workbench.executable = some program) :
    workbench.interpreter site settings = .ok program := by
  rw [interpreter, kept]

theorem Workbench.afterSearch_of_kept {workbench : Workbench} {program : Path}
    (kept : workbench.executable = some program) :
    workbench.afterSearch site settings = workbench := by
  rw [afterSearch, kept]

theorem executable_outcome (site : Site) (settings : Settings) (workbench : Workbench) :
    (executable site settings).outcome workbench =
      (workbench.interpreter site settings, workbench.afterSearch site settings) := by
  cases kept : workbench.executable with
  | some program =>
      rw [Workbench.interpreter_of_kept kept, Workbench.afterSearch_of_kept kept, executable,
        Step.outcome_bind, Step.outcome_get]
      simp only [kept]
      rfl
  | none =>
      have asFresh : Workbench.interpreter site { explicit := settings.explicit }
          ⟨workbench.session, none⟩ = workbench.interpreter site settings := by
        simp only [Workbench.interpreter, kept]
      simp only [executable, Step.outcome_bind, Step.outcome_get, kept, Workbench.ofSession,
        Step.outcome_within, require_outcome, asFresh, Workbench.afterSearch]
      cases workbench.interpreter site settings <;> simp [Except.toOption]

/-- A search changes only the log. -/
theorem Workbench.silent_afterSearch (site : Site) (settings : Settings) (workbench : Workbench) :
    workbench.session.Silent (workbench.afterSearch site settings).session [] := by
  unfold afterSearch
  split
  · exact .refl _
  · exact .addRecord _ _ _

/-- What a search finds is kept. -/
theorem Workbench.executable_afterSearch {workbench : Workbench} {program : Path}
    (found : workbench.interpreter site settings = .ok program) :
    (workbench.afterSearch site settings).executable = some program := by
  cases kept : workbench.executable with
  | some other =>
      rw [interpreter_of_kept kept, Except.ok.injEq] at found
      rw [afterSearch_of_kept kept, kept, found]
  | none => simp only [afterSearch, kept, found, Except.toOption]

/-! ## Resolved paths -/

theorem resolved_outcome (site : Site) (path : Path) (workbench : Workbench) :
    (resolved site path).outcome workbench =
      ((workbench.session.files.resolve site.workingDirectory path).mapError .unexpected,
        workbench) := by
  simp only [resolved, Step.outcome_bind, Step.outcome_get, Step.outcome_ofForeign]

theorem resolvedAll_outcome (site : Site) (paths : List Path) (workbench : Workbench) :
    (resolvedAll site paths).outcome workbench =
      ((workbench.session.files.resolveAll site.workingDirectory paths).mapError .unexpected,
        workbench) := by
  unfold FileSystem.resolveAll
  induction paths with
  | nil => rfl
  | cons path rest inductionHypothesis =>
      rw [resolvedAll, Step.outcome_bind, resolved_outcome, List.mapM_cons]
      cases workbench.session.files.resolve site.workingDirectory path with
      | error error => rfl
      | ok first =>
          simp only [Except.mapError, Step.outcome_bind, inductionHypothesis]
          cases rest.mapM (workbench.session.files.resolve site.workingDirectory) <;> rfl

/-- Either command line searches for the interpreter and then resolves the sources: both are
calculated from the files, and what is found is kept. -/
theorem searchAndResolve_outcome {α : Type} (site : Site) (settings : Settings)
    (sources : List Path) (make : Path → List Path → α) (workbench : Workbench) :
    ∃ after,
      (do
          let program ← executable site settings
          let targets ← resolvedAll site sources
          return make program targets : Step Workbench α).outcome workbench =
        ((do
            let program ← workbench.interpreter site settings
            let targets ← (workbench.session.files.resolveAll site.workingDirectory
              sources).mapError .unexpected
            return make program targets : Except Fault α), after) ∧
      workbench.session.Silent after.session [] ∧
      ∀ program, workbench.interpreter site settings = .ok program →
        after.executable = some program := by
  have silent := workbench.silent_afterSearch site settings
  have sameFiles : (workbench.afterSearch site settings).session.files =
      workbench.session.files := silent.files
  refine ⟨workbench.afterSearch site settings, ?_, silent,
    fun _ found => Workbench.executable_afterSearch found⟩
  rw [Step.outcome_bind, executable_outcome]
  cases workbench.interpreter site settings with
  | error fault => rfl
  | ok program =>
      simp only [Step.outcome_bind, resolvedAll_outcome, sameFiles]
      cases workbench.session.files.resolveAll site.workingDirectory sources <;> rfl

/-! ## Questions -/

/-- A question to the interpreter: whether sources load, and whether an image of them can then be
saved if a place for one is named. -/
structure Question where
  sources : List Path
  image : Option (Path × SaveOptions) := none
  verbose : Bool := false

/-- What the command line of a question is made from. -/
structure Preparation where
  program : Path
  goals : List String

namespace Question

/-- The command line of a question. -/
def command (site : Site) (settings : Settings) (question : Question) :
    Step Workbench (List String) :=
  match question.image with
  | none => consultCommand site settings question.sources question.verbose
  | some (output, options) =>
      saveCommand site settings question.sources output options question.verbose

/-- The goal that saves the image, if one is asked for. -/
def saveGoals (site : Site) (files : FileSystem) (question : Question) :
    Except ForeignError (List String) :=
  match question.image with
  | none => .ok []
  | some (output, options) =>
      (files.resolve site.workingDirectory output).map fun image => [saveGoal image options]

theorem saveGoals_eq_ok_iff (site : Site) (files : FileSystem) (sources : List Path)
    (output : Path) (options : SaveOptions) (verbose : Bool) (saving : List String) :
    saveGoals site files { sources, image := some (output, options), verbose } = .ok saving ↔
      ∃ image, files.resolve site.workingDirectory output = .ok image ∧
        saving = [saveGoal image options] := by
  simp only [saveGoals]
  cases files.resolve site.workingDirectory output with
  | error error => simp [Except.map]
  | ok image => simp [Except.map, eq_comm]

/-- The interpreter and the goals of a question, or the first reason why there are none. -/
def preparation (site : Site) (settings : Settings) (question : Question)
    (workbench : Workbench) : Except Fault Preparation := do
  let saving ← (question.saveGoals site workbench.session.files).mapError .unexpected
  let program ← workbench.interpreter site settings
  let targets ← (workbench.session.files.resolveAll site.workingDirectory
    question.sources).mapError .unexpected
  return ⟨program, consultGoal targets :: saving⟩

theorem preparation_eq_ok_iff (site : Site) (settings : Settings) (question : Question)
    (workbench : Workbench) (prepared : Preparation) :
    question.preparation site settings workbench = .ok prepared ↔
      ∃ saving targets, question.saveGoals site workbench.session.files = .ok saving ∧
        workbench.interpreter site settings = .ok prepared.program ∧
        List.Forall₂ (fun source target =>
          workbench.session.files.resolve site.workingDirectory source = .ok target)
          question.sources targets ∧
        prepared.goals = consultGoal targets :: saving := by
  simp only [preparation, Calculation.bind_eq_ok_iff, Calculation.mapError_eq_ok_iff,
    FileSystem.resolveAll_eq_ok_iff, pure, Except.pure, Except.ok.injEq]
  constructor
  · rintro ⟨saving, places, program, found, targets, resolved, rfl⟩
    exact ⟨saving, targets, places, found, resolved, rfl⟩
  · rintro ⟨saving, targets, places, found, resolved, goals⟩
    exact ⟨saving, places, prepared.program, found, targets, resolved, by rw [← goals]⟩

/-- The command line that a preparation leads to. -/
def arguments (question : Question) (prepared : Preparation) : List String :=
  commandLine prepared.program question.verbose prepared.goals

/-- The interpreter that a preparation starts is the one that the workbench has or finds. -/
theorem interpreter_of_preparation {site : Site} {settings : Settings} {question : Question}
    {workbench : Workbench} {prepared : Preparation}
    (isPrepared : question.preparation site settings workbench = .ok prepared) :
    workbench.interpreter site settings = .ok prepared.program := by
  obtain ⟨_, _, _, found, _, _⟩ :=
    (preparation_eq_ok_iff site settings question workbench prepared).mp isPrepared
  exact found

/-- Once the saving goals are known, the command line needs the interpreter and the sources. -/
theorem arguments_of_saveGoals {site : Site} {question : Question} {workbench : Workbench}
    {saving : List String}
    (places : question.saveGoals site workbench.session.files = .ok saving)
    (settings : Settings) :
    (question.preparation site settings workbench).map question.arguments = do
      let program ← workbench.interpreter site settings
      let targets ← (workbench.session.files.resolveAll site.workingDirectory
        question.sources).mapError .unexpected
      return commandLine program question.verbose (consultGoal targets :: saving) := by
  simp only [preparation, places]
  cases workbench.interpreter site settings with
  | error fault => rfl
  | ok program =>
      cases workbench.session.files.resolveAll site.workingDirectory question.sources <;> rfl

theorem command_outcome (site : Site) (settings : Settings) (question : Question)
    (workbench : Workbench) :
    ∃ after, (question.command site settings).outcome workbench =
        ((question.preparation site settings workbench).map question.arguments, after) ∧
      workbench.session.Silent after.session [] ∧
      ∀ prepared, question.preparation site settings workbench = .ok prepared →
        after.executable = some prepared.program := by
  rcases question with ⟨sources, _ | ⟨output, options⟩, verbose⟩
  · obtain ⟨after, made, silent, kept⟩ := searchAndResolve_outcome site settings sources
      (fun program targets => commandLine program verbose [consultGoal targets]) workbench
    refine ⟨after, made.trans ?_, silent,
      fun _ isPrepared => kept _ (interpreter_of_preparation isPrepared)⟩
    rw [arguments_of_saveGoals rfl settings]
  · -- The place of the image is resolved before the interpreter is searched for.
    simp only [command, saveCommand]
    rw [Step.outcome_bind, resolved_outcome]
    cases found : workbench.session.files.resolve site.workingDirectory output with
    | error error =>
        have stopped : preparation site settings
            { sources, image := some (output, options), verbose } workbench =
              .error (.unexpected error) := by
          simp only [preparation, saveGoals, found]
          rfl
        rw [stopped]
        exact ⟨workbench, rfl, .refl _, by simp⟩
    | ok image =>
        obtain ⟨after, made, silent, kept⟩ := searchAndResolve_outcome site settings sources
          (fun program targets =>
            commandLine program verbose [consultGoal targets, saveGoal image options]) workbench
        refine ⟨after, made.trans ?_, silent,
          fun _ isPrepared => kept _ (interpreter_of_preparation isPrepared)⟩
        have places : saveGoals site workbench.session.files
            { sources, image := some (output, options), verbose } =
              .ok [saveGoal image options] :=
          (saveGoals_eq_ok_iff ..).mpr ⟨image, found, rfl⟩
        rw [arguments_of_saveGoals places settings]

end Question

/-! ## Processes -/

/-- The completion that a question gets from the end of its process. -/
def completionOf (settings : Settings) (program : Path) : ProcessEnd → Except Fault Completion
  | .completed completion => .ok completion
  | .timedOut => .error (.reported (timeExceeded settings.limit))
  | .failed (.system error) => .error (.reported (notRunnable program error))
  | .failed error => .error (.unexpected error)
  | .interrupted => .error .interrupted

theorem debug_outcome (message : String) (workbench : Workbench) :
    ∃ after, (Workbench.ofSession (Session.debug message)).outcome workbench = (.ok (), after) ∧
      workbench.session.Silent after.session [] ∧ after.executable = workbench.executable :=
  ⟨_, rfl, .addRecord _ _ _, rfl⟩

theorem logCompletion_outcome (completion : Completion) (workbench : Workbench) :
    ∃ after, (logCompletion completion).outcome workbench = (.ok (), after) ∧
      workbench.session.Silent after.session [] ∧ after.executable = workbench.executable := by
  obtain ⟨ended, endLogged, endSilent, endKept⟩ :=
    debug_outcome s!"swipl exited with status {completion.status}" workbench
  simp only [logCompletion, Step.outcome_bind, endLogged]
  split
  · obtain ⟨after, logged, silent, kept⟩ := debug_outcome
      ("swipl stderr:\n" ++ String.ofList (Text.trimEnd (errorText completion).toList)) ended
    exact ⟨after, logged, endSilent.trans silent, kept.trans endKept⟩
  · exact ⟨ended, rfl, endSilent, endKept⟩

/-- A command line is run by exactly one process. -/
theorem runInterpreter_outcome (site : Site) (settings : Settings) (command : List String)
    {workbench : Workbench} {program : Path} (found : workbench.executable = some program) :
    ∃ after, (runInterpreter site settings command).outcome workbench =
        (completionOf settings program (workbench.session.outcomeAt 0).ending, after) ∧
      workbench.session.Silent after.session [⟨command, settings.limit⟩] ∧
      after.executable = some program := by
  obtain ⟨noted, wasNoted, notedSilent, notedKept⟩ :=
    debug_outcome ("Running: " ++ Text.ShellWord.joined command) workbench
  rw [found] at notedKept
  let started : Workbench :=
    { noted with session := noted.session.start ⟨command, settings.limit⟩ }
  have startSilent : workbench.session.Silent started.session [⟨command, settings.limit⟩] :=
    notedSilent.trans (.start noted.session _)
  have ran : (Workbench.ofSession (Session.run ⟨command, settings.limit⟩)).outcome noted =
      (.ok (workbench.session.outcomeAt 0).ending, started) := by
    rw [Workbench.ofSession, Step.outcome_within, Session.run_outcome,
      notedSilent.outcomeAt_of_nil]
  simp only [runInterpreter, Step.outcome_bind, wasNoted, ran]
  cases (workbench.session.outcomeAt 0).ending with
  | completed completion =>
      obtain ⟨after, logged, silent, kept⟩ := logCompletion_outcome completion started
      simp only [Step.outcome_bind, logged]
      exact ⟨after, rfl, startSilent.trans silent, kept.trans notedKept⟩
  | timedOut => exact ⟨started, rfl, startSilent, notedKept⟩
  | interrupted => exact ⟨started, rfl, startSilent, notedKept⟩
  | failed error =>
      cases error with
      | system error =>
          have startedKept : started.executable = some program := notedKept
          have searched := executable_outcome site settings started
          rw [Workbench.interpreter_of_kept startedKept,
            Workbench.afterSearch_of_kept startedKept] at searched
          simp only [Step.outcome_bind, searched]
          exact ⟨started, rfl, startSilent, notedKept⟩
      | _ => exact ⟨started, rfl, startSilent, notedKept⟩

/-! ## Answers -/

namespace Question

/-- Asks a question: the first error, or none. -/
def ask (site : Site) (settings : Settings) (question : Question) :
    Step Workbench (Option Diagnostic) := do
  match ← checkSources site question.sources with
  | some diagnostic => return some diagnostic
  | none =>
      let command ← question.command site settings
      let completion ← runInterpreter site settings command
      Step.ofForeign (verdict completion)

/-- The answer to a question, calculated from what the workbench holds. -/
def answer (site : Site) (settings : Settings) (question : Question) (workbench : Workbench) :
    Except Fault (Option Diagnostic) := do
  match ← (firstMissing workbench.session.files site.workingDirectory
      question.sources).mapError (.unexpected <| .system ·) with
  | some diagnostic => return some diagnostic
  | none =>
      let prepared ← question.preparation site settings workbench
      let completion ←
        completionOf settings prepared.program (workbench.session.outcomeAt 0).ending
      (verdict completion).mapError .unexpected

theorem consult_eq_ask (site : Site) (settings : Settings) (sources : List Path)
    (verbose : Bool) :
    consult site settings sources verbose = ask site settings { sources, verbose } := rfl

theorem checkSources_outcome (site : Site) (sources : List Path) (workbench : Workbench) :
    (checkSources site sources).outcome workbench =
      ((firstMissing workbench.session.files site.workingDirectory sources).mapError
        (.unexpected <| .system ·), workbench) := by
  simp only [checkSources, Step.outcome_bind, Step.outcome_get]
  cases firstMissing workbench.session.files site.workingDirectory sources <;> rfl

/-- A first source that is missing is told without starting anything. -/
theorem consult_of_missing {site : Site} {settings : Settings} {path : Path} (rest : List Path)
    (verbose : Bool) {workbench : Workbench}
    (missing : workbench.session.files.entryOf? site.workingDirectory path = .ok none) :
    (consult site settings (path :: rest) verbose).outcome workbench =
      (.ok (some (.bare s!"source file {path.text} does not exist")), workbench) := by
  have stops : firstMissing workbench.session.files site.workingDirectory (path :: rest) =
      .ok (some (.bare s!"source file {path.text} does not exist")) := by
    rw [firstMissing, missing]
  rw [consult, Step.outcome_bind, checkSources_outcome, stops]
  rfl

/-- A question gets its answer, and once it is prepared it is asked by exactly one process. -/
theorem ask_outcome (site : Site) (settings : Settings) (question : Question)
    (workbench : Workbench) :
    ∃ after, (question.ask site settings).outcome workbench =
        (question.answer site settings workbench, after) ∧
      ∀ prepared,
        firstMissing workbench.session.files site.workingDirectory question.sources = .ok none →
        question.preparation site settings workbench = .ok prepared →
          workbench.session.Silent after.session
              [⟨question.arguments prepared, settings.limit⟩] ∧
            after.executable = some prepared.program := by
  simp only [ask, answer, Step.outcome_bind, checkSources_outcome]
  cases firstMissing workbench.session.files site.workingDirectory question.sources with
  | error error => exact ⟨workbench, rfl, by simp⟩
  | ok missing =>
      cases missing with
      | some diagnostic => exact ⟨workbench, rfl, by simp⟩
      | none =>
          obtain ⟨built, wasBuilt, builtSilent, builtKept⟩ :=
            command_outcome site settings question workbench
          simp only [Except.mapError, Step.outcome_bind, wasBuilt]
          cases isPrepared : question.preparation site settings workbench with
          | error fault => exact ⟨built, rfl, by simp⟩
          | ok prepared =>
              obtain ⟨after, ran, ranSilent, ranKept⟩ := runInterpreter_outcome site settings
                (question.arguments prepared) (builtKept prepared isPrepared)
              rw [builtSilent.outcomeAt_of_nil] at ran
              refine ⟨after, ?_, ?_⟩
              · simp only [Except.map, ran, bind, Except.bind]
                cases completionOf settings prepared.program
                    (workbench.session.outcomeAt 0).ending with
                | error fault => rfl
                | ok completion => exact Step.outcome_ofForeign (verdict completion) after
              · intro other _ same
                cases same
                exact ⟨builtSilent.trans ranSilent, ranKept⟩

end Question

/-- A process that ended well: status zero, and no line of its errors reports an error. -/
structure IsClean (completion : Completion) : Prop where
  status : completion.status = 0
  silent : ∀ line ∈ Text.lines (errorText completion).toList, ¬ Diagnostic.errorMark <+: line

theorem verdict_eq_ok_none_iff (completion : Completion) :
    verdict completion = .ok none ↔ IsClean completion := by
  have parts : IsClean completion ↔
      Diagnostic.read (errorText completion) = .ok none ∧ completion.status = 0 := by
    rw [Diagnostic.read_eq_ok_none_iff]
    exact ⟨fun clean => ⟨clean.silent, clean.status⟩, fun both => ⟨both.2, both.1⟩⟩
  rw [parts]
  unfold verdict
  rcases Diagnostic.read (errorText completion) with numeral | (_ | diagnostic)
  · simp
  · by_cases zero : completion.status = 0 <;> simp [zero]
  · simp

theorem completionOf_eq_ok_iff (settings : Settings) (program : Path) (ending : ProcessEnd)
    (completion : Completion) :
    completionOf settings program ending = .ok completion ↔ ending = .completed completion := by
  cases ending with
  | failed error => cases error <;> simp [completionOf]
  | _ => simp [completionOf]

/-- There is no error to report exactly when the sources are files, the command line can be made
and its process ends well. -/
theorem Question.answer_eq_ok_none_iff (site : Site) (settings : Settings) (question : Question)
    (workbench : Workbench) :
    question.answer site settings workbench = .ok none ↔
      (∀ source ∈ question.sources,
        workbench.session.files.IsRegular site.workingDirectory source) ∧
      ∃ prepared completion,
        question.preparation site settings workbench = .ok prepared ∧
        (workbench.session.outcomeAt 0).ending = .completed completion ∧ IsClean completion := by
  rw [← firstMissing_eq_ok_none_iff, answer, Calculation.bind_eq_ok_iff]
  simp only [Calculation.mapError_eq_ok_iff]
  constructor
  · rintro ⟨_ | diagnostic, noneMissing, rest⟩
    · simp only [Calculation.bind_eq_ok_iff, Calculation.mapError_eq_ok_iff,
        completionOf_eq_ok_iff, verdict_eq_ok_none_iff] at rest
      obtain ⟨prepared, isPrepared, completion, ended, clean⟩ := rest
      exact ⟨noneMissing, prepared, completion, isPrepared, ended, clean⟩
    · cases rest
  · rintro ⟨noneMissing, prepared, completion, isPrepared, ended, clean⟩
    refine ⟨none, noneMissing, ?_⟩
    simp only [Calculation.bind_eq_ok_iff, Calculation.mapError_eq_ok_iff,
      completionOf_eq_ok_iff, verdict_eq_ok_none_iff]
    exact ⟨prepared, isPrepared, completion, ended, clean⟩

/-- The answer to a question that saves an image: without an error, the image is looked for. -/
def saveAnswer (site : Site) (settings : Settings) (question : Question) (output : Path)
    (workbench : Workbench) : Except Fault (Option Diagnostic) := do
  match ← question.answer site settings workbench with
  | some diagnostic => return some diagnostic
  | none =>
      let written ← ((workbench.session.filesAt 1).holds site.workingDirectory output).mapError
        (.unexpected <| .system ·)
      if written then return none else .error (.reported (imageMissing output))

theorem saveAnswer_eq_ok_none_iff (site : Site) (settings : Settings) (question : Question)
    (output : Path) (workbench : Workbench) :
    saveAnswer site settings question output workbench = .ok none ↔
      question.answer site settings workbench = .ok none ∧
        (workbench.session.filesAt 1).Leads site.workingDirectory output := by
  rw [saveAnswer, Calculation.bind_eq_ok_iff, ← FileSystem.holds_eq_ok_true_iff]
  constructor
  · rintro ⟨_ | diagnostic, answered, rest⟩
    · rw [Calculation.bind_eq_ok_iff] at rest
      obtain ⟨_ | _, looked, accepted⟩ := rest
      · cases accepted
      · exact ⟨answered, (Calculation.mapError_eq_ok_iff _ _ _).mp looked⟩
    · cases rest
  · rintro ⟨answered, leads⟩
    refine ⟨none, answered, ?_⟩
    rw [Calculation.bind_eq_ok_iff]
    exact ⟨true, (Calculation.mapError_eq_ok_iff _ _ _).mpr leads, rfl⟩

/-- Looks for the image after a question without an error. -/
def lookForImage (site : Site) (output : Path) : Step Workbench (Option Diagnostic) := do
  let workbench ← get
  let written ← ofSystem (workbench.session.files.holds site.workingDirectory output)
  if written then return none else throw (.reported (imageMissing output))

theorem lookForImage_outcome (site : Site) (output : Path) (workbench : Workbench) :
    (lookForImage site output).outcome workbench =
      ((do
          let written ← (workbench.session.files.holds site.workingDirectory output).mapError
            (.unexpected <| .system ·)
          if written then return none else .error (.reported (imageMissing output)) :
        Except Fault (Option Diagnostic)), workbench) := by
  simp only [lookForImage, Step.outcome_bind, Step.outcome_get]
  rcases workbench.session.files.holds site.workingDirectory output with error | (_ | _) <;> rfl

/-- Saving an image is asking the question and, without an error, looking for the image. -/
theorem saveImage_outcome_eq (site : Site) (settings : Settings) (sources : List Path)
    (output : Path) (options : SaveOptions) (verbose : Bool) (workbench : Workbench) :
    (saveImage site settings sources output options verbose).outcome workbench =
      match (Question.ask site settings
          { sources, image := some (output, options), verbose }).outcome workbench with
      | (.ok none, after) => (lookForImage site output).outcome after
      | (.ok (some diagnostic), after) => (.ok (some diagnostic), after)
      | (.error fault, after) => (.error fault, after) := by
  simp only [saveImage, Question.ask, Question.command, Step.outcome_bind]
  rcases (checkSources site sources).outcome workbench with ⟨_ | (_ | _), checked⟩
  · rfl
  · simp only [Step.outcome_bind]
    rcases (saveCommand site settings sources output options verbose).outcome checked with
      ⟨_ | command, built⟩
    · rfl
    · simp only
      rcases (runInterpreter site settings command).outcome built with ⟨_ | completion, ended⟩
      · rfl
      · simp only [Step.outcome_ofForeign]
        rcases verdict completion with _ | (_ | _) <;> rfl
  · rfl

/-- Saving an image gives its answer, and once the question is prepared it is asked by exactly one
process. -/
theorem saveImage_outcome (site : Site) (settings : Settings) (sources : List Path)
    (output : Path) (options : SaveOptions) (verbose : Bool) (workbench : Workbench) :
    let question : Question := { sources, image := some (output, options), verbose }
    ∃ after, (saveImage site settings sources output options verbose).outcome workbench =
        (saveAnswer site settings question output workbench, after) ∧
      ∀ prepared, firstMissing workbench.session.files site.workingDirectory sources = .ok none →
        question.preparation site settings workbench = .ok prepared →
          workbench.session.Silent after.session
              [⟨question.arguments prepared, settings.limit⟩] ∧
            after.executable = some prepared.program := by
  intro question
  obtain ⟨after, asked, ran⟩ := question.ask_outcome site settings workbench
  refine ⟨after, ?_, ran⟩
  rw [saveImage_outcome_eq, asked, saveAnswer]
  cases answered : question.answer site settings workbench with
  | error fault => rfl
  | ok diagnostic =>
      cases diagnostic with
      | some diagnostic => rfl
      | none =>
          obtain ⟨regular, prepared, _, isPrepared, _⟩ :=
            (question.answer_eq_ok_none_iff site settings workbench).mp answered
          have noneMissing := (firstMissing_eq_ok_none_iff _ _ _).mpr regular
          have files : after.session.files = workbench.session.filesAt 1 :=
            (ran prepared noneMissing isPrepared).1.files
          rw [← files]
          exact lookForImage_outcome site output after

end Interpreter

end PrologImage
