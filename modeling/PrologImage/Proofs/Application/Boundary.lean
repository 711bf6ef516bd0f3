import PrologImage.Application
import PrologImage.Proofs.Interpreter.Conduct

/-!
Contract: every run of the program ends at its boundary, with a status that tells how.

Owns: that each command is a step in good order; what the boundary does with a fault; and the
theorem that a run always has one of three exit statuses, that it is the one for an interruption
exactly when the user interrupted a process, and that a failure leaves an error line on the output
or a complete report of the surroundings.

Does not own: when a build succeeds (`Proofs.Application.CleanBuild`).
-/

namespace PrologImage

/-! ## The report on the surroundings -/

namespace Health

theorem wellConducted_versionCheck (detection : Interpreter.Detection) :
    WellConducted id (versionCheck detection) := by
  cases detection with
  | missing commands => exact .of_pure _
  | found path =>
      refine .of_bind (Interpreter.wellConducted_probeVersion path) ?_
      intro version
      cases version with
      | some text => exact .of_pure _
      | none => exact .of_pure _

theorem wellConducted_checks (site : Site) (detection : Interpreter.Detection) :
    WellConducted id (checks site detection) :=
  .of_bind (wellConducted_versionCheck detection) fun _ => .of_pure _

theorem wellConducted_printTable (mode : ConsoleMode) (checks : List Check) :
    WellConducted id (printTable mode checks) := by
  cases mode with
  | plain => exact Session.wellConducted_writeErrors _
  | styledBy library =>
      refine .of_bind (Session.wellConducted_writeErrors _) ?_
      intro _
      exact .of_bind (.of_ofForeign _) fun table => Session.wellConducted_writeErrors table

theorem wellConducted_printLines (mode : ConsoleMode) (lines : List (List String)) :
    WellConducted id (printLines mode lines) := by
  induction lines with
  | nil => exact .of_pure ()
  | cons texts rest inductionHypothesis =>
      exact .of_bind (Console.wellConducted_printMarked mode texts) fun _ => inductionHypothesis

theorem wellConducted_report (site : Site) (explicit : Option String) :
    WellConducted id (report site explicit) := by
  refine .of_bind (Interpreter.wellConducted_detect site explicit) ?_
  intro detection
  refine .of_bind (wellConducted_checks site detection) ?_
  intro checks
  refine .of_bind (wellConducted_printTable site.console checks) ?_
  intro _
  refine .of_bind (wellConducted_printLines site.console _) ?_
  intro _
  split
  · exact .of_bind (Console.wellConducted_printMarked _ _) fun _ => .of_pure false
  · exact .of_bind (Console.wellConducted_printMarked _ _) fun _ => .of_pure true

/-- A report that ends with a failed check has printed its last line. -/
theorem errors_of_report_false {site : Site} {explicit : Option String} {before after : Session}
    (ended : (report site explicit).outcome before = (.ok false, after)) :
    ∃ earlier line,
      Console.markedLine site.console ["[bold red]Some checks failed.[/bold red]"] = .ok line ∧
        after.errors = earlier ++ line := by
  simp only [report, Step.outcome_bind_eq_ok_iff] at ended
  obtain ⟨_, _, _, checks, _, _, _, _, _, _, advised, _, ended⟩ := ended
  by_cases failed : checks.any Check.fails = true
  · simp only [failed, if_true, Console.printMarked, Step.outcome_bind_eq_ok_iff,
      Step.outcome_ofForeign, Step.outcome_modify, Step.outcome_pure, Prod.mk.injEq,
      Calculation.mapError_eq_ok_iff] at ended
    obtain ⟨_, _, ⟨line, _, ⟨marked, rfl⟩, _, rfl⟩, _, rfl⟩ := ended
    exact ⟨advised.errors, line, marked, rfl⟩
  · rw [if_neg failed, Step.outcome_bind_eq_ok_iff] at ended
    obtain ⟨_, _, _, passed⟩ := ended
    cases passed

end Health

namespace Application

open Interpreter

/-! ## Builds -/

section Builds

variable {site : Site} {settings : Settings}

/-- The session in a state of loading. -/
def loadingSession (loading : Loading Workbench) : Session :=
  loading.backend.session

theorem wellConducted_ofBackend {α : Type} {step : Step Workbench α}
    (conducted : WellConducted Workbench.session step) :
    WellConducted loadingSession (Loading.ofBackend step) :=
  .of_within (fun _ => rfl) (fun _ _ => rfl) conducted

theorem wellConducted_load (path : Path) (verbose : Bool) :
    WellConducted loadingSession ((loader site settings).load path verbose) := by
  refine .of_bind (.of_modify ?_ ?_) ?_
  · intro loading
    exact .of_same rfl rfl rfl
  · intro loading
    exact ⟨_, rfl, Console.isWhole_literalLine site.console [s!"Loading {path.text} ..."]⟩
  intro _
  refine .of_bind .of_get ?_
  intro loading
  refine .of_bind (wellConducted_ofBackend (wellConducted_consult _ verbose)) ?_
  intro diagnostic
  dsimp only
  split
  · refine .of_bind (.of_modify ?_ ?_) fun _ => .of_pure _
    · intro other
      exact .refl _
    · intro other
      exact ⟨"", String.append_empty.symm, .empty⟩
  · exact .of_pure _

theorem wellConducted_loadAll (verbose : Bool) (paths : List Path) :
    WellConducted loadingSession ((loader site settings).loadAll verbose paths) := by
  induction paths with
  | nil => exact .of_pure none
  | cons path rest inductionHypothesis =>
      refine .of_bind (wellConducted_load path verbose) ?_
      intro result
      split
      · exact inductionHypothesis
      · exact .of_pure _

theorem wellConducted_loadInputs (request : Request) :
    WellConducted loadingSession (Build.loadInputs (loader site settings) request) := by
  refine .of_bind (wellConducted_loadAll request.verbose request.inputs) ?_
  intro result
  split
  · exact .of_throw_reported (Failure.isTellable_of_no_hint rfl)
  · exact .of_pure ()

theorem isTellable_outputMissing : Build.outputMissing.IsTellable := by
  intro hint same
  cases same
  decide +kernel

theorem wellConducted_precompile (request : Request) (options : SaveOptions) :
    WellConducted loadingSession
      (Build.precompile (loader site settings) request options) := by
  unfold Build.precompile
  cases request.output with
  | none => exact .of_throw_reported isTellable_outputMissing
  | some output =>
      refine .of_bind (wellConducted_loadInputs request) ?_
      intro _
      refine .of_bind .of_get ?_
      intro loading
      refine .of_bind
        (wellConducted_ofBackend (wellConducted_saveImage _ output options request.verbose)) ?_
      intro diagnostic
      cases diagnostic with
      | some diagnostic => exact .of_throw_reported (Failure.isTellable_of_no_hint rfl)
      | none => exact .of_pure output

theorem wellConducted_onFreshLoader {α : Type} {step : Step (Loading Workbench) α}
    (conducted : WellConducted loadingSession step) :
    WellConducted id (onFreshLoader step) :=
  .of_within (fun _ => rfl) (fun _ _ => rfl) conducted

theorem wellConducted_build (action : Action) (request : Request) :
    WellConducted id (build site settings action request) := by
  cases action with
  | syntaxCheck =>
      refine .of_bind (wellConducted_onFreshLoader (wellConducted_loadInputs request)) ?_
      intro _
      exact Console.wellConducted_printLiteral _ _
  | precompile =>
      refine .of_bind (wellConducted_onFreshLoader (wellConducted_precompile request {})) ?_
      intro output
      exact Console.wellConducted_printLiteral _ _

end Builds

/-! ## Commands -/

theorem isTellable_optionError (error : CommandLine.OptionError) : error.failure.IsTellable := by
  intro hint same
  cases same
  decide +kernel

theorem wellConducted_runCommand (site : Site) (options : CommandLine.Options)
    (command : CommandLine.Command) (arguments : List String) :
    WellConducted id (runCommand site options command arguments) := by
  refine .of_bind (.of_modify ?_ ?_) ?_
  · intro session
    exact .of_same rfl rfl rfl
  · intro session
    exact ⟨"", String.append_empty.symm, .empty⟩
  intro _
  cases command with
  | doctor =>
      refine .of_bind (Health.wellConducted_report site options.interpreter) ?_
      intro passed
      cases passed with
      | true => exact .of_pure _
      | false => exact .of_pure _
  | build action =>
      dsimp only
      cases Request.ofArguments arguments with
      | error error => exact .of_throw_reported (Failure.isTellable_of_no_hint rfl)
      | ok request => exact .of_bind (wellConducted_build action request) fun _ => .of_pure _

theorem isWhole_asText (lines : List String) : Console.IsWhole (CommandLine.asText lines) := by
  apply Console.IsWhole.join
  intro line member
  obtain ⟨lead, _, rfl⟩ := List.mem_map.mp member
  exact .line lead

theorem isWhole_helpText (command : Option CommandLine.Command) :
    Console.IsWhole (CommandLine.helpText command) := by
  cases command with
  | none => exact isWhole_asText _
  | some command => exact isWhole_asText _

theorem wellConducted_run (site : Site) (arguments : List String) :
    WellConducted id (run site arguments) := by
  unfold run
  cases CommandLine.Invocation.ofArguments (splitArguments arguments).1 with
  | error error => exact .of_throw_reported (isTellable_optionError error)
  | ok invocation =>
      cases invocation with
      | help command =>
          exact .of_bind (Session.wellConducted_writeOutput (isWhole_helpText command))
            fun _ => .of_pure _
      | version =>
          exact .of_bind (Session.wellConducted_writeOutput (.line _)) fun _ => .of_pure _
      | run options command => exact wellConducted_runCommand site options command arguments

/-- A command that ends by itself succeeds, or has reported on the surroundings with a failed
check. -/
theorem runCommand_eq_ok {site : Site} {options : CommandLine.Options}
    {command : CommandLine.Command} {arguments : List String} {session after : Session}
    {status : ExitStatus}
    (ended : (runCommand site options command arguments).outcome session = (.ok status, after)) :
    status = .success ∨
      (status = .failure ∧ command = .doctor ∧
        (Health.report site options.interpreter).outcome
          { session with threshold := options.logLevel } = (.ok false, after)) := by
  simp only [runCommand, Step.outcome_bind, Step.outcome_modify] at ended
  cases command with
  | doctor =>
      rw [Step.outcome_bind_eq_ok_iff] at ended
      obtain ⟨passed, reported, report, ended⟩ := ended
      cases passed with
      | true =>
          cases ended
          exact Or.inl rfl
      | false =>
          cases ended
          exact Or.inr ⟨rfl, rfl, report⟩
  | build action =>
      cases requested : Request.ofArguments arguments with
      | error error =>
          rw [requested] at ended
          cases ended
      | ok request =>
          simp only [requested, Step.outcome_bind_eq_ok_iff] at ended
          obtain ⟨_, _, _, ended⟩ := ended
          cases ended
          exact Or.inl rfl

/-- The same of a whole run: help and the version always succeed. -/
theorem run_eq_ok {site : Site} {arguments : List String} {session after : Session}
    {status : ExitStatus} (ended : (run site arguments).outcome session = (.ok status, after)) :
    status = .success ∨
      (status = .failure ∧ ∃ options,
        CommandLine.Invocation.ofArguments (splitArguments arguments).1 =
          .ok (.run options .doctor) ∧
        (Health.report site options.interpreter).outcome
          { session with threshold := options.logLevel } = (.ok false, after)) := by
  unfold run at ended
  cases invoked : CommandLine.Invocation.ofArguments (splitArguments arguments).1 with
  | error error =>
      rw [invoked] at ended
      cases ended
  | ok invocation =>
      rw [invoked] at ended
      cases invocation with
      | help command =>
          cases ended
          exact Or.inl rfl
      | version =>
          cases ended
          exact Or.inl rfl
      | run options command =>
          rcases runCommand_eq_ok ended with succeeded | ⟨failed, rfl, report⟩
          · exact Or.inl succeeded
          · exact Or.inr ⟨failed, options, rfl, report⟩

/-! ## Telling a fault -/

/-- What is told about a failure starts with an error line. -/
theorem errorLines_eq (failure : Failure) :
    ∃ message rest, Report.errorLines failure = (Console.errorWord ++ message) :: rest := by
  cases failure with
  | plain kind message hint => exact ⟨message, [], rfl⟩
  | notLoaded diagnostic =>
      simp only [Report.errorLines, Diagnostic.report]
      cases diagnostic.place? with
      | some place => exact ⟨diagnostic.message, _, rfl⟩
      | none => exact ⟨_, [], rfl⟩

/-- A source that does not load for a reason of the program's own is told by one line. -/
theorem errorLines_bare (text : String) :
    Report.errorLines (.notLoaded (.bare text)) = ["ERROR: " ++ text] := by
  simp [Report.errorLines, Diagnostic.report, Diagnostic.bare, Diagnostic.place?]

theorem printLines_outcome (mode : ConsoleMode) (lines : List String) (session : Session) :
    (Report.printLines mode lines).outcome session =
      (.ok (), session.writeOutput
        (String.join (lines.map fun line => Console.literalLine mode [line]))) := by
  induction lines generalizing session with
  | nil =>
      simp only [List.map_nil, String.join_nil, Session.writeOutput, String.append_empty]
      rfl
  | cons line rest inductionHypothesis =>
      simp only [Report.printLines, Console.printLiteral, Step.outcome_bind, Step.outcome_modify,
        inductionHypothesis, List.map_cons, String.join_cons, Session.writeOutput,
        String.append_assoc]

/-- A hint that can be printed is printed, and nothing else happens. -/
theorem printHint_outcome (mode : ConsoleMode) (session : Session) {hint : Option String}
    (free : ∀ text, hint = some text → Console.IsBracketFree text) :
    ∃ line, (Report.printHint mode hint).outcome session = (.ok (), session.writeErrors line) := by
  have silent : session.writeErrors "" = session := by
    rw [Session.writeErrors, String.append_empty]
  cases hint with
  | none => exact ⟨"", by rw [silent]; rfl⟩
  | some text =>
      by_cases empty : text.isEmpty = true
      · refine ⟨"", ?_⟩
        rw [silent, Report.printHint, if_pos empty]
        rfl
      · obtain ⟨line, marked⟩ := Console.markedLine_hint mode (free text rfl)
        refine ⟨line, ?_⟩
        rw [Report.printHint, if_neg empty, Console.printMarked, marked]
        rfl

/-- The boundary tells a failure with an error line and lets nothing through. -/
theorem settle_reported (site : Site) {failure : Failure} (tellable : failure.IsTellable)
    {session : Session} (whole : Console.IsWhole session.output) :
    ∃ after, (settle site (.reported failure)).outcome session = (.ok .failure, after) ∧
      Console.HasErrorLine after.output ∧ after.started = session.started := by
  obtain ⟨message, rest, lines⟩ := errorLines_eq failure
  let told := session.writeOutput (String.join
    ((Report.errorLines failure).map fun line => Console.literalLine site.console [line]))
  obtain ⟨line, hinted⟩ := printHint_outcome site.console told tellable
  refine ⟨told.writeErrors line, ?_, ?_, rfl⟩
  · simp only [settle, Report.failure, Step.outcome_bind, printLines_outcome]
    rw [show (Report.printHint site.console failure.hint).outcome told = _ from hinted]
    rfl
  · have first := Console.hasErrorLine_literalLine whole site.console message
    show Console.HasErrorLine (session.output ++ _)
    rw [lines, List.map_cons, String.join_cons, ← String.append_assoc]
    exact first.append _

theorem settle_unexpected (site : Site) (error : ForeignError) {session : Session}
    (whole : Console.IsWhole session.output) :
    ∃ after, (settle site (.unexpected error)).outcome session = (.ok .failure, after) ∧
      Console.HasErrorLine after.output ∧ after.started = session.started := by
  have split : (s!"ERROR: unexpected failure: {error.name}: {error.message}" : String) =
      Console.errorWord ++ s!"unexpected failure: {error.name}: {error.message}" := by
    have word : "ERROR: unexpected failure: " = Console.errorWord ++ "unexpected failure: " := by
      decide
    simp only [word, String.append_assoc, toString]
  refine ⟨_, rfl, ?_, rfl⟩
  rw [split]
  exact Console.hasErrorLine_literalLine whole site.console _

theorem settle_interrupted (site : Site) (session : Session) :
    ∃ after, (settle site .interrupted).outcome session = (.ok .interrupted, after) ∧
      after.started = session.started := by
  obtain ⟨line, marked⟩ := Console.markedLine_aborted site.console
  refine ⟨session.writeErrors line, ?_, rfl⟩
  rw [settle, Console.printMarked, marked]
  rfl

/-! ## The boundary -/

/-- The command asked for a report on the surroundings, which was printed to its last line. -/
structure HasReported (site : Site) (arguments : List String) (start after : Session) : Prop where
  report : ∃ options,
    CommandLine.Invocation.ofArguments (splitArguments arguments).1 =
      .ok (.run options .doctor) ∧
    (Health.report site options.interpreter).outcome
      { start with threshold := options.logLevel } = (.ok false, after)
  lastLine : ∃ earlier line,
    Console.markedLine site.console ["[bold red]Some checks failed.[/bold red]"] = .ok line ∧
      after.errors = earlier ++ line

theorem code_eq_interrupted_iff (status : ExitStatus) :
    status.code = 130 ↔ status = .interrupted := by
  cases status <;> decide

theorem code_eq_failure_iff (status : ExitStatus) : status.code = 1 ↔ status = .failure := by
  cases status <;> decide

theorem code_mem (status : ExitStatus) : status.code ∈ [0, 1, 130] := by
  cases status <;> decide

/-- What a run ends with becomes an exit status, and no process is started any more. -/
theorem main_of_run {site : Site} {arguments : List String} {start before : Session}
    {result : Except Fault ExitStatus}
    (ended : (run site arguments).outcome start = (result, before))
    (whole : Console.IsWhole before.output)
    (tellable : ∀ failure, result = .error (.reported failure) → failure.IsTellable) :
    ∃ status after, (main site arguments).outcome start = (.ok status, after) ∧
      after.started = before.started ∧
      (status = .interrupted ↔ result = .error .interrupted) ∧
      (status = .failure → Console.HasErrorLine after.output ∨
        HasReported site arguments start after) := by
  rw [main, Step.outcome_tryCatch, ended]
  cases result with
  | ok status =>
      rcases run_eq_ok ended with rfl | ⟨rfl, options, invoked, report⟩
      · exact ⟨.success, before, rfl, rfl, by simp, by simp⟩
      · refine ⟨.failure, before, rfl, rfl, by simp, ?_⟩
        intro _
        exact Or.inr ⟨⟨options, invoked, report⟩, Health.errors_of_report_false report⟩
  | error fault =>
      cases fault with
      | interrupted =>
          obtain ⟨after, settled, started⟩ := settle_interrupted site before
          exact ⟨.interrupted, after, settled, started, by simp, by simp⟩
      | reported failure =>
          obtain ⟨after, settled, hasError, started⟩ :=
            settle_reported site (tellable failure rfl) whole
          exact ⟨.failure, after, settled, started, by simp, fun _ => Or.inl hasError⟩
      | unexpected error =>
          obtain ⟨after, settled, hasError, started⟩ := settle_unexpected site error whole
          exact ⟨.failure, after, settled, started, by simp, fun _ => Or.inl hasError⟩

/-- Every run has an exit status. The status is the one for an interruption exactly when the user
interrupted a process that was started, and a failure is told by an error line on the output or
by a complete report on the surroundings. -/
theorem main_ends_at_boundary (site : Site) (arguments : List String) (files : FileSystem)
    (outcomes : List ProcessOutcome) :
    ∃ status after, (main site arguments).outcome { files, outcomes } = (.ok status, after) ∧
      status.code ∈ [0, 1, 130] ∧
      (status.code = 130 ↔ ∃ index < after.started.length,
        (Session.outcomeAt { files, outcomes } index).ending = .interrupted) ∧
      (status.code = 1 → Console.HasErrorLine after.output ∨
        HasReported site arguments { files, outcomes } after) := by
  have conduct := wellConducted_run site arguments { files, outcomes }
  rcases ended : (run site arguments).outcome { files, outcomes } with ⟨result, before⟩
  rw [ended] at conduct
  obtain ⟨processes, advances, interruptedIff⟩ := conduct.processes
  obtain ⟨text, printed, whole⟩ := conduct.output
  -- Nothing was started or printed before the run.
  have started : before.started = processes := advances.started
  have fromStart : before.output = text := by simpa using printed
  rw [← fromStart] at whole
  obtain ⟨status, after, settled, same, interrupted, told⟩ :=
    main_of_run ended whole conduct.tellable
  refine ⟨status, after, settled, code_mem status, ?_, ?_⟩
  · rw [code_eq_interrupted_iff, interrupted, same, started]
    exact interruptedIff
  · rw [code_eq_failure_iff]
    exact told

end Application

end PrologImage
