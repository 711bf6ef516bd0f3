import PrologImage.Proofs.Application.Boundary
import PrologImage.Proofs.Health.ReportText
import PrologImage.Proofs.Interpreter.LetThrough
import PrologImage.Proofs.Request.Governed

/-!
Contract: a program that is asked wrongly says so and does nothing else.

Owns: the ways in which the arguments alone can be wrong; that a run ends in a failure of that kind
exactly then, on every machine; and that such a run leaves the machine as it was and prints one
error line.

Does not own: which arguments before the payload are refused (`CommandLine`).

The failure is a matter of the arguments: it is the same on every machine and with all files, so
neither the interpreter nor a source is looked for.
-/

namespace PrologImage

/-- A fault that tells that the program was asked wrongly. -/
def Fault.IsMisuse (fault : Fault) : Prop :=
  ∃ failure, fault = .reported failure ∧ failure.kind = .usage

namespace Fault

theorem isMisuse_reported (failure : Failure) :
    (Fault.reported failure).IsMisuse ↔ failure.kind = .usage := by
  constructor
  · rintro ⟨_, ⟨⟩, kind⟩
    exact kind
  · intro kind
    exact ⟨failure, rfl, kind⟩

theorem not_isMisuse_unexpected (error : ForeignError) : ¬ (Fault.unexpected error).IsMisuse := by
  rintro ⟨_, ⟨⟩, _⟩

theorem not_isMisuse_interrupted : ¬ Fault.interrupted.IsMisuse := by
  rintro ⟨_, ⟨⟩, _⟩

end Fault

/-- A step that never finds that the program was asked wrongly. -/
def FindsNoMisuse {σ α : Type} (step : Step σ α) : Prop :=
  ∀ state fault, (step.outcome state).1 = .error fault → ¬ fault.IsMisuse

namespace FindsNoMisuse

variable {σ τ α β : Type}

theorem of_pure (value : α) : FindsNoMisuse (pure value : Step σ α) := by
  intro state fault stopped
  cases stopped

theorem of_get : FindsNoMisuse (get : Step σ σ) := by
  intro state fault stopped
  cases stopped

theorem of_modify (change : σ → σ) : FindsNoMisuse (modify change : Step σ PUnit) := by
  intro state fault stopped
  cases stopped

theorem of_throw {fault : Fault} (other : ¬ fault.IsMisuse) :
    FindsNoMisuse (throw fault : Step σ α) := by
  intro state same stopped
  cases stopped
  exact other

theorem of_bind {first : Step σ α} {next : α → Step σ β} (left : FindsNoMisuse first)
    (right : ∀ value, FindsNoMisuse (next value)) : FindsNoMisuse (first >>= next) := by
  intro state fault stopped
  have before := left state
  rw [Step.outcome_bind] at stopped
  rcases ended : first.outcome state with ⟨earlier | value, middle⟩ <;> rw [ended] at stopped before
  · cases stopped
    exact before _ rfl
  · exact right value middle fault stopped

theorem of_within {part : τ → σ} {replace : σ → τ → τ} {step : Step σ α}
    (finds : FindsNoMisuse step) : FindsNoMisuse (step.within part replace) := by
  intro whole fault stopped
  rw [Step.outcome_within] at stopped
  exact finds (part whole) fault stopped

end FindsNoMisuse

/-! ## The interpreter -/

namespace Interpreter

variable {site : Site} {settings : Settings}

theorem not_isMisuse_of_interpreter {workbench : Workbench} {fault : Fault}
    (stopped : workbench.interpreter site settings = .error fault) : ¬ fault.IsMisuse := by
  unfold Workbench.interpreter at stopped
  split at stopped
  · cases stopped
  · split at stopped
    · cases stopped
      rw [Fault.isMisuse_reported]
      exact FailureKind.noConfusion
    · obtain ⟨error, _, rfl⟩ := (Calculation.mapError_eq_error_iff _ _ _).mp stopped
      exact Fault.not_isMisuse_unexpected error

theorem not_isMisuse_of_completionOf {program : Path} {ending : ProcessEnd} {fault : Fault}
    (stopped : completionOf settings program ending = .error fault) : ¬ fault.IsMisuse := by
  unfold completionOf at stopped
  split at stopped
  all_goals cases stopped
  · rw [Fault.isMisuse_reported]
    exact FailureKind.noConfusion
  · rw [Fault.isMisuse_reported]
    exact FailureKind.noConfusion
  · exact Fault.not_isMisuse_unexpected _
  · exact Fault.not_isMisuse_interrupted

namespace Question

variable {question : Question} {workbench : Workbench} {fault : Fault}

theorem not_isMisuse_of_preparation
    (stopped : question.preparation site settings workbench = .error fault) :
    ¬ fault.IsMisuse := by
  simp only [preparation, Calculation.bind_eq_error_iff, Calculation.mapError_eq_error_iff]
    at stopped
  rcases stopped with ⟨error, _, rfl⟩ | ⟨_, _, searched | ⟨_, _, ⟨error, _, rfl⟩ | ⟨_, _, ⟨⟩⟩⟩⟩
  · exact Fault.not_isMisuse_unexpected error
  · exact not_isMisuse_of_interpreter searched
  · exact Fault.not_isMisuse_unexpected error

theorem not_isMisuse_of_answer
    (stopped : question.answer site settings workbench = .error fault) : ¬ fault.IsMisuse := by
  rw [answer, Calculation.bind_eq_error_iff] at stopped
  rcases stopped with refused | ⟨_ | diagnostic, _, later⟩
  · obtain ⟨error, _, rfl⟩ := (Calculation.mapError_eq_error_iff _ _ _).mp refused
    exact Fault.not_isMisuse_unexpected _
  · rw [Calculation.bind_eq_error_iff] at later
    rcases later with unprepared | ⟨prepared, _, later⟩
    · exact not_isMisuse_of_preparation unprepared
    · rw [Calculation.bind_eq_error_iff] at later
      rcases later with ended | ⟨completion, _, judged⟩
      · exact not_isMisuse_of_completionOf ended
      · obtain ⟨error, _, rfl⟩ := (Calculation.mapError_eq_error_iff _ _ _).mp judged
        exact Fault.not_isMisuse_unexpected error
  · cases later

end Question

theorem findsNoMisuse_consult (sources : List Path) (verbose : Bool) :
    FindsNoMisuse (consult site settings sources verbose) := by
  intro workbench fault stopped
  obtain ⟨after, asked, _⟩ :=
    Question.ask_outcome site settings { sources, verbose } workbench
  rw [Question.consult_eq_ask, asked] at stopped
  exact Question.not_isMisuse_of_answer stopped

theorem findsNoMisuse_saveImage (sources : List Path) (output : Path) (options : SaveOptions)
    (verbose : Bool) : FindsNoMisuse (saveImage site settings sources output options verbose) := by
  intro workbench fault stopped
  obtain ⟨after, saved, _⟩ :=
    saveImage_outcome site settings sources output options verbose workbench
  rw [saved, saveAnswer_eq_error_iff] at stopped
  rcases stopped with stopped | ⟨_, ⟨refusal, _, rfl⟩ | ⟨_, rfl⟩⟩
  · exact Question.not_isMisuse_of_answer stopped
  · exact Fault.not_isMisuse_unexpected _
  · rw [Fault.isMisuse_reported]
    exact FailureKind.noConfusion

end Interpreter

/-! ## Builds -/

namespace Application

open Interpreter

section Builds

variable {site : Site} {settings : Settings}

theorem findsNoMisuse_load (path : Path) (verbose : Bool) :
    FindsNoMisuse ((loader site settings).load path verbose) := by
  apply FindsNoMisuse.of_bind (.of_modify _)
  intro _
  apply FindsNoMisuse.of_bind .of_get
  intro loading
  apply FindsNoMisuse.of_bind (.of_within (findsNoMisuse_consult _ verbose))
  intro diagnostic
  dsimp only
  split
  · exact .of_bind (.of_modify _) fun _ => .of_pure _
  · exact .of_pure _

theorem findsNoMisuse_loadAll (verbose : Bool) (paths : List Path) :
    FindsNoMisuse ((loader site settings).loadAll verbose paths) := by
  induction paths with
  | nil => exact .of_pure none
  | cons path rest inductionHypothesis =>
      apply FindsNoMisuse.of_bind (findsNoMisuse_load path verbose)
      intro result
      split
      · exact inductionHypothesis
      · exact .of_pure _

theorem not_isMisuse_notLoaded (diagnostic : Diagnostic) :
    ¬ (Fault.reported (.notLoaded diagnostic)).IsMisuse := by
  rw [Fault.isMisuse_reported]
  exact FailureKind.noConfusion

theorem findsNoMisuse_loadInputs (request : Request) :
    FindsNoMisuse (Build.loadInputs (loader site settings) request) := by
  apply FindsNoMisuse.of_bind (findsNoMisuse_loadAll request.verbose request.inputs)
  intro result
  split
  · exact .of_throw (not_isMisuse_notLoaded _)
  · exact .of_pure ()

/-- An image is asked for wrongly only when its place is not said. -/
theorem findsNoMisuse_precompile {request : Request} {output : Path}
    (asked : request.output = some output) (options : SaveOptions) :
    FindsNoMisuse (Build.precompile (loader site settings) request options) := by
  unfold Build.precompile
  rw [asked]
  apply FindsNoMisuse.of_bind (findsNoMisuse_loadInputs request)
  intro _
  apply FindsNoMisuse.of_bind .of_get
  intro loading
  apply FindsNoMisuse.of_bind (.of_within (findsNoMisuse_saveImage _ output options _))
  intro diagnostic
  cases diagnostic with
  | some diagnostic => exact .of_throw (not_isMisuse_notLoaded diagnostic)
  | none => exact .of_pure output

theorem findsNoMisuse_build {action : Action} {request : Request}
    (complete : action = .precompile → request.output ≠ none) :
    FindsNoMisuse (build site settings action request) := by
  cases action with
  | syntaxCheck =>
      apply FindsNoMisuse.of_bind (.of_within (findsNoMisuse_loadInputs request))
      intro _
      exact .of_modify _
  | precompile =>
      obtain ⟨output, asked⟩ := Option.ne_none_iff_exists'.mp (complete rfl)
      apply FindsNoMisuse.of_bind (.of_within (findsNoMisuse_precompile asked {}))
      intro _
      exact .of_modify _

theorem findsNoMisuse_doctor (options : CommandLine.Options) (arguments : List String) :
    FindsNoMisuse (runCommand site options .doctor arguments) := by
  have reports : FindsNoMisuse (Health.report site options.interpreter) := by
    rintro session _ stopped ⟨failure, rfl, _⟩
    exact Health.report_ne_reported site options.interpreter session failure stopped
  apply FindsNoMisuse.of_bind (.of_modify _)
  intro _
  apply FindsNoMisuse.of_bind reports
  intro passed
  cases passed with
  | true => exact .of_pure _
  | false => exact .of_pure _

theorem findsNoMisuse_runBuild (options : CommandLine.Options) {action : Action}
    {arguments : List String} {request : Request}
    (requested : Request.ofArguments arguments = .ok request)
    (complete : action = .precompile → request.output ≠ none) :
    FindsNoMisuse (runCommand site options (.build action) arguments) := by
  apply FindsNoMisuse.of_bind (.of_modify _)
  intro _
  dsimp only
  rw [requested]
  exact .of_bind (findsNoMisuse_build complete) fun _ => .of_pure _

end Builds

/-! ## Misuse -/

/-- The ways in which arguments are wrong, each with its failure: the options are refused, more
than one token of the payload of a build command is an output, or no token is one and the command
saves an image. -/
inductive Misuse (arguments : List String) : Failure → Prop
  | refused {error : CommandLine.OptionError} :
      CommandLine.Invocation.ofArguments (splitArguments arguments).1 = .error error →
      Misuse arguments error.failure
  | secondOutput {options : CommandLine.Options} {action : Action} :
      CommandLine.Invocation.ofArguments (splitArguments arguments).1 =
        .ok (.run options (.build action)) →
      2 ≤ (Request.tokensUnder .output (splitArguments arguments).2).length →
      Misuse arguments (payloadRefused .secondOutput)
  | outputMissing {options : CommandLine.Options} :
      CommandLine.Invocation.ofArguments (splitArguments arguments).1 =
        .ok (.run options (.build .precompile)) →
      Request.tokensUnder .output (splitArguments arguments).2 = [] →
      Misuse arguments Build.outputMissing

theorem precompile_of_no_output {site : Site} {settings : Settings} {request : Request}
    (noOutput : request.output = none) (session : Session) :
    (build site settings .precompile request).outcome session =
      (.error (.reported Build.outputMissing), session) := by
  simp only [build, Build.precompile, noOutput]
  rfl

/-- A run that was asked wrongly stops on every machine in the same way. -/
theorem run_of_misuse {arguments : List String} {failure : Failure}
    (misuse : Misuse arguments failure) (site : Site) (session : Session) :
    ∃ level, (run site arguments).outcome session =
      (.error (.reported failure), { session with threshold := level }) := by
  unfold run
  cases misuse with
  | refused invalid =>
      rw [invalid]
      exact ⟨session.threshold, rfl⟩
  | secondOutput invoked two =>
      have refusal : Request.ofArguments arguments = .error .secondOutput := by
        rw [Request.ofArguments_eq_reading]
        exact (Request.reading_eq_error_iff _).mpr two
      rw [invoked]
      simp only [runCommand, refusal]
      exact ⟨_, rfl⟩
  | outputMissing invoked nothing =>
      obtain ⟨request, read, noOutput⟩ := (Request.reading_without_output_iff _).mpr nothing
      rw [invoked]
      simp only [runCommand, Request.ofArguments_eq_reading, read, Step.outcome_bind,
        Step.outcome_modify, precompile_of_no_output noOutput]
      exact ⟨_, rfl⟩

/-- A build that ends in a failure of this kind was asked wrongly in its payload. -/
theorem misuse_of_runBuild {site : Site} {arguments : List String} {session : Session}
    {failure : Failure} {options : CommandLine.Options} {action : Action}
    (invoked : CommandLine.Invocation.ofArguments (splitArguments arguments).1 =
      .ok (.run options (.build action)))
    (stopped : ((runCommand site options (.build action) arguments).outcome session).1 =
      .error (.reported failure))
    (kind : failure.kind = .usage) : Misuse arguments failure := by
  cases requested : Request.ofArguments arguments with
  | error error =>
      simp only [runCommand, requested] at stopped
      cases stopped
      cases error
      rw [Request.ofArguments_eq_reading] at requested
      exact .secondOutput invoked ((Request.reading_eq_error_iff _).mp requested)
  | ok request =>
      by_cases incomplete : action = .precompile ∧ request.output = none
      · obtain ⟨rfl, noOutput⟩ := incomplete
        simp only [runCommand, requested, Step.outcome_bind, Step.outcome_modify,
          precompile_of_no_output noOutput] at stopped
        cases stopped
        rw [Request.ofArguments_eq_reading] at requested
        exact .outputMissing invoked
          ((Request.reading_without_output_iff _).mp ⟨request, requested, noOutput⟩)
      · have complete : action = .precompile → request.output ≠ none :=
          fun isPrecompile noOutput => incomplete ⟨isPrecompile, noOutput⟩
        exact absurd ((Fault.isMisuse_reported failure).mpr kind)
          (findsNoMisuse_runBuild options requested complete session _ stopped)

/-- A run that ends in a failure of this kind was asked wrongly, in the way that the failure
tells. -/
theorem misuse_of_run {site : Site} {arguments : List String} {session : Session}
    {failure : Failure}
    (stopped : ((run site arguments).outcome session).1 = .error (.reported failure))
    (kind : failure.kind = .usage) : Misuse arguments failure := by
  unfold run at stopped
  cases invoked : CommandLine.Invocation.ofArguments (splitArguments arguments).1 with
  | error error =>
      rw [invoked] at stopped
      cases stopped
      exact .refused invoked
  | ok invocation =>
      rw [invoked] at stopped
      cases invocation with
      | help command => cases stopped
      | version => cases stopped
      | run options command =>
          cases command with
          | doctor =>
              exact absurd ((Fault.isMisuse_reported failure).mpr kind)
                (findsNoMisuse_doctor options arguments session _ stopped)
          | build action => exact misuse_of_runBuild invoked stopped kind

theorem kind_of_misuse {arguments : List String} {failure : Failure}
    (misuse : Misuse arguments failure) : failure.kind = .usage := by
  cases misuse <;> rfl

theorem isTellable_of_misuse {arguments : List String} {failure : Failure}
    (misuse : Misuse arguments failure) : failure.IsTellable := by
  cases misuse with
  | refused invalid => exact isTellable_optionError _
  | secondOutput invoked two => exact Failure.isTellable_of_no_hint rfl
  | outputMissing invoked nothing => exact isTellable_outputMissing

theorem errorLines_of_misuse {arguments : List String} {failure : Failure}
    (misuse : Misuse arguments failure) :
    Report.errorLines failure = ["ERROR: " ++ failure.message] := by
  cases misuse <;> rfl

/-- The boundary tells such a failure by one error line and changes nothing else but the error
stream. -/
theorem settle_misuse {arguments : List String} {failure : Failure}
    (misuse : Misuse arguments failure) (site : Site) (session : Session) :
    ∃ errors, (settle site (.reported failure)).outcome session =
      (.ok .failure,
        { session with
          output := session.output ++
            Console.literalLine site.console ["ERROR: " ++ failure.message]
          errors }) := by
  let told := session.writeOutput
    (Console.literalLine site.console ["ERROR: " ++ failure.message])
  obtain ⟨line, hinted⟩ := printHint_outcome site.console told (isTellable_of_misuse misuse)
  refine ⟨session.errors ++ line, ?_⟩
  simp only [settle, Report.failure, Step.outcome_bind, printLines_outcome,
    errorLines_of_misuse misuse, List.map_singleton, String.join_cons, String.join_nil,
    String.append_empty]
  rw [show (Report.printHint site.console failure.hint).outcome told = _ from hinted]
  rfl

/-- A run ends in a usage failure exactly when its arguments are wrong in the way that the failure
tells. Then it stops with this failure on every machine, having started, searched and written
nothing, and the program prints one error line and exits with one. -/
theorem misuse_has_no_effect (arguments : List String) :
    (∀ site session failure,
      ((run site arguments).outcome session).1 = .error (.reported failure) ∧
        failure.kind = .usage ↔ Misuse arguments failure) ∧
    ∀ failure, Misuse arguments failure → ∀ site session, ∃ level errors status,
      (run site arguments).outcome session =
        (.error (.reported failure), { session with threshold := level }) ∧
      (main site arguments).outcome session =
        (.ok status,
          { session with
            threshold := level
            output := session.output ++
              Console.literalLine site.console ["ERROR: " ++ failure.message]
            errors }) ∧
      status.code = 1 := by
  constructor
  · intro site session failure
    constructor
    · rintro ⟨stopped, kind⟩
      exact misuse_of_run stopped kind
    · intro misuse
      obtain ⟨level, stopped⟩ := run_of_misuse misuse site session
      exact ⟨by rw [stopped], kind_of_misuse misuse⟩
  · intro failure misuse site session
    obtain ⟨level, stopped⟩ := run_of_misuse misuse site session
    obtain ⟨errors, settled⟩ := settle_misuse misuse site { session with threshold := level }
    refine ⟨level, errors, .failure, stopped, ?_, rfl⟩
    rw [main, Step.outcome_tryCatch, stopped]
    exact settled

/-- A second output at the end of a payload is refused before its inputs are looked at. -/
theorem misuse_of_second_output_at_end :
    ∃ level errors status,
      (run sampleSite ["precompile", "--", "-o", "n", "-c", "a", "b", "-o", "m"]).outcome
          { files := sampleFiles } =
        (.error (.reported (payloadRefused .secondOutput)),
          { files := sampleFiles, threshold := level }) ∧
      (main sampleSite ["precompile", "--", "-o", "n", "-c", "a", "b", "-o", "m"]).outcome
          { files := sampleFiles } =
        (.ok status,
          { files := sampleFiles
            threshold := level
            output := "" ++ Console.literalLine .plain
              ["ERROR: " ++ "cannot have more than 1 output file."]
            errors }) ∧
      status.code = 1 := by
  have invoked : CommandLine.Invocation.ofArguments
      (splitArguments ["precompile", "--", "-o", "n", "-c", "a", "b", "-o", "m"]).1 =
        .ok (.run {} (.build .precompile)) := by decide +kernel
  exact (misuse_has_no_effect _).2 _ (.secondOutput invoked (by decide)) sampleSite
    { files := sampleFiles }

end Application

end PrologImage
