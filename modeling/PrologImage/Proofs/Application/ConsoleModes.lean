import PrologImage.Proofs.Application.Accord
import PrologImage.Proofs.Interpreter.Question

/-!
Contract: builds on a plain and on a styled console.

Owns: that the two end alike, start the same processes and leave the same files, and which of
their outputs differ.

Does not own: what a styled console makes of a text (`Proofs.Console.PrintedLines`), and reports on
the surroundings, which are marked up.

A styled console drops a few control characters and expands tabs, so the outputs are the same
exactly when the plain one has none of them.
-/

namespace PrologImage.Application

/-- Outputs of whole lines, the second as a styled console makes it of the first. -/
structure StyledBeside (plain styled : String) : Prop where
  whole : Console.IsWhole plain
  styled : styled = Console.styledText plain

/-- The same text printed on both consoles. -/
theorem StyledBeside.print (library : Console.MarkupLibrary) {plain styled : String}
    (beside : StyledBeside plain styled) (text : String) :
    StyledBeside (plain ++ Console.literalLine .plain [text])
      (styled ++ Console.literalLine (.styledBy library) [text]) where
  whole := beside.whole.append (Console.isWhole_literalLine _ _)
  styled := by
    rw [Console.styledText_append beside.whole, beside.styled, Console.literalLine_styled]

/-- The same build on a plain and on a styled console. -/
theorem accord_build_on_consoles (site : Site) (library : Console.MarkupLibrary)
    {arguments : List String} {settings : CommandLine.Options} {action : Action}
    (invoked : CommandLine.Invocation.ofArguments (splitArguments arguments).1 =
      .ok (.run settings (.build action))) :
    Accord (Session.Beside Eq StyledBeside) Eq (main (site.onConsole .plain) arguments)
      (main (site.onConsole (.styledBy library)) arguments) := by
  have prints : ∀ text plain styled, StyledBeside plain styled →
      StyledBeside (plain ++ Console.literalLine .plain [text])
        (styled ++ Console.literalLine (.styledBy library) [text]) :=
    fun text _ _ beside => beside.print library text
  apply accord_main prints
  unfold run
  rw [invoked]
  apply accord_runCommand prints settings action rfl
  intro plainRequest styledRequest plainRead styledRead program goals limit
  obtain rfl : plainRequest = styledRequest := Except.ok.inj (plainRead.symm.trans styledRead)
  rfl

/-- A build on a styled console ends as on a plain one, with the same processes and the same
files, whatever library the console has. It prints what a styled console makes of the plain
output, which is that output exactly when there is neither a tab nor a dropped control character
in it. -/
theorem main_on_styled_console (site : Site) (library : Console.MarkupLibrary)
    (files : FileSystem) (outcomes : List ProcessOutcome) {arguments : List String}
    {settings : CommandLine.Options} {action : Action}
    (invoked : CommandLine.Invocation.ofArguments (splitArguments arguments).1 =
      .ok (.run settings (.build action))) :
    let plain := (main (site.onConsole .plain) arguments).outcome { files, outcomes }
    let styled := (main (site.onConsole (.styledBy library)) arguments).outcome
      { files, outcomes }
    styled.1 = plain.1 ∧ styled.2.started = plain.2.started ∧ styled.2.files = plain.2.files ∧
      styled.2.output = Console.styledText plain.2.output ∧
      (styled.2.output = plain.2.output ↔ Console.IsUnchanged plain.2.output) := by
  have start : Session.Beside Eq StyledBeside { files, outcomes } { files, outcomes } :=
    ⟨rfl, rfl, .nil, .empty, rfl⟩
  obtain ⟨ends, after⟩ := accord_build_on_consoles site library invoked _ _ start
  have sameProcesses := after.started
  rw [List.forall₂_eq_eq_eq] at sameProcesses
  refine ⟨ends.eq.symm, sameProcesses.symm, after.files.symm, after.output.styled, ?_⟩
  rw [after.output.styled]
  exact Console.styledText_eq_self_iff _

/-- A source whose name has markup in it is told alike on both consoles. -/
theorem main_on_styled_console_markup_name :
    let arguments := ["syntax_check", "--", "-c", "[b]"]
    let plain := (main (sampleSite.onConsole .plain) arguments).outcome
      { files := sampleFiles, outcomes := [] }
    let styled := (main (sampleSite.onConsole .styled) arguments).outcome
      { files := sampleFiles, outcomes := [] }
    styled.1 = plain.1 ∧ styled.2.started = plain.2.started ∧ styled.2.files = plain.2.files ∧
      styled.2.output = Console.styledText plain.2.output ∧
      (styled.2.output = plain.2.output ↔ Console.IsUnchanged plain.2.output) := by
  have invoked : CommandLine.Invocation.ofArguments
      (splitArguments ["syntax_check", "--", "-c", "[b]"]).1 =
        .ok (.run {} (.build .syntaxCheck)) := by decide +kernel
  exact main_on_styled_console sampleSite (.written []) sampleFiles [] invoked

/-! ## A first source that is missing -/

/-- A check of sources of which the first is missing starts nothing: it tells what it is about to
load and what is missing. -/
theorem main_of_missing_source {site : Site} {files : FileSystem} (outcomes : List ProcessOutcome)
    {arguments : List String} {settings : CommandLine.Options} {request : Request} {path : Path}
    {rest : List Path}
    (invoked : CommandLine.Invocation.ofArguments (splitArguments arguments).1 =
      .ok (.run settings (.build .syntaxCheck)))
    (requested : Request.ofArguments arguments = .ok request)
    (inputs : request.inputs = path :: rest)
    (missing : files.entryOf? site.workingDirectory path = .ok none) :
    (main site arguments).outcome { files, outcomes } =
      (.ok .failure,
        { files, outcomes, threshold := settings.logLevel
          output := Console.literalLine site.console [s!"Loading {path.text} ..."] ++
            Console.literalLine site.console
              ["ERROR: " ++ s!"source file {path.text} does not exist"] }) := by
  let diagnostic : Diagnostic := .bare s!"source file {path.text} does not exist"
  have stopped : ∀ settings session, session.files = files →
      (onFreshLoader (Build.syntaxCheck (loader site settings) request)).outcome session =
        (.error (.reported (.notLoaded diagnostic)),
          session.writeOutput
            (Console.literalLine site.console [s!"Loading {path.text} ..."])) := by
    rintro settings session rfl
    have answered : (Interpreter.consult site settings [path] request.verbose).outcome
        (announce site.console path ⟨session, none⟩) =
          (.ok (some diagnostic), announce site.console path ⟨session, none⟩) :=
      Interpreter.Question.consult_of_missing [] request.verbose missing
    rw [onFreshLoader, Step.outcome_within, Build.syntaxCheck, Build.loadInputs,
      Step.outcome_bind, inputs, Loader.loadAll_cons_outcome]
    simp only [loader, Interpreter.backend, List.nil_append, answered]
    rfl
  rw [main, Step.outcome_tryCatch, run, invoked]
  simp only [runCommand, requested, Step.outcome_bind, Step.outcome_modify, build]
  rw [stopped _ _ rfl]
  simp only [settle, Report.failure, Step.outcome_bind, printLines_outcome, diagnostic,
    errorLines_bare, List.map_singleton, String.join_cons, String.join_nil, String.append_empty]
  rfl

/-- A source whose name has a tab is told with blanks on a styled console. -/
theorem main_expands_tab_on_styled_console :
    ((main (sampleSite.onConsole .styled) ["syntax_check", "--", "-c", "a\tb"]).outcome
        { files := sampleFiles, outcomes := [] }).2.output ≠
      ((main (sampleSite.onConsole .plain) ["syntax_check", "--", "-c", "a\tb"]).outcome
        { files := sampleFiles, outcomes := [] }).2.output := by
  have invoked : CommandLine.Invocation.ofArguments
      (splitArguments ["syntax_check", "--", "-c", "a\tb"]).1 =
        .ok (.run {} (.build .syntaxCheck)) := by decide +kernel
  have requested : Request.ofArguments ["syntax_check", "--", "-c", "a\tb"] =
      .ok { inputs := [Path.ofText "a\tb"] } := by decide +kernel
  have missing : sampleFiles.entryOf? ["w"] (Path.ofText "a\tb") = .ok none := by cbv
  rw [main_of_missing_source [] invoked requested rfl missing,
    main_of_missing_source [] invoked requested rfl missing]
  decide +kernel

end PrologImage.Application
