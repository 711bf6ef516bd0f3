import PrologImage.Proofs.Application.Accord

/-!
Contract: verbose mode never changes the outcome of a run.

Owns: processes that are the same up to the argument that asks for quiet, and that two runs whose
payloads are equal without their `-v` tokens end, print and write alike and start such processes.

Does not own: what is logged, and the error stream.
-/

namespace PrologImage

/-- Processes with the same time limit and the same command line, up to the argument after
`--on-error=halt` that asks for quiet. -/
inductive StartedProcess.SameUpToQuiet : StartedProcess → StartedProcess → Prop
  | same (process : StartedProcess) : SameUpToQuiet process process
  | quietFirst (program : String) (arguments : List String) (limit : Option TimeLimit) :
      SameUpToQuiet ⟨program :: "--on-error=halt" :: "-q" :: arguments, limit⟩
        ⟨program :: "--on-error=halt" :: arguments, limit⟩
  | quietSecond (program : String) (arguments : List String) (limit : Option TimeLimit) :
      SameUpToQuiet ⟨program :: "--on-error=halt" :: arguments, limit⟩
        ⟨program :: "--on-error=halt" :: "-q" :: arguments, limit⟩

namespace Interpreter

/-- Verbosity takes one argument out of a command line. -/
theorem commandLine_sameUpToQuiet (program : Path) (leftVerbose rightVerbose : Bool)
    (goals : List String) (limit : Option TimeLimit) :
    StartedProcess.SameUpToQuiet ⟨commandLine program leftVerbose goals, limit⟩
      ⟨commandLine program rightVerbose goals, limit⟩ := by
  cases leftVerbose <;> cases rightVerbose
  case false.false => exact .same _
  case false.true => exact .quietFirst _ _ limit
  case true.false => exact .quietSecond _ _ limit
  case true.true => exact .same _

end Interpreter

namespace Application

/-- Only a build command looks at the payload. -/
theorem run_eq_of_not_build {site : Site} {first second : List String}
    (sameOptions : (splitArguments first).1 = (splitArguments second).1)
    (notBuild : ∀ options action, CommandLine.Invocation.ofArguments (splitArguments second).1 ≠
      .ok (.run options (.build action))) :
    run site first = run site second := by
  unfold run
  rw [sameOptions]
  cases invoked : CommandLine.Invocation.ofArguments (splitArguments second).1 with
  | error error => rfl
  | ok invocation =>
      cases invocation with
      | help command => rfl
      | version => rfl
      | run options command =>
          cases command with
          | doctor => rfl
          | build action => exact absurd invoked (notBuild options action)

/-- The same build command on payloads that are equal without their `-v` tokens. -/
theorem accord_build_up_to_verbosity (site : Site) {options left right : List String}
    (free : separator ∉ options)
    (same : left.filter (· ≠ "-v") = right.filter (· ≠ "-v"))
    {settings : CommandLine.Options} {action : Action}
    (invoked : CommandLine.Invocation.ofArguments options = .ok (.run settings (.build action))) :
    Accord (Session.Beside StartedProcess.SameUpToQuiet Eq) Eq
      (main site (options ++ separator :: left)) (main site (options ++ separator :: right)) := by
  have prints : ∀ text leftOutput rightOutput, leftOutput = rightOutput →
      leftOutput ++ Console.literalLine site.console [text] =
        rightOutput ++ Console.literalLine site.console [text] := by
    rintro text output _ rfl
    rfl
  have runs : Accord (Session.Beside StartedProcess.SameUpToQuiet Eq) Eq
      (run (site.onConsole site.console) (options ++ separator :: left))
      (run (site.onConsole site.console) (options ++ separator :: right)) := by
    unfold run
    rw [splitArguments_append free, splitArguments_append free]
    dsimp only
    rw [invoked]
    apply accord_runCommand prints settings action (Request.ofArguments_withoutVerbosity free same)
    intro leftRequest rightRequest _ _ program goals limit
    exact Interpreter.commandLine_sameUpToQuiet program _ _ goals limit
  exact accord_main prints runs

/-- Verbose mode never changes the outcome. Payloads that are equal without their `-v` tokens lead
to the same end, the same output and the same files, and to the same processes one by one up to
the argument that asks for quiet. -/
theorem main_unchanged_by_verbosity (site : Site) (session : Session)
    {options left right : List String} (free : separator ∉ options)
    (same : left.filter (· ≠ "-v") = right.filter (· ≠ "-v")) :
    let first := (main site (options ++ separator :: left)).outcome session
    let second := (main site (options ++ separator :: right)).outcome session
    first.1 = second.1 ∧ first.2.output = second.2.output ∧ first.2.files = second.2.files ∧
      List.Forall₂ StartedProcess.SameUpToQuiet first.2.started second.2.started := by
  by_cases builds : ∃ settings action,
      CommandLine.Invocation.ofArguments options = .ok (.run settings (.build action))
  · obtain ⟨settings, action, invoked⟩ := builds
    have start : Session.Beside StartedProcess.SameUpToQuiet Eq session session :=
      ⟨rfl, rfl, List.forall₂_same.mpr fun process _ => .same process, rfl⟩
    obtain ⟨ends, after⟩ :=
      accord_build_up_to_verbosity site free same invoked session session start
    exact ⟨ends.eq, after.output, after.files, after.started⟩
  · have sameRun : run site (options ++ separator :: left) =
        run site (options ++ separator :: right) := by
      apply run_eq_of_not_build
      · rw [splitArguments_append free, splitArguments_append free]
      · intro settings action invoked
        rw [splitArguments_append free] at invoked
        exact builds ⟨settings, action, invoked⟩
    dsimp only
    rw [main, main, sameRun]
    exact ⟨rfl, rfl, rfl, List.forall₂_same.mpr fun process _ => .same process⟩

/-- A `-v` between `-o` and the path of the image does not take the path away from `-o`. -/
theorem main_unchanged_by_verbosity_after_switch :
    let arguments (payload : List String) := ["--swipl", "./s", "precompile"] ++ "--" :: payload
    let first := (main sampleSite (arguments ["-c", "a", "-o", "n"])).outcome
      { files := sampleFiles }
    let second := (main sampleSite (arguments ["-c", "a", "-o", "-v", "n"])).outcome
      { files := sampleFiles }
    first.1 = second.1 ∧ first.2.output = second.2.output ∧ first.2.files = second.2.files ∧
      List.Forall₂ StartedProcess.SameUpToQuiet first.2.started second.2.started :=
  main_unchanged_by_verbosity sampleSite { files := sampleFiles } (by decide) (by decide)

end Application

end PrologImage
