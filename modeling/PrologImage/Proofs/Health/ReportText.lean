import PrologImage.Health.Report
import PrologImage.Proofs.Calculation
import PrologImage.Proofs.Interpreter.Search
import PrologImage.Proofs.Session.Progress

/-!
Contract: the text of the report on the surroundings.

Owns: what the version probe learns; the checks, the text and the end of the report as calculations
from the files and the end of that probe; and that the steps of the report print this text on the
error stream, and stop where it has none.

Does not own: when the report has a text, and what its verdict says (`Proofs.Health.Verdict`).
-/

namespace PrologImage

/-- A session that comes after another one and has printed nothing since. -/
structure Session.Unheard (before after : Session) : Prop where
  output : after.output = before.output
  errors : after.errors = before.errors

theorem Session.Unheard.addRecord (session : Session) (level : LogLevel) (message : String) :
    session.Unheard (session.addRecord level message) := by
  unfold Session.addRecord
  split
  · exact ⟨rfl, rfl⟩
  · exact ⟨rfl, rfl⟩

/-! ## The version probe -/

namespace Interpreter

/-- The version that a probe learns from the end of its process. -/
def versionOf : ProcessEnd → Except Fault (Option String)
  | .completed completion =>
      match completion.output with
      | some output => .ok (firstLine? output)
      | none => .error (.unexpected .missingOutput)
  | .timedOut | .failed (.system _) | .failed (.process _) => .ok none
  | .failed error => .error (.unexpected error)
  | .interrupted => .error .interrupted

theorem versionUnknown_outcome (error : ForeignError) (session : Session) :
    ∃ after, (versionUnknown error).outcome session = (.ok none, after) ∧
      session.Unheard after :=
  ⟨_, rfl, .addRecord session .debug _⟩

theorem probeVersion_outcome (program : Path) (session : Session) :
    ∃ after, (probeVersion program).outcome session =
        (versionOf (session.outcomeAt 0).ending, after) ∧ session.Unheard after := by
  let process : StartedProcess := ⟨[program.text, "--version"], some versionLimit⟩
  have unknown : ∀ error, ∃ after, (versionUnknown error).outcome (session.start process) =
      (.ok none, after) ∧ session.Unheard after := by
    intro error
    obtain ⟨after, ended, unheard⟩ := versionUnknown_outcome error (session.start process)
    exact ⟨after, ended, unheard.output, unheard.errors⟩
  simp only [probeVersion, Step.outcome_bind]
  rw [Session.run_outcome process]
  cases (session.outcomeAt 0).ending with
  | completed completion =>
      dsimp only [versionOf]
      cases completion.output with
      | some output => exact ⟨session.start process, rfl, rfl, rfl⟩
      | none => exact ⟨session.start process, rfl, rfl, rfl⟩
  | timedOut => exact unknown _
  | interrupted => exact ⟨session.start process, rfl, rfl, rfl⟩
  | failed error =>
      cases error with
      | system error => exact unknown _
      | process message => exact unknown _
      | _ => exact ⟨session.start process, rfl, rfl, rfl⟩

end Interpreter

/-! ## The content of the report -/

namespace Health

/-- The check of the version, for the end of the version probe. -/
def versionRow (ending : ProcessEnd) : Interpreter.Detection → Except Fault Check
  | .missing _ => .ok ⟨"version", "unknown", warnStatus⟩
  | .found _ =>
      (Interpreter.versionOf ending).map fun
        | some version => ⟨"version", version, okStatus⟩
        | none => ⟨"version", "unknown", warnStatus⟩

/-- All checks, for the end of the version probe. -/
def rows (site : Site) (ending : ProcessEnd) (detection : Interpreter.Detection) :
    Except Fault (List Check) :=
  (versionRow ending detection).map fun version =>
    [programCheck, runtimeCheck site.platform, interpreterCheck detection, version,
      systemCheck site.platform]

theorem checks_outcome (site : Site) (detection : Interpreter.Detection) (session : Session) :
    ∃ after, (checks site detection).outcome session =
        (rows site (session.outcomeAt 0).ending detection, after) ∧ session.Unheard after := by
  cases detection with
  | missing commands => exact ⟨session, rfl, rfl, rfl⟩
  | found path =>
      obtain ⟨after, probed, unheard⟩ := Interpreter.probeVersion_outcome path session
      refine ⟨after, ?_, unheard⟩
      simp only [checks, versionCheck, rows, versionRow, Step.outcome_bind, probed]
      rcases Interpreter.versionOf (session.outcomeAt 0).ending with fault | (_ | version) <;> rfl

/-- The table of checks as it is printed. -/
def tableText (mode : ConsoleMode) (checks : List Check) : Except ForeignError String :=
  match mode with
  | .plain => .ok (plainTable checks)
  | .styledBy library => (framedTable library checks).map ("\n" ++ ·)

/-- The last line of the report. -/
def verdictLine (passed : Bool) : String :=
  if passed then "[bold green]All checks passed.[/bold green]"
  else "[bold red]Some checks failed.[/bold red]"

/-- One text after another one. -/
def inOrder (first second : Except ForeignError String) : Except ForeignError String := do
  return (← first) ++ (← second)

/-- The whole report: the table, the advice on a missing interpreter, and the verdict. -/
def reportText (mode : ConsoleMode) (detection : Interpreter.Detection) (checks : List Check) :
    Except ForeignError String :=
  inOrder (tableText mode checks)
    (inOrder (((installAdvice detection).mapM (Console.markedLine mode)).map String.join)
      (Console.markedLine mode [verdictLine !checks.any Check.fails]))

/-- How the report ends. -/
def conclusion (site : Site) (explicit : Option String) (session : Session) :
    Except Fault Bool := do
  let detection ← (Interpreter.detected site explicit session.files).mapError .unexpected
  let checks ← rows site (session.outcomeAt 0).ending detection
  let _ ← (reportText site.console detection checks).mapError .unexpected
  return !checks.any Check.fails

/-! ## Printing the report -/

/-- A step that prints a text on the error stream, or stops because there is none. -/
def Tells (step : Step Session Unit) (text : Except ForeignError String) : Prop :=
  ∀ session, ∃ after, step.outcome session = ((text.map fun _ => ()).mapError .unexpected, after) ∧
    after.output = session.output ∧
    ∀ told, text = .ok told → after.errors = session.errors ++ told

namespace Tells

variable {first second : Step Session Unit} {firstText secondText : Except ForeignError String}

theorem of_pure : Tells (pure ()) (.ok "") := by
  intro session
  refine ⟨session, rfl, rfl, ?_⟩
  rintro told ⟨⟩
  exact String.append_empty.symm

theorem of_bind (left : Tells first firstText) (right : Tells second secondText) :
    Tells (first >>= fun _ => second) (inOrder firstText secondText) := by
  intro session
  obtain ⟨middle, firstEnded, firstOutput, firstTold⟩ := left session
  rw [Step.outcome_bind, firstEnded]
  cases firstText with
  | error error => exact ⟨middle, rfl, firstOutput, by simp [inOrder, bind, Except.bind]⟩
  | ok lead =>
      obtain ⟨after, secondEnded, secondOutput, secondTold⟩ := right middle
      refine ⟨after, ?_, secondOutput.trans firstOutput, ?_⟩
      · simp only [Except.map, Except.mapError, secondEnded]
        cases secondText <;> rfl
      · intro told both
        cases secondText with
        | error error => cases both
        | ok rest =>
            cases both
            rw [secondTold rest rfl, firstTold lead rfl, String.append_assoc]

theorem of_printMarked (mode : ConsoleMode) (texts : List String) :
    Tells (Console.printMarked mode texts) (Console.markedLine mode texts) := by
  intro session
  unfold Console.printMarked
  cases Console.markedLine mode texts with
  | error error => exact ⟨session, rfl, rfl, by simp⟩
  | ok line =>
      refine ⟨session.writeErrors line, rfl, rfl, ?_⟩
      rintro told ⟨⟩
      rfl

theorem of_printLines (mode : ConsoleMode) (lines : List (List String)) :
    Tells (printLines mode lines)
      ((lines.mapM (Console.markedLine mode)).map String.join) := by
  induction lines with
  | nil => exact of_pure
  | cons texts rest inductionHypothesis =>
      have joined : ((texts :: rest).mapM (Console.markedLine mode)).map String.join =
          inOrder (Console.markedLine mode texts)
            ((rest.mapM (Console.markedLine mode)).map String.join) := by
        rw [List.mapM_cons]
        cases Console.markedLine mode texts with
        | error error => rfl
        | ok line =>
            cases rest.mapM (Console.markedLine mode) with
            | error error => rfl
            | ok lines => exact congrArg Except.ok String.join_cons
      rw [joined]
      exact (of_printMarked mode texts).of_bind inductionHypothesis

theorem of_printTable (mode : ConsoleMode) (checks : List Check) :
    Tells (printTable mode checks) (tableText mode checks) := by
  intro session
  cases mode with
  | plain =>
      refine ⟨session.writeErrors (plainTable checks), rfl, rfl, ?_⟩
      rintro told ⟨⟩
      rfl
  | styledBy library =>
      simp only [printTable, tableText, Step.outcome_bind, Step.outcome_modify]
      cases framedTable library checks with
      | error error => exact ⟨session.writeErrors "\n", rfl, rfl, by simp [Except.map]⟩
      | ok table =>
          refine ⟨(session.writeErrors "\n").writeErrors table, rfl, rfl, ?_⟩
          rintro told ⟨⟩
          exact String.append_assoc

end Tells

/-- Prints the report on checks that have been made. -/
def printReport (mode : ConsoleMode) (detection : Interpreter.Detection) (checks : List Check) :
    Step Session Unit := do
  printTable mode checks
  printLines mode (installAdvice detection)
  Console.printMarked mode [verdictLine !checks.any Check.fails]

theorem tells_printReport (mode : ConsoleMode) (detection : Interpreter.Detection)
    (checks : List Check) :
    Tells (printReport mode detection checks) (reportText mode detection checks) :=
  (Tells.of_printTable mode checks).of_bind
    ((Tells.of_printLines mode _).of_bind (.of_printMarked mode _))

/-- The report prints what was checked and ends with the verdict. -/
theorem report_eq (site : Site) (explicit : Option String) :
    report site explicit = do
      let detection ← Interpreter.detect site explicit
      let checks ← checks site detection
      printReport site.console detection checks
      return !checks.any Check.fails := by
  unfold report printReport
  congr 1
  funext detection
  congr 1
  funext checks
  simp only [bind_assoc]
  congr 1
  funext _
  congr 1
  funext _
  cases checks.any Check.fails <;> rfl

/-- The report ends as concluded, and is told whole when it comes to an end. -/
theorem report_outcome (site : Site) (explicit : Option String) (session : Session) :
    ∃ after, (report site explicit).outcome session = (conclusion site explicit session, after) ∧
      after.output = session.output ∧
      ∀ detection checks text, Interpreter.detected site explicit session.files = .ok detection →
        rows site (session.outcomeAt 0).ending detection = .ok checks →
        reportText site.console detection checks = .ok text →
        after.errors = session.errors ++ text := by
  let message := Interpreter.searchMessage site explicit session.files
  let noted := session.addRecord .debug message
  have unheard : session.Unheard noted := .addRecord session .debug message
  have sameEnd : noted.outcomeAt 0 = session.outcomeAt 0 :=
    (Session.Silent.addRecord session .debug message).outcomeAt_of_nil 0
  unfold conclusion
  rw [report_eq, Step.outcome_bind, Interpreter.detect_outcome]
  cases Interpreter.detected site explicit session.files with
  | error error => exact ⟨noted, rfl, unheard.output, by simp⟩
  | ok detection =>
      obtain ⟨checked, made, quiet⟩ := checks_outcome site detection noted
      rw [sameEnd] at made
      simp only [Except.mapError, Step.outcome_bind]
      rw [made]
      simp only [bind, Except.bind]
      cases ended : rows site (session.outcomeAt 0).ending detection with
      | error fault =>
          refine ⟨checked, rfl, quiet.output.trans unheard.output, ?_⟩
          rintro _ checks text ⟨⟩ isMade
          cases ended.symm.trans isMade
      | ok checks =>
          obtain ⟨after, printed, output, told⟩ :=
            tells_printReport site.console detection checks checked
          refine ⟨after, ?_, output.trans (quiet.output.trans unheard.output), ?_⟩
          · simp only [printed]
            cases reportText site.console detection checks <;> rfl
          · rintro _ _ text ⟨⟩ isMade isText
            cases ended.symm.trans isMade
            rw [told text isText, quiet.errors, unheard.errors]

/-- The report never ends in a failure of the program. -/
theorem report_ne_reported (site : Site) (explicit : Option String) (session : Session)
    (failure : Failure) :
    ((report site explicit).outcome session).1 ≠ .error (.reported failure) := by
  have probe : ∀ ending, Interpreter.versionOf ending ≠ .error (.reported failure) := by
    intro ending
    unfold Interpreter.versionOf
    split
    · split <;> simp
    all_goals simp
  have made : ∀ ending detection, rows site ending detection ≠ .error (.reported failure) := by
    intro ending detection stopped
    cases detection with
    | missing commands => cases stopped
    | found path =>
        have elsewhere := probe ending
        simp only [rows, versionRow] at stopped
        generalize Interpreter.versionOf ending = probed at stopped elsewhere
        cases probed with
        | error fault => exact elsewhere (by cases stopped; rfl)
        | ok version => cases stopped
  obtain ⟨after, ended, _⟩ := report_outcome site explicit session
  rw [ended]
  simp only [conclusion, Calculation.bind_eq_error_iff, Calculation.mapError_eq_error_iff, ne_eq]
  rintro (⟨_, _, ⟨⟩⟩ | ⟨detection, _, stopped | ⟨checks, _, ⟨_, _, ⟨⟩⟩ | ⟨_, _, ⟨⟩⟩⟩⟩)
  exact made _ detection stopped

end Health

end PrologImage
