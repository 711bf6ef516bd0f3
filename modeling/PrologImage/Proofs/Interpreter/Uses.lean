import PrologImage.Proofs.Interpreter.KeptInterpreter

/-!
Contract: what each use of a backend does about the interpreter.

Owns: the uses, and changes of the files by somebody else; when a use needs the interpreter; and its
course: it works with a kept interpreter, or needs none, or searches first.

Does not own: sequences of uses (`Proofs.Interpreter.UseSequence`).

After a search that succeeds a use goes on like one that works with a kept interpreter, so the first
case carries the last.
-/

namespace PrologImage.Interpreter

/-! ## Uses -/

/-- A use of a backend, or a change of the files by somebody else. -/
inductive Use where
  | executable
  | consultCommand (sources : List Path) (verbose : Bool)
  | saveCommand (sources : List Path) (output : Path) (options : SaveOptions) (verbose : Bool)
  | consult (sources : List Path) (verbose : Bool)
  | saveImage (sources : List Path) (output : Path) (options : SaveOptions) (verbose : Bool)
  | changeFiles (change : FileSystem → FileSystem)

/-- What a use hands over. -/
inductive Yield where
  | program (path : Path)
  | command (arguments : List String)
  | answer (diagnostic : Option Diagnostic)
  | nothing

namespace Use

def perform (site : Site) (settings : Settings) : Use → Step Workbench Yield
  | .executable => Yield.program <$> Interpreter.executable site settings
  | .consultCommand sources verbose =>
      Yield.command <$> Interpreter.consultCommand site settings sources verbose
  | .saveCommand sources output options verbose =>
      Yield.command <$> Interpreter.saveCommand site settings sources output options verbose
  | .consult sources verbose =>
      Yield.answer <$> Interpreter.consult site settings sources verbose
  | .saveImage sources output options verbose =>
      Yield.answer <$> Interpreter.saveImage site settings sources output options verbose
  | .changeFiles change => do
      Workbench.ofSession (modify fun session => { session with files := change session.files })
      return .nothing

/-- The most processes that a use starts. -/
def mostProcesses : Use → Nat
  | .consult .. | .saveImage .. => 1
  | _ => 0

/-- When a use needs the interpreter: loading and saving only do once all sources are regular files,
and saving only when the place of the image resolves. -/
def Needs (site : Site) (files : FileSystem) : Use → Prop
  | .executable | .consultCommand .. => True
  | .saveCommand _ output _ _ =>
      ∃ image, files.resolve site.workingDirectory output = .ok image
  | .consult sources _ => ∀ source ∈ sources, files.IsRegular site.workingDirectory source
  | .saveImage sources output _ _ =>
      (∀ source ∈ sources, files.IsRegular site.workingDirectory source) ∧
        ∃ image, files.resolve site.workingDirectory output = .ok image
  | .changeFiles _ => False

end Use

/-- A yield that names no interpreter. -/
def Yield.IsUnnamed : Yield → Prop
  | .answer _ | .nothing => True
  | _ => False

/-- A yield that names no interpreter but this one. -/
def Yield.Fits (program : Path) : Yield → Prop
  | .program path => path = program
  | .command arguments => Heads program arguments
  | _ => True

section Kept

variable {site other : Site} {settings others : Settings} (program : Path)
  (alike : Alike site other settings others)

include alike

/-- Wherever an interpreter is kept, every use works with it. -/
theorem employs_perform (use : Use) :
    Employs settings program use.mostProcesses (use.perform site settings)
      (use.perform other others) (Yield.Fits program) := by
  cases use with
  | executable => exact .of_map (employs_executable program) fun _ same => same
  | consultCommand sources verbose =>
      exact .of_map (employs_consultCommand program alike _ _) fun _ heads => heads
  | saveCommand sources output options verbose =>
      exact .of_map (employs_saveCommand program alike _ _ _ _) fun _ heads => heads
  | consult sources verbose =>
      exact .of_map (employs_consult program alike _ _) fun _ _ => trivial
  | saveImage sources output options verbose =>
      exact .of_map (employs_saveImage program alike _ _ _ _) fun _ _ => trivial
  | changeFiles change =>
      intro workbench kept
      refine ⟨rfl, ⟨kept, rfl, .of_same rfl 0⟩, ?_⟩
      rintro _ ⟨⟩
      trivial

end Kept

/-! ## Where no interpreter is kept -/

/-- A step that asks for the interpreter before it does anything to the workbench: without one it
ends there and then, and with one it goes on as if that had been kept before. -/
def SearchesFirst {α : Type} (site : Site) (settings : Settings) (step : Step Workbench α)
    (workbench : Workbench) : Prop :=
  step.outcome workbench =
    match workbench.interpreter site settings with
    | .error fault => (.error fault, workbench.afterSearch site settings)
    | .ok _ => step.outcome (workbench.afterSearch site settings)

namespace SearchesFirst

variable {α β : Type} {site : Site} {settings : Settings} {step : Step Workbench α}
  {workbench : Workbench}

theorem of_executable (site : Site) (settings : Settings) (workbench : Workbench) :
    SearchesFirst site settings (executable site settings) workbench := by
  rw [SearchesFirst, executable_outcome]
  cases found : workbench.interpreter site settings with
  | error fault => rfl
  | ok program =>
      have kept := Workbench.executable_afterSearch found
      simp only [executable_outcome, Workbench.interpreter_of_kept kept,
        Workbench.afterSearch_of_kept kept]

theorem bind (first : SearchesFirst site settings step workbench) (next : α → Step Workbench β) :
    SearchesFirst site settings (step >>= next) workbench := by
  unfold SearchesFirst at first ⊢
  rw [Step.outcome_bind, first, Step.outcome_bind]
  cases workbench.interpreter site settings <;> rfl

theorem map (first : SearchesFirst site settings step workbench) (change : α → β) :
    SearchesFirst site settings (change <$> step) workbench := by
  unfold SearchesFirst at first ⊢
  rw [Step.outcome_map, first, Step.outcome_map]
  cases workbench.interpreter site settings <;> rfl

/-- What a step does before may be left out when it only reads the files. -/
theorem of_same (same : Step Workbench α)
    (agrees : ∀ other : Workbench, other.session.files = workbench.session.files →
      step.outcome other = same.outcome other)
    (first : SearchesFirst site settings same workbench) :
    SearchesFirst site settings step workbench := by
  have sameFiles := (workbench.silent_afterSearch site settings).files
  rw [SearchesFirst, agrees workbench rfl, agrees _ sameFiles]
  exact first

end SearchesFirst

variable (site : Site) (settings : Settings)

theorem searchesFirst_saveCommand {output : Path} {workbench : Workbench}
    (resolves : ∃ image, workbench.session.files.resolve site.workingDirectory output = .ok image)
    (sources : List Path) (options : SaveOptions) (verbose : Bool) :
    SearchesFirst site settings (saveCommand site settings sources output options verbose)
      workbench := by
  obtain ⟨image, resolves⟩ := resolves
  refine .of_same _ ?_ ((SearchesFirst.of_executable site settings workbench).bind fun program => do
    let targets ← resolvedAll site sources
    return commandLine program verbose [consultGoal targets, saveGoal image options])
  intro other sameFiles
  rw [saveCommand, Step.outcome_bind, resolved_outcome, sameFiles, resolves]
  rfl

/-- Once the sources are checked, a question begins with its command line. -/
theorem SearchesFirst.ask {question : Question} {workbench : Workbench}
    (regular : ∀ source ∈ question.sources,
      workbench.session.files.IsRegular site.workingDirectory source)
    (first : SearchesFirst site settings (question.command site settings) workbench) :
    SearchesFirst site settings (question.ask site settings) workbench := by
  refine .of_same (question.askInterpreter site settings) ?_ (first.bind _)
  intro other sameFiles
  refine Question.ask_of_regular site settings ?_
  rw [sameFiles]
  exact (firstMissing_eq_ok_none_iff _ _ _).mpr regular

namespace Use

variable {use : Use} {workbench : Workbench}

/-- A use that needs the interpreter asks for it first. -/
theorem searchesFirst_of_needs (needs : use.Needs site workbench.session.files) :
    SearchesFirst site settings (use.perform site settings) workbench := by
  cases use with
  | executable => exact (SearchesFirst.of_executable site settings workbench).map _
  | consultCommand sources verbose =>
      exact ((SearchesFirst.of_executable site settings workbench).bind _).map _
  | saveCommand sources output options verbose =>
      exact (searchesFirst_saveCommand site settings needs sources options verbose).map _
  | consult sources verbose =>
      have first : SearchesFirst site settings
          (Question.ask site settings { sources, verbose }) workbench :=
        .ask site settings needs ((SearchesFirst.of_executable site settings workbench).bind _)
      exact first.map _
  | saveImage sources output options verbose =>
      have first : SearchesFirst site settings
          (Question.ask site settings { sources, image := some (output, options), verbose })
          workbench :=
        .ask site settings needs.1
          (searchesFirst_saveCommand site settings needs.2 sources options verbose)
      refine SearchesFirst.map (.of_same _ ?_ (first.bind (lookUnless site output))) _
      intro other _
      exact saveImage_outcome_bind site settings sources output options verbose other
  | changeFiles change => exact needs.elim

end Use

/-- A step that gave up or answered before it needed the interpreter: the same interpreter is kept,
or none, nothing is searched for or started, and what is handed over names no interpreter. -/
structure Spares (before : Workbench) (outcome : Except Fault Yield × Workbench) : Prop where
  executable : outcome.2.executable = before.executable
  log : outcome.2.session.log = before.session.log
  started : outcome.2.session.started = before.session.started
  unnamed : ∀ value, outcome.1 = .ok value → value.IsUnnamed

namespace Spares

variable {workbench : Workbench}

theorem of_answer {step : Step Workbench (Option Diagnostic)}
    {result : Except Fault (Option Diagnostic)}
    (unchanged : step.outcome workbench = (result, workbench)) :
    Spares workbench ((Yield.answer <$> step).outcome workbench) := by
  rw [Step.outcome_map, unchanged]
  cases result with
  | error fault => exact ⟨rfl, rfl, rfl, by simp⟩
  | ok diagnostic =>
      refine ⟨rfl, rfl, rfl, ?_⟩
      rintro _ ⟨⟩
      trivial

variable (site : Site) (settings : Settings)

theorem saveCommand_of_unresolved {output : Path} {workbench : Workbench}
    (unresolved : ¬ ∃ image,
      workbench.session.files.resolve site.workingDirectory output = .ok image)
    (sources : List Path) (options : SaveOptions) (verbose : Bool) :
    ∃ fault, (saveCommand site settings sources output options verbose).outcome workbench =
      (.error fault, workbench) := by
  rw [saveCommand, Step.outcome_bind, resolved_outcome]
  cases resolves : workbench.session.files.resolve site.workingDirectory output with
  | error error => exact ⟨_, rfl⟩
  | ok image => exact absurd ⟨image, resolves⟩ unresolved

theorem ask_of_irregular {question : Question}
    (irregular : ¬ ∀ source ∈ question.sources,
      workbench.session.files.IsRegular site.workingDirectory source) :
    ∃ result, (question.ask site settings).outcome workbench = (result, workbench) ∧
      result ≠ .ok none := by
  rw [← firstMissing_eq_ok_none_iff] at irregular
  rw [Question.ask, Step.outcome_bind, Question.checkSources_outcome]
  rcases checked : firstMissing workbench.session.files site.workingDirectory question.sources
    with error | (_ | diagnostic)
  · exact ⟨_, rfl, by simp⟩
  · exact absurd checked irregular
  · exact ⟨_, rfl, by simp⟩

/-- A save that stops before the interpreter is needed has an answer already: of its sources, or of
its place. -/
theorem ask_of_not_needs {sources : List Path} {output : Path} {options : SaveOptions}
    {verbose : Bool}
    (unneeded : ¬ (Use.saveImage sources output options verbose).Needs site
      workbench.session.files) :
    ∃ result, (Question.ask site settings
        { sources, image := some (output, options), verbose }).outcome workbench =
          (result, workbench) ∧ result ≠ .ok none := by
  by_cases regular : ∀ source ∈ sources,
    workbench.session.files.IsRegular site.workingDirectory source
  · obtain ⟨fault, stopped⟩ := saveCommand_of_unresolved site settings
      (fun resolves => unneeded ⟨regular, resolves⟩) sources options verbose
    refine ⟨.error fault, ?_, by simp⟩
    rw [Question.ask_of_regular site settings ((firstMissing_eq_ok_none_iff _ _ _).mpr regular),
      Question.askInterpreter, Step.outcome_bind, Question.command, stopped]
  · exact ask_of_irregular site settings regular

/-- The image is only looked for after a question without an error. -/
theorem saveImage_of_ask {sources : List Path} {output : Path} {options : SaveOptions}
    {verbose : Bool} {result : Except Fault (Option Diagnostic)}
    (asked : (Question.ask site settings
        { sources, image := some (output, options), verbose }).outcome workbench =
          (result, workbench))
    (answered : result ≠ .ok none) :
    (saveImage site settings sources output options verbose).outcome workbench =
      (result, workbench) := by
  rw [saveImage_outcome_bind, Step.outcome_bind, asked]
  rcases result with fault | (_ | diagnostic)
  · rfl
  · exact absurd rfl answered
  · rfl

/-- A use that does not need the interpreter leaves it alone. -/
theorem of_not_needs {use : Use} (unneeded : ¬ use.Needs site workbench.session.files) :
    Spares workbench ((use.perform site settings).outcome workbench) := by
  cases use with
  | executable => exact absurd trivial unneeded
  | consultCommand sources verbose => exact absurd trivial unneeded
  | saveCommand sources output options verbose =>
      obtain ⟨fault, stopped⟩ :=
        saveCommand_of_unresolved site settings unneeded sources options verbose
      rw [Use.perform, Step.outcome_map, stopped]
      exact ⟨rfl, rfl, rfl, by simp⟩
  | consult sources verbose =>
      let question : Question := { sources, verbose }
      have irregular : ¬ ∀ source ∈ question.sources,
          workbench.session.files.IsRegular site.workingDirectory source := unneeded
      obtain ⟨result, asked, _⟩ := ask_of_irregular site settings irregular
      exact .of_answer asked
  | saveImage sources output options verbose =>
      obtain ⟨result, asked, answered⟩ := ask_of_not_needs site settings unneeded
      exact .of_answer (saveImage_of_ask site settings asked answered)
  | changeFiles change =>
      refine ⟨rfl, rfl, rfl, ?_⟩
      rintro _ ⟨⟩
      trivial

end Spares

/-! ## The course of a use -/

variable (site : Site) (settings : Settings)

/-- A use works with an interpreter: it keeps it, searches for none, and hands over and starts
nothing with another one. It does the same wherever an interpreter could be found. -/
structure Use.WorksOn (use : Use) (program : Path) (before : Workbench) : Prop where
  works : WorksWith settings program use.mostProcesses before
    ((use.perform site settings).outcome before).2
  fits : ∀ value, ((use.perform site settings).outcome before).1 = .ok value → value.Fits program
  regardless : ∀ other others, Alike site other settings others →
    (use.perform other others).outcome before = (use.perform site settings).outcome before

theorem Use.worksOn_of_kept (use : Use) {program : Path} {before : Workbench}
    (kept : before.executable = some program) : use.WorksOn site settings program before := by
  have same : Alike site site settings settings := ⟨rfl, rfl⟩
  obtain ⟨_, works, fits⟩ := employs_perform program same use before kept
  exact ⟨works, fits, fun _ _ alike => (employs_perform program alike use before kept).1⟩

/-- What a use does about the interpreter. One that is kept is worked with. Where none is kept, a
use that needs none searches for none; one that needs it notes a search, fails when nothing is found
and then keeps nothing, and otherwise keeps what it found and works with it from there. -/
structure Use.Course (use : Use) (before : Workbench) : Prop where
  kept : ∀ program, before.executable = some program → use.WorksOn site settings program before
  spared : ¬ use.Needs site before.session.files →
    Spares before ((use.perform site settings).outcome before)
  noted : before.executable = none →
    (before.afterSearch site settings).session =
        before.session.addRecord .debug (searchRecord site settings before.session.files).message ∧
      (before.afterSearch site settings).session.searches =
        before.session.searches ++
          before.session.taken (searchRecord site settings before.session.files)
  missing : before.executable = none → use.Needs site before.session.files → ∀ fault,
    before.interpreter site settings = .error fault →
      (use.perform site settings).outcome before =
        (.error fault, before.afterSearch site settings) ∧
      (before.afterSearch site settings).executable = none
  found : before.executable = none → use.Needs site before.session.files → ∀ program,
    before.interpreter site settings = .ok program →
      (use.perform site settings).outcome before =
        (use.perform site settings).outcome (before.afterSearch site settings) ∧
      use.WorksOn site settings program (before.afterSearch site settings)

theorem Use.course (use : Use) (before : Workbench) : use.Course site settings before where
  kept _ kept := use.worksOn_of_kept site settings kept
  spared unneeded := .of_not_needs site settings unneeded
  noted fresh := by
    refine ⟨?_, Workbench.searches_afterSearch fresh⟩
    simp only [Workbench.afterSearch, fresh]
    rfl
  missing fresh needs fault failed := by
    have first := use.searchesFirst_of_needs site settings needs
    rw [SearchesFirst, failed] at first
    refine ⟨first, ?_⟩
    simp only [Workbench.afterSearch, fresh, failed]
    rfl
  found _ needs program found := by
    have first := use.searchesFirst_of_needs site settings needs
    rw [SearchesFirst, found] at first
    exact ⟨first, use.worksOn_of_kept site settings (Workbench.executable_afterSearch found)⟩

end PrologImage.Interpreter
