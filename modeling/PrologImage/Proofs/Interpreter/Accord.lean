import Mathlib.Data.List.Forall2
import Mathlib.Tactic.SplitIfs
import PrologImage.Interpreter.Backend
import PrologImage.Proofs.Loader.Accord

/-!
Contract: two interpreter backends seen side by side.

Owns: sessions and workbenches beside each other; that the searches, the processes, loading
sources and saving an image are steps in accord when they differ only in verbosity; and that a
backend does not look at the console.

Does not own: what the two runs start and print (the relations are given), and what the program
prints itself (`Proofs.Application.Verbosity`, `Proofs.Application.ConsoleModes`).

Sessions beside each other have the same files and the same outcomes to come. Their logs and their
error streams are not compared.
-/

namespace PrologImage

/-- Sessions with the same files and the same outcomes to come; the processes that they started
are in a relation one by one, and so are the texts on their outputs. -/
structure Session.Beside (processes : StartedProcess → StartedProcess → Prop)
    (outputs : String → String → Prop) (left right : Session) : Prop where
  files : left.files = right.files
  outcomes : left.outcomes = right.outcomes
  started : List.Forall₂ processes left.started right.started
  output : outputs left.output right.output

namespace Session

variable {processes : StartedProcess → StartedProcess → Prop} {outputs : String → String → Prop}
  {left right : Session}

theorem Beside.addRecord (beside : left.Beside processes outputs right)
    (leftLevel rightLevel : LogLevel) (leftMessage rightMessage : String) :
    Beside processes outputs (left.addRecord leftLevel leftMessage)
      (right.addRecord rightLevel rightMessage) := by
  obtain ⟨files, outcomes, started, output⟩ := beside
  unfold Session.addRecord
  split_ifs <;> exact ⟨files, outcomes, started, output⟩

theorem Beside.start (beside : left.Beside processes outputs right)
    {leftProcess rightProcess : StartedProcess} (alike : processes leftProcess rightProcess) :
    Beside processes outputs (left.start leftProcess) (right.start rightProcess) where
  files := by simp only [Session.start, beside.files, beside.outcomes]
  outcomes := by simp only [Session.start, beside.outcomes]
  started := List.rel_append beside.started (.cons alike .nil)
  output := beside.output

theorem accord_debug (leftMessage rightMessage : String) :
    Accord (Beside processes outputs) Eq (debug leftMessage) (debug rightMessage) :=
  .of_modify fun _ _ beside => beside.addRecord _ _ _ _

theorem accord_run {leftProcess rightProcess : StartedProcess}
    (alike : processes leftProcess rightProcess) :
    Accord (Beside processes outputs) Eq (run leftProcess) (run rightProcess) := by
  intro before after beside
  have sameEnd : (before.outcomes.headD {}).ending = (after.outcomes.headD {}).ending := by
    rw [beside.outcomes]
  exact ⟨.value sameEnd, beside.start alike⟩

end Session

namespace Interpreter

variable {processes : StartedProcess → StartedProcess → Prop} {outputs : String → String → Prop}
  {site : Site} {settings : Settings} {leftVerbose rightVerbose : Bool}

/-! ## The search -/

theorem accord_detect (explicit : Option String) :
    Accord (Session.Beside processes outputs) Eq (detect site explicit)
      (detect site explicit) := by
  apply Accord.of_get.of_bind
  intro left right beside
  dsimp only
  rw [beside.files]
  apply (Session.accord_debug _ _).of_bind_same
  intro _
  cases find? site right.files (nameSought site explicit) with
  | none => exact .of_pure rfl
  | some text => exact (Accord.of_ofForeign _).of_bind_same fun path => .of_pure rfl

theorem accord_require (explicit : Option String) :
    Accord (Session.Beside processes outputs) Eq (require site explicit)
      (require site explicit) := by
  apply (accord_detect explicit).of_bind_same
  intro detection
  cases detection with
  | found path => exact .of_pure rfl
  | missing commands => exact .of_throw _

/-! ## Steps on a workbench -/

/-- Workbenches that keep the same interpreter, with sessions beside each other. -/
structure Workbench.Beside (processes : StartedProcess → StartedProcess → Prop)
    (outputs : String → String → Prop) (left right : Workbench) : Prop where
  session : left.session.Beside processes outputs right.session
  executable : left.executable = right.executable

theorem accord_ofSession {α β : Type} {values : α → β → Prop} {first : Step Session α}
    {second : Step Session β} (accord : Accord (Session.Beside processes outputs) values first second) :
    Accord (Workbench.Beside processes outputs) values (Workbench.ofSession first)
      (Workbench.ofSession second) :=
  .of_within (fun _ _ beside => beside.session)
    (fun _ _ beside _ _ changed => ⟨changed, beside.executable⟩) accord

theorem accord_executable :
    Accord (Workbench.Beside processes outputs) Eq (executable site settings)
      (executable site settings) := by
  apply Accord.of_get.of_bind
  intro left right beside
  rw [beside.executable]
  cases right.executable with
  | some path => exact .of_pure rfl
  | none =>
      apply (accord_ofSession (accord_require settings.explicit)).of_bind_same
      intro path
      refine (Accord.of_modify ?_).of_bind_same fun _ => .of_pure rfl
      intro _ _ found
      exact ⟨found.session, rfl⟩

theorem accord_resolved (path : Path) :
    Accord (Workbench.Beside processes outputs) Eq (resolved site path) (resolved site path) := by
  apply Accord.of_get.of_bind
  intro left right beside
  rw [beside.session.files]
  exact .of_ofForeign _

theorem accord_resolvedAll (paths : List Path) :
    Accord (Workbench.Beside processes outputs) Eq (resolvedAll site paths)
      (resolvedAll site paths) := by
  induction paths with
  | nil => exact .of_pure rfl
  | cons path rest inductionHypothesis =>
      apply (accord_resolved path).of_bind_same
      intro first
      exact inductionHypothesis.of_bind_same fun others => .of_pure rfl

/-- Command lines that run the same goals with the same interpreter. -/
def SameGoals (leftVerbose rightVerbose : Bool) (left right : List String) : Prop :=
  ∃ program goals, left = commandLine program leftVerbose goals ∧
    right = commandLine program rightVerbose goals

theorem accord_consultCommand (sources : List Path) :
    Accord (Workbench.Beside processes outputs) (SameGoals leftVerbose rightVerbose)
      (consultCommand site settings sources leftVerbose)
      (consultCommand site settings sources rightVerbose) := by
  apply accord_executable.of_bind_same
  intro program
  apply (accord_resolvedAll sources).of_bind_same
  intro targets
  exact .of_pure ⟨program, _, rfl, rfl⟩

theorem accord_saveCommand (sources : List Path) (output : Path) (options : SaveOptions) :
    Accord (Workbench.Beside processes outputs) (SameGoals leftVerbose rightVerbose)
      (saveCommand site settings sources output options leftVerbose)
      (saveCommand site settings sources output options rightVerbose) := by
  apply (accord_resolved output).of_bind_same
  intro image
  apply accord_executable.of_bind_same
  intro program
  apply (accord_resolvedAll sources).of_bind_same
  intro targets
  exact .of_pure ⟨program, _, rfl, rfl⟩

theorem accord_logCompletion (completion : Completion) :
    Accord (Workbench.Beside processes outputs) Eq (logCompletion completion)
      (logCompletion completion) := by
  apply (accord_ofSession (Session.accord_debug _ _)).of_bind_same
  intro _
  dsimp only
  split
  · exact accord_ofSession (Session.accord_debug _ _)
  · exact .of_pure rfl

theorem accord_runInterpreter {left right : List String}
    (alike : processes ⟨left, settings.limit⟩ ⟨right, settings.limit⟩) :
    Accord (Workbench.Beside processes outputs) Eq (runInterpreter site settings left)
      (runInterpreter site settings right) := by
  apply (accord_ofSession (Session.accord_debug _ _)).of_bind_same
  intro _
  apply (accord_ofSession (Session.accord_run alike)).of_bind_same
  intro ending
  cases ending with
  | completed completion =>
      exact (accord_logCompletion completion).of_bind_same fun _ => .of_pure rfl
  | timedOut => exact .of_throw _
  | interrupted => exact .of_throw _
  | failed error =>
      cases error with
      | system error => exact accord_executable.of_bind_same fun program => .of_throw _
      | _ => exact .of_throw _

theorem accord_ofSystem {α : Type} (result : Except SystemError α) :
    Accord (Workbench.Beside processes outputs) Eq (ofSystem result) (ofSystem result) := by
  cases result with
  | ok value => exact .of_pure rfl
  | error error => exact .of_throw _

theorem accord_checkSources (sources : List Path) :
    Accord (Workbench.Beside processes outputs) Eq (checkSources site sources)
      (checkSources site sources) := by
  apply Accord.of_get.of_bind
  intro left right beside
  rw [beside.session.files]
  exact accord_ofSystem _

/-! ## Questions -/

section Questions

variable (alike : ∀ program goals, processes
  ⟨commandLine program leftVerbose goals, settings.limit⟩
  ⟨commandLine program rightVerbose goals, settings.limit⟩)
include alike

theorem accord_runCommand {left right : List String}
    (sameGoals : SameGoals leftVerbose rightVerbose left right) :
    Accord (Workbench.Beside processes outputs) Eq (runInterpreter site settings left)
      (runInterpreter site settings right) := by
  obtain ⟨program, goals, rfl, rfl⟩ := sameGoals
  exact accord_runInterpreter (alike program goals)

theorem accord_consult (sources : List Path) :
    Accord (Workbench.Beside processes outputs) Eq (consult site settings sources leftVerbose)
      (consult site settings sources rightVerbose) := by
  apply (accord_checkSources sources).of_bind_same
  intro missing
  cases missing with
  | some diagnostic => exact .of_pure rfl
  | none =>
      apply (accord_consultCommand sources).of_bind
      intro left right sameGoals
      apply (accord_runCommand alike sameGoals).of_bind_same
      intro completion
      exact .of_ofForeign _

theorem accord_saveImage (sources : List Path) (output : Path) (options : SaveOptions) :
    Accord (Workbench.Beside processes outputs) Eq
      (saveImage site settings sources output options leftVerbose)
      (saveImage site settings sources output options rightVerbose) := by
  apply (accord_checkSources sources).of_bind_same
  intro missing
  cases missing with
  | some diagnostic => exact .of_pure rfl
  | none =>
      apply (accord_saveCommand sources output options).of_bind
      intro left right sameGoals
      apply (accord_runCommand alike sameGoals).of_bind_same
      intro completion
      apply (Accord.of_ofForeign _).of_bind_same
      intro verdict
      cases verdict with
      | some diagnostic => exact .of_pure rfl
      | none =>
          apply Accord.of_get.of_bind
          intro before after beside
          rw [beside.session.files]
          apply (accord_ofSystem _).of_bind_same
          intro written
          cases written with
          | true => exact .of_pure rfl
          | false => exact .of_throw _

end Questions

end Interpreter

/-! ## The console -/

/-- The same surroundings with another console. -/
def Site.onConsole (site : Site) (mode : ConsoleMode) : Site :=
  { site with console := mode }

namespace Interpreter

theorem resolvedAll_onConsole (site : Site) (mode : ConsoleMode) :
    resolvedAll (site.onConsole mode) = resolvedAll site := by
  funext paths
  induction paths with
  | nil => rfl
  | cons path rest inductionHypothesis =>
      rw [resolvedAll, resolvedAll, inductionHypothesis]
      rfl

theorem consult_onConsole (site : Site) (mode : ConsoleMode) :
    consult (site.onConsole mode) = consult site := by
  unfold consult consultCommand
  rw [resolvedAll_onConsole]
  rfl

theorem saveImage_onConsole (site : Site) (mode : ConsoleMode) :
    saveImage (site.onConsole mode) = saveImage site := by
  unfold saveImage saveCommand
  rw [resolvedAll_onConsole]
  rfl

theorem backend_onConsole (site : Site) (mode : ConsoleMode) (settings : Settings) :
    backend (site.onConsole mode) settings = backend site settings := by
  rw [backend, backend, consult_onConsole, saveImage_onConsole]

end Interpreter

end PrologImage
