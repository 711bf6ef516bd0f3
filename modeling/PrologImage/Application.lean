import PrologImage.CommandLine.Help
import PrologImage.Health.Report
import PrologImage.Interpreter.Backend
import PrologImage.Report

/-!
Contract: the program from its arguments to its exit status.

Owns: which command does what, the lines that tell progress and success, and the boundary at which
every fault becomes an exit status.

The status is zero when the command succeeded, one hundred and thirty when the user interrupted
it, and one otherwise.
-/

namespace PrologImage.Application

/-- How a run of the program ends. -/
inductive ExitStatus where
  | success
  | failure
  | interrupted
deriving DecidableEq, Repr

def ExitStatus.code : ExitStatus → Nat
  | .success => 0
  | .failure => 1
  | .interrupted => 130

/-- Tells that a source is about to be loaded. -/
def announce (mode : ConsoleMode) (path : Path) (workbench : Interpreter.Workbench) :
    Interpreter.Workbench :=
  { workbench with
    session := workbench.session.writeOutput
      (Console.literalLine mode [s!"Loading {path.text} ..."]) }

/-- The loader that announces sources and loads them with interpreter processes. -/
def loader (site : Site) (settings : Interpreter.Settings) : Loader Interpreter.Workbench where
  backend := Interpreter.backend site settings
  announce := announce site.console

/-- A step of loading that starts with nothing loaded and no interpreter found. -/
def onFreshLoader {α : Type} (step : Step (Loading Interpreter.Workbench) α) : Step Session α :=
  step.within (fun session => ⟨[], ⟨session, none⟩⟩) fun loading _ => loading.backend.session

/-- Does an action on a request and tells its success. -/
def build (site : Site) (settings : Interpreter.Settings) (action : Action) (request : Request) :
    Step Session Unit := do
  match action with
  | .syntaxCheck =>
      onFreshLoader (Build.syntaxCheck (loader site settings) request)
      Console.printLiteral site.console ["Syntax check passed."]
  | .precompile =>
      let output ← onFreshLoader (Build.precompile (loader site settings) request {})
      Console.printLiteral site.console [s!"Saved program image to {output.text}."]

def payloadRefused (error : RequestError) : Failure :=
  .plain .usage error.message none

def runCommand (site : Site) (options : CommandLine.Options) (command : CommandLine.Command)
    (arguments : List String) : Step Session ExitStatus := do
  modify fun session => { session with threshold := options.logLevel }
  match command with
  | .doctor =>
      if ← Health.report site options.interpreter then return .success else return .failure
  | .build action =>
      match Request.ofArguments arguments with
      | .error error => throw (.reported (payloadRefused error))
      | .ok request =>
          let settings : Interpreter.Settings :=
            { explicit := options.interpreter, limit := options.limit.map .seconds }
          build site settings action request
          return .success

/-- Runs the program on its arguments; faults leave it. -/
def run (site : Site) (arguments : List String) : Step Session ExitStatus := do
  match CommandLine.Invocation.ofArguments (splitArguments arguments).1 with
  | .error error => throw (.reported error.failure)
  | .ok (.help command) =>
      modify (·.writeOutput (CommandLine.helpText command))
      return .success
  | .ok .version =>
      modify (·.writeOutput CommandLine.versionText)
      return .success
  | .ok (.run options command) => runCommand site options command arguments

/-- What is printed for a fault, and the exit status that it leads to. -/
def settle (site : Site) : Fault → Step Session ExitStatus
  | .reported failure => do
      Report.failure site.console failure
      return .failure
  | .interrupted => do
      Console.printMarked site.console ["\n[yellow]Aborted by user.[/yellow]"]
      return .interrupted
  | .unexpected error => do
      Console.printLiteral site.console
        [s!"ERROR: unexpected failure: {error.name}: {error.message}"]
      return .failure

/-- Runs the program on its arguments; a fault is told and becomes an exit status. -/
def main (site : Site) (arguments : List String) : Step Session ExitStatus :=
  tryCatch (run site arguments) (settle site)

end PrologImage.Application
