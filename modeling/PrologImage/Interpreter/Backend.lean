import PrologImage.Diagnostic.Reader
import PrologImage.Interpreter.Goal
import PrologImage.Interpreter.Locate
import PrologImage.Text.ShellWord

/-!
Contract: loading sources and saving images with interpreter processes.

Owns: the check of the sources before anything is started, the interpreter found once and kept,
the command line of each process, its end, and the check that an image was written.

Does not own: which sources are asked for (`Loader`).

Each question is answered by a fresh process that loads all its sources. The interpreter is
searched for when a command line is first needed; a search that fails is made again next time.
-/

namespace PrologImage.Interpreter

/-- What a backend is told once: the name of the interpreter and the time for each process. -/
structure Settings where
  explicit : Option String := none
  limit : Option TimeLimit := none
deriving DecidableEq, Repr

/-- A session, and the interpreter once it has been found. -/
structure Workbench where
  session : Session
  executable : Option Path := none

/-- A step of the session, as a step of the workbench. -/
def Workbench.ofSession {α : Type} (step : Step Session α) : Step Workbench α :=
  step.within Workbench.session fun session workbench => { workbench with session }

/-- The interpreter, searched for on first use. -/
def executable (site : Site) (settings : Settings) : Step Workbench Path := do
  match (← get).executable with
  | some path => return path
  | none =>
      let path ← Workbench.ofSession (require site settings.explicit)
      modify fun workbench => { workbench with executable := some path }
      return path

/-- The absolute, link-free form of a path on the workbench. -/
def resolved (site : Site) (path : Path) : Step Workbench Path := do
  let workbench ← get
  Step.ofForeign (workbench.session.files.resolve site.workingDirectory path)

/-- The absolute, link-free forms of paths, in order. -/
def resolvedAll (site : Site) : List Path → Step Workbench (List Path)
  | [] => return []
  | path :: rest => do
      let first ← resolved site path
      let others ← resolvedAll site rest
      return first :: others

def consultCommand (site : Site) (settings : Settings) (sources : List Path) (verbose : Bool) :
    Step Workbench (List String) := do
  let program ← executable site settings
  let targets ← resolvedAll site sources
  return commandLine program verbose [consultGoal targets]

/-- The command line that loads sources and saves an image. The place of the image is resolved
before the interpreter is needed. -/
def saveCommand (site : Site) (settings : Settings) (sources : List Path) (output : Path)
    (options : SaveOptions) (verbose : Bool) : Step Workbench (List String) := do
  let image ← resolved site output
  let program ← executable site settings
  let targets ← resolvedAll site sources
  return commandLine program verbose [consultGoal targets, saveGoal image options]

/-- The first source that is not a regular file, as a diagnostic. -/
def firstMissing (files : FileSystem) (base : Location) :
    List Path → Except SystemError (Option Diagnostic)
  | [] => .ok none
  | source :: rest =>
      match files.entryOf? base source with
      | .error error => .error error
      | .ok none => .ok (some (.bare s!"source file {source.text} does not exist"))
      | .ok (some entry) =>
          if entry = .file ∨ entry = .executable then firstMissing files base rest
          else .ok (some (.bare s!"source file {source.text} is not a regular file"))

def timeExceeded (limit : Option TimeLimit) : Failure :=
  let seconds := (limit.map TimeLimit.text).getD "None"
  .plain .interpreter s!"swipl did not finish within {seconds} seconds."
    (some "Raise --timeout or check the inputs for non-terminating directives.")

def notRunnable (executable : Path) (error : SystemError) : Failure :=
  .plain .interpreter s!"Could not run {executable.text}: {error.message}" none

/-- The failure of a save that wrote nothing. -/
def imageMissing (output : Path) : Failure :=
  .plain .interpreter s!"swipl finished but no image was written to {output.text}."
    (some "Check that the output directory exists and is writable.")

/-- The errors that a process printed, nothing when there are none. -/
def errorText (completion : Completion) : String :=
  completion.errors.getD ""

def logCompletion (completion : Completion) : Step Workbench Unit := do
  Workbench.ofSession (Session.debug s!"swipl exited with status {completion.status}")
  let errors := errorText completion
  if !errors.isEmpty then
    let shown := String.ofList (Text.trimEnd errors.toList)
    Workbench.ofSession (Session.debug ("swipl stderr:\n" ++ shown))

def runInterpreter (site : Site) (settings : Settings) (command : List String) :
    Step Workbench Completion := do
  Workbench.ofSession (Session.debug ("Running: " ++ Text.ShellWord.joined command))
  match ← Workbench.ofSession (Session.run ⟨command, settings.limit⟩) with
  | .completed completion =>
      logCompletion completion
      return completion
  | .timedOut => throw (.reported (timeExceeded settings.limit))
  | .failed (.system error) =>
      throw (.reported (notRunnable (← executable site settings) error))
  | .failed error => throw (.unexpected error)
  | .interrupted => throw .interrupted

/-- The error that a process ended with: the first one that it printed, or its status. -/
def verdict (completion : Completion) : Except ForeignError (Option Diagnostic) :=
  match Diagnostic.read (errorText completion) with
  | .error numeral => .error (.overlongNumeral numeral.digits)
  | .ok (some diagnostic) => .ok (some diagnostic)
  | .ok none =>
      if completion.status = 0 then .ok none
      else .ok (some (.bare s!"swipl exited with status {completion.status}"))

/-- A question about the files that the system may refuse. -/
def ofSystem {α : Type} : Except SystemError α → Step Workbench α
  | .ok value => return value
  | .error error => throw (.unexpected (.system error))

/-- The first source that cannot be loaded, found without starting anything. -/
def checkSources (site : Site) (sources : List Path) : Step Workbench (Option Diagnostic) := do
  let workbench ← get
  ofSystem (firstMissing workbench.session.files site.workingDirectory sources)

/-- Loads sources in a fresh process: the first error, or none. -/
def consult (site : Site) (settings : Settings) (sources : List Path) (verbose : Bool) :
    Step Workbench (Option Diagnostic) := do
  match ← checkSources site sources with
  | some diagnostic => return some diagnostic
  | none =>
      let command ← consultCommand site settings sources verbose
      let completion ← runInterpreter site settings command
      Step.ofForeign (verdict completion)

/-- Loads sources in a fresh process and saves the image: the first error, or none. -/
def saveImage (site : Site) (settings : Settings) (sources : List Path) (output : Path)
    (options : SaveOptions) (verbose : Bool) : Step Workbench (Option Diagnostic) := do
  match ← checkSources site sources with
  | some diagnostic => return some diagnostic
  | none =>
      let command ← saveCommand site settings sources output options verbose
      let completion ← runInterpreter site settings command
      match ← Step.ofForeign (verdict completion) with
      | some diagnostic => return some diagnostic
      | none =>
          let workbench ← get
          let written ← ofSystem (workbench.session.files.holds site.workingDirectory output)
          if written then return none
          else throw (.reported (imageMissing output))

def backend (site : Site) (settings : Settings) : Backend Workbench where
  consult := consult site settings
  saveImage := saveImage site settings

end PrologImage.Interpreter
