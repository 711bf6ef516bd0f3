import PrologImage.FileSystem.Resolve
import PrologImage.Session
import PrologImage.Text.Blank
import PrologImage.Text.Line

/-!
Contract: where the interpreter is, and what to do when it is nowhere.

Owns: the order of candidates, the search for an executable, the advice on installing, and asking
the interpreter for its version.

The first of the explicit name, the environment variable and the default name that is not empty is
searched for; no other is tried when it is not found.
-/

namespace PrologImage.Interpreter

/-- The environment variable that names the interpreter. -/
def variableName : String := "PLBUILD_SWIPL"

/-- The name searched for when nothing else is said. -/
def defaultName : String := "swipl"

/-- The directories searched when the environment names none. -/
def defaultSearchPath : String := "/bin:/usr/bin"

/-- Whether a path text names something executable that is not a directory. -/
def isExecutable (files : FileSystem) (base : Location) (text : String) : Bool :=
  match files.status base text with
  | .ok .executable => true
  | _ => false

/-- A name in a directory of the search path; the empty directory is the current one. -/
def inDirectory (directory name : String) : String :=
  if directory.isEmpty then name
  else if directory.toList.getLast? = some '/' then directory ++ name
  else directory ++ "/" ++ name

/-- The path texts that a name can stand for: itself when it has a slash, otherwise one for each
directory of the search path. -/
def candidateTexts (searchPath : String) (name : String) : List String :=
  if name.toList.contains '/' then [name]
  else if searchPath.isEmpty then []
  else
    (Text.fields ':' searchPath.toList).map fun directory =>
      inDirectory (String.ofList directory) name

/-- The path text of the executable that a name stands for. -/
def find? (site : Site) (files : FileSystem) (name : String) : Option String :=
  let searchPath := (site.valueOf? "PATH").getD defaultSearchPath
  (candidateTexts searchPath name).find? (isExecutable files site.workingDirectory)

def nameSought (site : Site) (explicit : Option String) : String :=
  ([explicit, site.valueOf? variableName].filterMap id).find? (!·.isEmpty) |>.getD defaultName

/-- What the search found. -/
inductive Detection where
  | found (path : Path)
  | missing (installCommands : List String)
deriving DecidableEq

def Detection.path? : Detection → Option Path
  | .found path => some path
  | .missing _ => none

def Detection.summary : Detection → String
  | .found path => "found at " ++ path.text
  | .missing _ => "not found"

def Detection.installCommands : Detection → List String
  | .found _ => []
  | .missing commands => commands

def installCommands (system : String) : List String :=
  let name := String.ofList (system.toList.map Char.toLower)
  if name = "windows" then
    ["winget install SWI-Prolog.SWI-Prolog", "choco install swi-prolog"]
  else if name = "linux" then
    ["sudo apt install swi-prolog-nox", "sudo dnf install pl", "sudo pacman -S swi-prolog"]
  else if name = "darwin" then ["brew install swi-prolog"]
  else ["Please install SWI-Prolog from https://www.swi-prolog.org/download/stable"]

/-- A text as a quoted literal in the log, or the word for nothing. -/
def quotedOrNone : Option String → String
  | some text => Text.Literal.quoted text
  | none => "None"

def detect (site : Site) (explicit : Option String) : Step Session Detection := do
  let session ← get
  let name := nameSought site explicit
  let found := find? site session.files name
  Session.debug s!"Resolved interpreter {Text.Literal.quoted name} to {quotedOrNone found}"
  match found with
  | none => return .missing (installCommands site.platform.system)
  | some text =>
      let path ← Step.ofForeign
        (session.files.resolve site.workingDirectory (Path.ofText text))
      return .found path

def notInstalled (commands : List String) : Failure :=
  let advice :=
    if commands = [] then []
    else "Install SWI-Prolog using one of:" :: commands.map ("  " ++ ·)
  .plain .interpreterMissing "swipl is not installed or not on PATH."
    (some (String.intercalate "\n"
      (advice ++ [s!"Or point {variableName} / --swipl at the executable."])))

/-- Searches for the interpreter and fails when there is none. -/
def require (site : Site) (explicit : Option String) : Step Session Path := do
  match ← detect site explicit with
  | .found path => return path
  | .missing commands => throw (.reported (notInstalled commands))

def versionLimit : TimeLimit := .wholeSeconds 10

/-- The first line of a text without the white space around it. -/
def firstLine? (text : String) : Option String :=
  (Text.lines (Text.trim text.toList)).head?.map String.ofList

/-- Notes in the log why the version is not known. -/
def versionUnknown (error : ForeignError) : Step Session (Option String) := do
  Session.debug s!"Version probe failed: {error.message}"
  return none

/-- Asks an interpreter for its version: the first line that it prints. -/
def probeVersion (executable : Path) : Step Session (Option String) := do
  let command := [executable.text, "--version"]
  match ← Session.run ⟨command, some versionLimit⟩ with
  | .completed completion =>
      match completion.output with
      | some output => return firstLine? output
      | none => throw (.unexpected .missingOutput)
  | .timedOut => versionUnknown (.timeLimit command versionLimit.text)
  | .failed (.system error) => versionUnknown (.system error)
  | .failed (.process message) => versionUnknown (.process message)
  | .failed error => throw (.unexpected error)
  | .interrupted => throw .interrupted

end PrologImage.Interpreter
