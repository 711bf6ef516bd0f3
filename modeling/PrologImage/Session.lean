import PrologImage.Console.WrittenLibrary
import PrologImage.Decimal.Shortest
import PrologImage.FileSystem.Lookup
import PrologImage.Step

/-!
Contract: what a run of the program reads from its surroundings and what it leaves there.

Owns: the fixed surroundings, the outcomes of the processes that will be started, and the record
of what has happened: started processes, log, output, files.

A process is answered by the next prepared outcome. The files that it writes appear before it
ends, also when it fails. The working directory is taken to be there for the whole run, and the
two streams to take every text: no encoding refuses a character.
-/

namespace PrologImage

/-- What the machine says about itself. -/
structure Platform where
  system : String
  release : String
  machine : String
  /-- The version of the language runtime, numbers separated by dots. -/
  runtime : String

/-- How text is shown: by a library of styles that reads markup, or as it is. -/
inductive ConsoleMode where
  | styledBy (library : Console.MarkupLibrary)
  | plain

/-- The console with styles that goes by the written rules and knows no pictures. -/
def ConsoleMode.styled : ConsoleMode :=
  .styledBy (.written [])

/-- Surroundings that do not change during a run. -/
structure Site where
  workingDirectory : Location
  environment : List (String × String)
  platform : Platform
  console : ConsoleMode

def Site.valueOf? (site : Site) (name : String) : Option String :=
  site.environment.lookup name

/-- The most time that a process may take. -/
inductive TimeLimit where
  | wholeSeconds (count : Nat)
  | seconds (value : Decimal.Double)
deriving DecidableEq, Repr

/-- A time limit as it is written in messages. -/
def TimeLimit.text : TimeLimit → String
  | .wholeSeconds count => toString count
  | .seconds value => value.text

/-- A process that ended. Its output may be missing. -/
structure Completion where
  status : Int := 0
  output : Option String := some ""
  errors : Option String := some ""
deriving DecidableEq, Repr

/-- How a process ends. -/
inductive ProcessEnd where
  | completed (completion : Completion)
  | timedOut
  | interrupted
  | failed (error : ForeignError)
deriving DecidableEq, Repr

/-- The prepared outcome of a process. -/
structure ProcessOutcome where
  writes : List Location := []
  ending : ProcessEnd := .completed {}
deriving DecidableEq, Repr

/-- A process that was started. -/
structure StartedProcess where
  command : List String
  limit : Option TimeLimit
deriving DecidableEq, Repr

/-- How much a log record matters, least first. -/
inductive LogLevel where
  | trace
  | debug
  | info
  | warning
  | error
deriving DecidableEq, Repr

namespace LogLevel

def all : List LogLevel := [.trace, .debug, .info, .warning, .error]

def name : LogLevel → String
  | .trace => "TRACE"
  | .debug => "DEBUG"
  | .info => "INFO"
  | .warning => "WARNING"
  | .error => "ERROR"

def rank : LogLevel → Nat
  | .trace => 0
  | .debug => 1
  | .info => 2
  | .warning => 3
  | .error => 4

def ofName? (name : String) : Option LogLevel :=
  all.find? (·.name = name)

end LogLevel

structure LogRecord where
  level : LogLevel
  message : String
deriving DecidableEq, Repr

/-- The state of a run: what is still to come, and what has happened so far. -/
structure Session where
  files : FileSystem
  outcomes : List ProcessOutcome := []
  started : List StartedProcess := []
  threshold : LogLevel := .debug
  log : List LogRecord := []
  output : String := ""
  errors : String := ""

namespace Session

def writeOutput (session : Session) (text : String) : Session :=
  { session with output := session.output ++ text }

def writeErrors (session : Session) (text : String) : Session :=
  { session with errors := session.errors ++ text }

/-- Adds a record to the log unless it matters less than the threshold. -/
def addRecord (session : Session) (level : LogLevel) (message : String) : Session :=
  if session.threshold.rank ≤ level.rank then
    { session with log := session.log ++ [⟨level, message⟩] }
  else session

/-- Logs a message for whoever looks for a fault. -/
def debug (message : String) : Step Session Unit :=
  modify fun session => session.addRecord .debug message

/-- A process that starts now: recorded, with the files that it writes. -/
def start (session : Session) (process : StartedProcess) : Session :=
  { session with
    outcomes := session.outcomes.tail
    started := session.started ++ [process]
    files := (session.outcomes.headD {}).writes.foldl
      (fun files location => files.place location .file) session.files }

/-- Starts a process and says how it ends. -/
def run (process : StartedProcess) : Step Session ProcessEnd := do
  let session ← get
  set (session.start process)
  return (session.outcomes.headD {}).ending

end Session

end PrologImage
