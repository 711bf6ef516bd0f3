import PrologImage.CommandLine.Options
import PrologImage.Health.Check

/-!
Contract: the texts that answer a question about the program.

Owns: the help on the program, the help on a command, and the version line.
-/

namespace PrologImage.CommandLine

def programName : String := "plbuild"

def programHelp : List String :=
  ["usage: plbuild [-h] [-V] [--swipl PATH] [--timeout SECONDS]",
    "               [--log-level \x7bTRACE,DEBUG,INFO,WARNING,ERROR\x7d]",
    "               command ...",
    "",
    "Syntax-check or precompile SWI-Prolog programs.",
    "",
    "positional arguments:",
    "  command",
    "    precompile          Load the inputs and save a program image to the -o",
    "                        path.",
    "    syntax_check        Load the inputs and report the first error.",
    "    doctor              Show environment diagnostics.",
    "",
    "options:",
    "  -h, --help            show this help message and exit",
    "  -V, --version         show program's version number and exit",
    "  --swipl PATH          SWI-Prolog executable (default: $PLBUILD_SWIPL or",
    "                        'swipl' on PATH).",
    "  --timeout SECONDS     Abort an interpreter run after this many seconds.",
    "  --log-level \x7bTRACE,DEBUG,INFO,WARNING,ERROR\x7d",
    "                        Diagnostic log level on stderr (default: WARNING).",
    "",
    "Payload after '--': [-v] -c <input>... -o <output>"]

def commandHelp (command : Command) : List String :=
  [s!"usage: {programName} {command.word} [-h]",
    "",
    "options:",
    "  -h, --help  show this help message and exit"]

/-- Lines as a text, each ended. -/
def asText (lines : List String) : String :=
  String.join (lines.map (· ++ "\n"))

def helpText : Option Command → String
  | none => asText programHelp
  | some command => asText (commandHelp command)

def versionText : String :=
  s!"{programName} {programVersion}\n"

end PrologImage.CommandLine
