import PrologImage.Interpreter.Atom
import PrologImage.Loader

/-!
Contract: command lines of the interpreter.

Owns: the goals that load sources and save an image, and the arguments around them.

Does not own: which paths the goals name (`Interpreter.Backend` resolves them first).
-/

namespace PrologImage.Interpreter

def pathAtom (path : Path) : String := quoteAtom path.text

def consultGoal (sources : List Path) : String :=
  "consult([" ++ String.intercalate "," (sources.map pathAtom) ++ "])"

def saveGoal (output : Path) (options : SaveOptions) : String :=
  let standAlone := if options.standAlone then "true" else "false"
  "qsave_program(" ++ pathAtom output ++ ", [goal(" ++ options.goal ++ "), toplevel(" ++
    options.toplevel ++ "), stand_alone(" ++ standAlone ++ ")])"

/-- The arguments before the goals: the first error ends the interpreter, and it is quiet unless
verbose mode is asked for. -/
def leadingArguments (executable : Path) (verbose : Bool) : List String :=
  [executable.text, "--on-error=halt"] ++ if verbose then [] else ["-q"]

/-- The command line that runs goals in order and ends the interpreter. -/
def commandLine (executable : Path) (verbose : Bool) (goals : List String) : List String :=
  leadingArguments executable verbose ++ goals.flatMap (["-g", ·]) ++ ["-t", "halt"]

end PrologImage.Interpreter
