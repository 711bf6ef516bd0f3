import PrologImage.Console.Printing

/-!
Contract: how a failure is told to the user.

Owns: the error lines on the output and the hint on the error stream.

A source that does not load is told by the lines of its diagnostic, any other failure by its
message. The hint is printed as markup.
-/

namespace PrologImage.Report

def errorLines : Failure → List String
  | .notLoaded diagnostic => diagnostic.report
  | .plain _ message _ => ["ERROR: " ++ message]

def printLines (mode : ConsoleMode) : List String → Step Session Unit
  | [] => return ()
  | line :: rest => do
      Console.printLiteral mode [line]
      printLines mode rest

/-- Prints the advice that comes with a failure, if there is any. -/
def printHint (mode : ConsoleMode) : Option String → Step Session Unit
  | none => return ()
  | some hint =>
      if hint.isEmpty then return ()
      else Console.printMarked mode ["[yellow]Hint:[/yellow] " ++ hint]

def failure (mode : ConsoleMode) (failure : Failure) : Step Session Unit := do
  printLines mode (errorLines failure)
  printHint mode failure.hint

end PrologImage.Report
