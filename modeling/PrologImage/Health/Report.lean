import PrologImage.Console.Printing
import PrologImage.Console.Table
import PrologImage.Health.Check

/-!
Contract: the report on the surroundings.

Owns: the two forms of the table of checks, the advice on a missing interpreter, and the verdict.

The whole report goes to the error stream.
-/

namespace PrologImage.Health

def title : String := "plbuild doctor"

/-- A text filled up with blanks to a number of characters. -/
def filled (width : Nat) (text : String) : String :=
  text ++ String.ofList (List.replicate (width - text.length) ' ')

def plainRow (label value status : String) : String :=
  filled 12 label ++ " " ++ filled 40 value ++ " " ++ filled 8 status ++ "\n"

def plainRule (character : Char) : String :=
  String.ofList (List.replicate 64 character) ++ "\n"

def plainTable (checks : List Check) : String :=
  "\n" ++ title ++ "\n" ++ plainRule '=' ++ plainRow "Component" "Value" "Status" ++
    plainRule '-' ++
    String.join (checks.map fun check =>
      plainRow check.label check.value (plainStatus check.status)) ++ "\n"

def columns : List Console.Column :=
  [{ heading := "Component", least := 12 },
    { heading := "Value", least := 20, elastic := true },
    { heading := "Status", least := 8, centred := true }]

/-- The texts of a check, each of which is markup on a styled console. -/
def rowTexts (check : Check) : List (List Char) :=
  [check.label.toList, check.value.toList, check.status.toList]

/-- The texts of all cells, row by row. -/
def cellTexts (checks : List Check) : List (List Char) :=
  checks.flatMap rowTexts

/-- What a styled console shows of a cell. -/
def cellText (library : Console.MarkupLibrary) (text : List Char) : List Char :=
  Console.sanitize (library.visibleText text)

/-- The table of checks for a styled console, with an empty line after it. -/
def framedTable (library : Console.MarkupLibrary) (checks : List Check) :
    Except ForeignError String :=
  let rows := checks.map fun check => (rowTexts check).map (cellText library)
  let lines := Console.tableLines title columns rows
  library.unlessRefused .table (cellTexts checks)
    (String.ofList (lines.flatMap (· ++ ['\n']) ++ ['\n']))

/-- Prints the table of checks. A styled console prints the empty line before the table also when
the table cannot be shown. -/
def printTable (mode : ConsoleMode) (checks : List Check) : Step Session Unit := do
  match mode with
  | .plain => modify fun session => session.writeErrors (plainTable checks)
  | .styledBy library =>
      modify fun session => session.writeErrors "\n"
      let table ← Step.ofForeign (framedTable library checks)
      modify fun session => session.writeErrors table

def printLines (mode : ConsoleMode) : List (List String) → Step Session Unit
  | [] => return ()
  | texts :: rest => do
      Console.printMarked mode texts
      printLines mode rest

/-- The lines on how to install a missing interpreter. -/
def installAdvice : Interpreter.Detection → List (List String)
  | .found _ => []
  | .missing [] => []
  | .missing commands =>
      [["[yellow]SWI-Prolog is not installed.[/yellow]"],
        ["Install using one of the following commands:\n"]] ++
        commands.map (fun command => [s!"  [bold]{command}[/bold]"]) ++ [[]]

/-- Runs all checks and prints the report: whether all checks passed. -/
def report (site : Site) (explicit : Option String) : Step Session Bool := do
  let detection ← Interpreter.detect site explicit
  let checks ← checks site detection
  printTable site.console checks
  printLines site.console (installAdvice detection)
  if checks.any Check.fails then
    Console.printMarked site.console ["[bold red]Some checks failed.[/bold red]"]
    return false
  else
    Console.printMarked site.console ["[bold green]All checks passed.[/bold green]"]
    return true

end PrologImage.Health
