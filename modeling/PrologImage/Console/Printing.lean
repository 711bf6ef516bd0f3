import PrologImage.Console.PlainMarkup
import PrologImage.Session
import PrologImage.Text.CellWidth

/-!
Contract: printing texts on the two streams.

Owns: printing literal text on the output and marked-up text on the error stream, in both console
modes. Each text printed is a line of its own.

On a styled console a few control characters vanish and tabs become blanks; nothing is wrapped. On
a plain console literal text is printed as it is, and simple tags are taken out of markup.

The width of a styled console is no part of this: blanks at the end of a line that is longer are
kept here, while a library may cut them. The streams take every text, whatever its characters.
-/

namespace PrologImage.Console

/-- Control characters that a styled console does not print: bell, backspace, vertical tab, form
feed and carriage return. -/
def isDropped (character : Char) : Bool :=
  let code := character.toNat
  code = 7 || code = 8 || code = 11 || code = 12 || code = 13

/-- A text without the control characters that a styled console does not print. -/
def sanitize (characters : List Char) : List Char :=
  characters.filter (!isDropped ·)

def styledLine (texts : List (List Char)) : String :=
  String.ofList (Text.expandTabs (List.intercalate [' '] (texts.map sanitize)) ++ ['\n'])

def plainLine (texts : List String) : String :=
  String.intercalate " " texts ++ "\n"

/-- The line that literal texts are printed as. -/
def literalLine (mode : ConsoleMode) (texts : List String) : String :=
  match mode with
  | .styledBy _ => styledLine (texts.map String.toList)
  | .plain => plainLine texts

/-- The line that marked-up texts are printed as. Each text is markup of its own. -/
def markedLine (mode : ConsoleMode) (texts : List String) : Except ForeignError String :=
  match mode with
  | .plain => .ok (plainLine (texts.map stripMarkup))
  | .styledBy library =>
      let marked := texts.map String.toList
      library.unlessRefused .line marked (styledLine (marked.map library.visibleText))

def printLiteral (mode : ConsoleMode) (texts : List String) : Step Session Unit :=
  modify fun session => session.writeOutput (literalLine mode texts)

/-- Prints marked-up texts on the error stream. -/
def printMarked (mode : ConsoleMode) (texts : List String) : Step Session Unit := do
  let line ← Step.ofForeign (markedLine mode texts)
  modify fun session => session.writeErrors line

end PrologImage.Console
