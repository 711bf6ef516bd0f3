import PrologImage.Text.Blank
import PrologImage.Text.CellWidth
import PrologImage.Text.Line

/-!
Contract: tables in a frame of box characters.

Owns: the widths of columns, the lines of a cell, and the frame.

A column is as wide as its longest line and at least as wide as asked for; the one elastic column
gives way so that the table fits its page. A cell is wrapped between words; a word that does not
fit is cut and ends in an ellipsis.
-/

namespace PrologImage.Console

/-- A column: its heading, its least width, whether its text is centred, and whether it gives way
when the table is too wide. -/
structure Column where
  heading : String
  least : Nat
  centred : Bool := false
  elastic : Bool := false
deriving DecidableEq, Repr

def pageWidth : Nat := 80

def longestLine (characters : List Char) : Nat :=
  ((Text.lines characters).map Text.cellWidth).foldl max 0

/-- The width that a column takes when there is room. -/
def Column.naturalWidth (column : Column) (cells : List (List Char)) : Nat :=
  (cells.map longestLine).foldl max (max column.least column.heading.length)

/-- A word with the white space around it: white space before it only at the start of a line. -/
def leadingWord? (characters : List Char) : Option (List Char × List Char) :=
  let before := characters.takeWhile Text.isBlank
  let fromWord := characters.dropWhile Text.isBlank
  let word := fromWord.takeWhile (!Text.isBlank ·)
  let fromAfter := fromWord.dropWhile (!Text.isBlank ·)
  let after := fromAfter.takeWhile Text.isBlank
  if word = [] then none
  else some (before ++ word ++ after, fromAfter.dropWhile Text.isBlank)

/-- The words of a line. White space at the end of a line without words is a word here, so that
nothing is lost. The budget bounds the number of words. -/
def wordsWithin : (budget : Nat) → List Char → List (List Char)
  | 0, _ => []
  | budget + 1, characters =>
      match leadingWord? characters with
      | none => if characters = [] then [] else [characters]
      | some (word, rest) => word :: wordsWithin budget rest

def lineWords (characters : List Char) : List (List Char) :=
  wordsWithin (characters.length + 1) characters

/-- Breaks a line between words so that the words fit a width. `current` is the line so far, and
`column` its width. -/
def breakWords (width : Nat) (current : List Char) (column : Nat) :
    List (List Char) → List (List Char)
  | [] => [current]
  | word :: rest =>
      let needed := Text.cellWidth (Text.trimEnd word)
      if column + needed ≤ width then
        breakWords width (current ++ word) (column + Text.cellWidth word) rest
      else if current = [] then breakWords width word (Text.cellWidth word) rest
      else current :: breakWords width word (Text.cellWidth word) rest

/-- Takes white space from the end of a line as far as the line is too long. -/
def cropEnd (width : Nat) (characters : List Char) : List Char :=
  let blanks := (characters.reverse.takeWhile Text.isBlank).length
  characters.take (characters.length - min blanks (characters.length - width))

/-- The characters that fit a width; half of a wide character is a blank. -/
def takeCells (width : Nat) : List Char → List Char
  | [] => []
  | character :: rest =>
      if Text.characterWidth character ≤ width then
        character :: takeCells (width - Text.characterWidth character) rest
      else List.replicate width ' '

/-- A line that is no longer than a width: the rest is replaced by an ellipsis. -/
def truncated (width : Nat) (characters : List Char) : List Char :=
  if Text.cellWidth characters ≤ width then characters
  else takeCells (width - 1) characters ++ ['…']

/-- A line filled up to a width with blanks. -/
def padded (centred : Bool) (width : Nat) (line : List Char) : List Char :=
  let shown := if centred then truncated width (Text.trimEnd line) else truncated width line
  let missing := width - Text.cellWidth shown
  let before := if centred then missing / 2 else 0
  List.replicate before ' ' ++ shown ++ List.replicate (missing - before) ' '

/-- The lines of a cell, each filled up to the width of its column. -/
def cellLines (centred : Bool) (width : Nat) (cell : List Char) : List (List Char) :=
  ((Text.fields '\n' cell).flatMap fun line =>
    let expanded := Text.expandTabs line
    breakWords width [] 0 (lineWords expanded)).map fun line =>
      padded centred width (cropEnd width line)

/-- One line of a table: its cells between vertical bars, with a blank on either side. -/
def barLine (bar : Char) (cells : List (List Char)) : List Char :=
  bar :: cells.flatMap fun cell => ' ' :: cell ++ [' ', bar]

/-- The lines of a row: as many as its longest cell has. -/
def rowLines (bar : Char) (columns : List Column) (widths : List Nat) (cells : List (List Char)) :
    List (List Char) :=
  let wrapped := (columns.zip (widths.zip cells)).map fun (column, width, cell) =>
    (width, cellLines column.centred width cell)
  let height := (wrapped.map (·.2.length)).foldl max 0
  (List.range height).map fun index =>
    barLine bar (wrapped.map fun (width, lines) =>
      (lines[index]?).getD (List.replicate width ' '))

def ruleLine (left line cross right : Char) (widths : List Nat) : List Char :=
  left :: (List.intercalate [cross]
    (widths.map fun width => List.replicate (width + 2) line) ++ [right])

/-- The widths of the columns of a table that fits its page. -/
def columnWidths (columns : List Column) (rows : List (List (List Char))) : List Nat :=
  let natural := columns.zipIdx.map fun (column, index) =>
    column.naturalWidth (rows.map fun row => row.getD index [])
  let frame := 3 * columns.length + 1
  let rigid := ((columns.zip natural).filterMap fun (column, width) =>
    if column.elastic then none else some width).foldl (· + ·) 0
  (columns.zip natural).map fun (column, width) =>
    if column.elastic then min width (pageWidth - frame - rigid) else width

def tableLines (title : String) (columns : List Column) (rows : List (List (List Char))) :
    List (List Char) :=
  let widths := columnWidths columns rows
  let headings := columns.map fun column => column.heading.toList
  [title.toList, ruleLine '┏' '━' '┳' '┓' widths] ++ rowLines '┃' columns widths headings ++
    [ruleLine '┡' '━' '╇' '┩' widths] ++ rows.flatMap (rowLines '│' columns widths) ++
    [ruleLine '└' '─' '┴' '┘' widths]

end PrologImage.Console
