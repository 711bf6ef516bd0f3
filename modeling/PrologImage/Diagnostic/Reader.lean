import PrologImage.Diagnostic.Basic
import PrologImage.Diagnostic.Block
import PrologImage.Text.Digit

/-!
Contract: the first error in the interpreter's output, read as a diagnostic.

Owns: the location at the start of a header, and the composition of message and raw text.

A located header is a file, a colon, a run of decimal digits, a colon, optionally a second run of
digits with its colon (the column), white space, and the message. The file is the shortest text
that is not empty and is followed in this way.
-/

namespace PrologImage.Diagnostic

/-- A header divided at its location. -/
structure LocatedHeader where
  file : List Char
  lineDigits : List Char
  message : List Char
deriving DecidableEq, Repr

def digitsThenColon? (characters : List Char) : Option (List Char × List Char) :=
  if characters.takeWhile Text.isDigit = [] then none
  else
    match characters.dropWhile Text.isDigit with
    | ':' :: rest => some (characters.takeWhile Text.isDigit, rest)
    | _ => none

/-- A colon, a run of digits and a colon: the digits, and what follows. -/
def lineMark? : List Char → Option (List Char × List Char)
  | ':' :: rest => digitsThenColon? rest
  | _ => none

/-- The message of a located header: without a column, and without the white space before it. -/
def messageAfterMark (rest : List Char) : List Char :=
  match digitsThenColon? rest with
  | some (_, afterColumn) => Text.trimStart afterColumn
  | none => Text.trimStart rest

/-- The header divided at its first location. -/
def locate? : List Char → Option LocatedHeader
  | [] => none
  | character :: rest =>
      match lineMark? rest with
      | some (digits, afterMark) => some ⟨[character], digits, messageAfterMark afterMark⟩
      | none =>
          (locate? rest).map fun header => { header with file := character :: header.file }

/-- Texts joined by single blanks, the empty ones left out. -/
def joinedWords (texts : List (List Char)) : List Char :=
  List.intercalate [' '] (texts.filter (· ≠ []))

/-- Why the output cannot be read: its line number has too many digits. -/
structure OverlongNumeral where
  digits : Nat
deriving DecidableEq, Repr

def Block.raw (block : Block) : List Char :=
  Text.trim (List.intercalate [' '] (block.header :: block.details.filter (· ≠ [])))

def Block.read (block : Block) : Except OverlongNumeral Diagnostic :=
  match locate? block.header with
  | none => .ok (bare (String.ofList block.raw))
  | some header =>
      if header.lineDigits.length > Text.numeralDigitLimit then
        .error ⟨header.lineDigits.length⟩
      else
        let message := joinedWords (header.message :: block.details)
        .ok {
          message := String.ofList (if message = [] then block.raw else message)
          file := some (String.ofList header.file)
          line := some (Text.numeralValue header.lineDigits)
          raw := String.ofList block.raw }

/-- The first error in the interpreter's output, if it reports one. -/
def read (output : String) : Except OverlongNumeral (Option Diagnostic) :=
  match (blocks output).head? with
  | none => .ok none
  | some block => block.read.map some

end PrologImage.Diagnostic
