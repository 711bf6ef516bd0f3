import PrologImage.Text.Blank
import PrologImage.Text.Line

/-!
Contract: the error blocks in the interpreter's output.

Owns: which lines report errors, and which of them belong together.

A line that starts with the error mark reports an error. It continues the block of the line before
it when that line reports an error too and the text after the mark starts with two blanks;
otherwise it opens a block. Lines without the mark belong to no block and end the one before.
-/

namespace PrologImage.Diagnostic

/-- The text that follows a given start, if the characters have that start. -/
def afterStart? : (start characters : List Char) → Option (List Char)
  | [], characters => some characters
  | _ :: _, [] => none
  | expected :: start, character :: rest =>
      if expected = character then afterStart? start rest else none

/-- What marks a line that reports an error. -/
def errorMark : List Char := "ERROR:".toList

/-- The text after the mark of a line that reports an error. -/
def errorBody? (line : List Char) : Option (List Char) :=
  afterStart? errorMark line

/-- Whether the text after a mark is indented as a continuation is. -/
def isIndented : List Char → Bool
  | ' ' :: ' ' :: _ => true
  | _ => false

/-- The text after the mark of a line that can continue a block. -/
def continuation? (line : List Char) : Option (List Char) :=
  match errorBody? line with
  | some body => if isIndented body then some body else none
  | none => none

/-- The trimmed texts of the continuations that a list of lines starts with. -/
def continuations : List (List Char) → List (List Char)
  | [] => []
  | line :: rest =>
      match continuation? line with
      | some body => Text.trim body :: continuations rest
      | none => []

/-- The lines after the continuations that a list of lines starts with. -/
def afterContinuations : List (List Char) → List (List Char)
  | [] => []
  | line :: rest => if (continuation? line).isSome then afterContinuations rest else line :: rest

theorem length_afterContinuations_le (lines : List (List Char)) :
    (afterContinuations lines).length ≤ lines.length := by
  induction lines with
  | nil => simp [afterContinuations]
  | cons line rest inductionHypothesis =>
      unfold afterContinuations
      split
      · simp only [List.length_cons]
        omega
      · exact Nat.le_refl _

/-- One block: the text of the line that opens it, and the texts of its continuations. -/
structure Block where
  header : List Char
  details : List (List Char)
deriving DecidableEq, Repr

def Block.texts (block : Block) : List (List Char) :=
  block.header :: block.details

def blocksOfLines : List (List Char) → List Block
  | [] => []
  | line :: rest =>
      match errorBody? line with
      | none => blocksOfLines rest
      | some body =>
          { header := Text.trim body, details := continuations rest } ::
            blocksOfLines (afterContinuations rest)
termination_by lines => lines.length
decreasing_by
  · simp
  · have := length_afterContinuations_le rest
    simp only [List.length_cons]
    omega

def blocks (output : String) : List Block :=
  blocksOfLines (Text.lines output.toList)

end PrologImage.Diagnostic
