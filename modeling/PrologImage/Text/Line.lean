import PrologImage.Text.Split

/-!
Contract: the lines of a text.

Owns: the ten kinds of line boundary, the division of a text into lines, and what its first
character does there.

A boundary ends a line and belongs to none; a carriage return with the line feed after it is one
boundary. A text that ends in a boundary has no empty line after it.
-/

namespace PrologImage.Text

/-- Characters that end a line. The unit separator is not one of them. -/
def isLineBoundary (character : Char) : Bool :=
  let code := character.toNat
  (10 ≤ code && code ≤ 13) || (28 ≤ code && code ≤ 30) || code == 0x85 ||
    code == 0x2028 || code == 0x2029

/-- The lines of a text, without their boundaries. -/
def lines : List Char → List (List Char)
  | [] => []
  | '\r' :: '\n' :: rest => [] :: lines rest
  | character :: rest =>
      if isLineBoundary character then [] :: lines rest
      else extendFirst character (lines rest)

theorem lines_cons_of_free {character : Char} (free : isLineBoundary character = false)
    (rest : List Char) : lines (character :: rest) = extendFirst character (lines rest) := by
  have notReturn : character ≠ '\r' := by
    rintro rfl
    revert free
    decide
  rw [lines]
  · simp [free]
  · intro others isReturn
    exact absurd isReturn notReturn

theorem lines_cons_of_boundary {character : Char} {rest : List Char}
    (boundary : isLineBoundary character = true)
    (single : character = '\r' → rest.head? ≠ some '\n') :
    lines (character :: rest) = [] :: lines rest := by
  rw [lines]
  · simp [boundary]
  · rintro others rfl rfl
    exact single rfl rfl

end PrologImage.Text
