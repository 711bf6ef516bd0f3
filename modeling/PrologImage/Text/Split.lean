/-!
Contract: a text cut at each occurrence of a separator.

Owns: the cut itself. A text without the separator is one field, and neighbouring separators have
an empty field between them, so there is always one field more than there are separators.
-/

namespace PrologImage.Text

/-- Puts a character in front of the first field. -/
def extendFirst (character : Char) : List (List Char) → List (List Char)
  | [] => [[character]]
  | first :: others => (character :: first) :: others

/-- The fields of a text between the occurrences of a separator. -/
def fields (separator : Char) : List Char → List (List Char)
  | [] => [[]]
  | character :: rest =>
      if character = separator then [] :: fields separator rest
      else extendFirst character (fields separator rest)

end PrologImage.Text
