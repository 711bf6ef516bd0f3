/-!
Contract: one text inside another.

Owns: whether a text occurs as a run of neighbouring characters in another one.
-/

namespace PrologImage.Text

/-- Whether a text occurs in another one. -/
def occursIn (part : List Char) : List Char → Bool
  | [] => part.isEmpty
  | character :: rest => part.isPrefixOf (character :: rest) || occursIn part rest

end PrologImage.Text
