/-!
Contract: names as quoted atoms in a goal.

Owns: writing any text as one quoted atom. A backslash and a single quote inside the quotes are
escaped by a backslash, every other character stands for itself.
-/

namespace PrologImage.Interpreter

/-- One character between the quotes of an atom. -/
def atomCharacter (character : Char) : List Char :=
  if character = '\\' ∨ character = '\'' then ['\\', character] else [character]

def quoteAtom (text : String) : String :=
  String.ofList ('\'' :: text.toList.flatMap atomCharacter ++ ['\''])

end PrologImage.Interpreter
