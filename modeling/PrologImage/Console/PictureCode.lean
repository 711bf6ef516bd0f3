import PrologImage.Text.Blank

/-!
Contract: codes that stand for pictures.

Owns: what is a code, the forms that it can ask for, and a text with pictures in place of its codes.

Does not own: which pictures there are (`Console.MarkupLibrary`).

A code stands between two colons and has no blank in it. Codes are read from the left, each to the
next colon; one without a picture stays as it is, and the colon at its end opens no other code.
-/

namespace PrologImage.Console

/-- The pictures that codes stand for. -/
abbrev Pictures := List Char → Option (List Char)

/-- What a code can end with to ask for a form of its picture, and the mark of that form. -/
def pictureForms : List (List Char × Char) :=
  [("-emoji".toList, '\uFE0F'), ("-text".toList, '\uFE0E')]

/-- What a code stands for, if it stands for anything. -/
def pictureOf? (pictures : Pictures) (code : List Char) : Option (List Char) :=
  match pictureForms.find? (·.1.isSuffixOf code) with
  | some (ending, mark) =>
      (pictures (code.take (code.length - ending.length))).map (· ++ [mark])
  | none => pictures code

/-- The text of a code with its colons. -/
def colonned (code : List Char) : List Char :=
  ':' :: code ++ [':']

/-- A text with pictures in place of its codes. The text of a code that may be open so far is given
apart from what follows it. -/
def replaceFrom (pictures : Pictures) : (opened : Option (List Char)) → List Char → List Char
  | none, [] => []
  | some code, [] => ':' :: code
  | none, character :: rest =>
      if character = ':' then replaceFrom pictures (some []) rest
      else character :: replaceFrom pictures none rest
  | some code, character :: rest =>
      if character = ':' then
        (pictureOf? pictures code).getD (colonned code) ++ replaceFrom pictures none rest
      else if Text.isBlank character then
        ':' :: code ++ character :: replaceFrom pictures none rest
      else replaceFrom pictures (some (code ++ [character])) rest

def replaceCodes (pictures : Pictures) (text : List Char) : List Char :=
  replaceFrom pictures none text

end PrologImage.Console
