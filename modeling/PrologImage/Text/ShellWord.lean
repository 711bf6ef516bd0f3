/-!
Contract: a command written as one line that a shell reads back as the same words.

A word of harmless characters is bare; any other stands in single quotes, with each single quote
inside it written as a quoted quote.
-/

namespace PrologImage.Text.ShellWord

/-- Characters that a shell takes literally everywhere in a word: ASCII only. -/
def isHarmless (character : Char) : Bool :=
  character.isAlphanum || "_@%+=:,./-".toList.contains character

def quoted (word : String) : String :=
  if word.toList.isEmpty then "''"
  else if word.toList.all isHarmless then word
  else
    "'" ++ String.ofList (word.toList.flatMap fun character =>
      if character = '\'' then "'\"'\"'".toList else [character]) ++ "'"

/-- The words of a command, separated by single spaces. -/
def joined (words : List String) : String :=
  String.intercalate " " (words.map quoted)

end PrologImage.Text.ShellWord
