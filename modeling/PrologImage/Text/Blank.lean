/-!
Contract: white space and its removal at the ends of a text.

Owns: the set of blank characters, trimming on characters and on strings.

Does not own: line boundaries (`Text.Line`), which are a different set.
-/

namespace PrologImage.Text

/-- White space: the control blanks, the information separators, the ASCII space, the next-line
control and the Unicode separators. The zero-width space and the byte order mark are not in it. -/
def isBlank (character : Char) : Bool :=
  let code := character.toNat
  (9 ≤ code && code ≤ 13) || (28 ≤ code && code ≤ 32) || code == 0x85 || code == 0xA0 ||
    code == 0x1680 || (0x2000 ≤ code && code ≤ 0x200A) || code == 0x2028 || code == 0x2029 ||
    code == 0x202F || code == 0x205F || code == 0x3000

/-- The characters from the first that is not blank. -/
def trimStart (characters : List Char) : List Char :=
  characters.dropWhile isBlank

/-- The characters up to the last that is not blank. -/
def trimEnd (characters : List Char) : List Char :=
  (characters.reverse.dropWhile isBlank).reverse

/-- The characters between the first and the last that are not blank. -/
def trim (characters : List Char) : List Char :=
  trimEnd (trimStart characters)

end PrologImage.Text
