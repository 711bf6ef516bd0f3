import PrologImage.Text.Printable

/-!
Contract: texts and lists of texts written as quoted literals, as they appear inside messages.

A literal stands in single quotes, or in double quotes when the text has a single quote and no
double one. The quote in use and the backslash are escaped, three controls have short names, and a
character without a visible form is given by its code in two, four or eight lower-case digits.
-/

namespace PrologImage.Text.Literal

def quoteFor (characters : List Char) : Char :=
  if characters.contains '\'' && !characters.contains '"' then '"' else '\''

/-- A number in lower-case hexadecimal digits, filled with zeros to a width. -/
def hexadecimal (width code : Nat) : List Char :=
  let digits := Nat.toDigits 16 code
  List.replicate (width - digits.length) '0' ++ digits

/-- One character as it stands between quotes. -/
def escape (quote character : Char) : List Char :=
  let code := character.toNat
  if character = quote || character = '\\' then ['\\', character]
  else if character = '\n' then ['\\', 'n']
  else if character = '\r' then ['\\', 'r']
  else if character = '\t' then ['\\', 't']
  else if isPrintable character then [character]
  else if code ≤ 0xFF then '\\' :: 'x' :: hexadecimal 2 code
  else if code ≤ 0xFFFF then '\\' :: 'u' :: hexadecimal 4 code
  else '\\' :: 'U' :: hexadecimal 8 code

/-- A text as a quoted literal. -/
def quoted (text : String) : String :=
  let quote := quoteFor text.toList
  String.ofList (quote :: text.toList.flatMap (escape quote) ++ [quote])

/-- A list of texts: quoted literals between brackets. -/
def quotedList (texts : List String) : String :=
  "[" ++ String.intercalate ", " (texts.map quoted) ++ "]"

end PrologImage.Text.Literal
