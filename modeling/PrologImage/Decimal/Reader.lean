import PrologImage.Decimal.Double
import PrologImage.Text.Blank
import PrologImage.Text.Digit

/-!
Contract: a number of seconds read from text.

Owns: the accepted forms: blanks around the number, digits of any script, an underscore between
two digits, a fraction, an exponent, and the words for infinity and not-a-number.

A text of ASCII characters may be surrounded by ASCII blanks only; in any other text all blanks
from the first non-ASCII plane on count. Digits of other scripts stand for the ASCII ones.
-/

namespace PrologImage.Decimal

/-- Blanks that may surround a number. -/
def isPadding (character : Char) : Bool :=
  character = ' ' || (9 ≤ character.toNat && character.toNat ≤ 13)

/-- A character of a text with non-ASCII ones: a blank or a digit of another script is replaced by
the ASCII one. Nothing else from outside ASCII can be part of a number. -/
def toAscii? (character : Char) : Option Char :=
  if character.toNat < 127 then some character
  else if Text.isBlank character then some ' '
  else (Text.digitValue? character).map Nat.digitChar

/-- The text with ASCII blanks and digits only, if it can be a number. -/
def asciiForm? (characters : List Char) : Option (List Char) :=
  if characters.all (·.toNat < 128) then some characters else characters.mapM toAscii?

def dropPadding (characters : List Char) : List Char :=
  ((characters.dropWhile isPadding).reverse.dropWhile isPadding).reverse

/-- Takes out the underscores; each has to stand between two digits. -/
def dropUnderscores? (previous : Char) : List Char → Option (List Char)
  | [] => if previous = '_' then none else some []
  | character :: rest =>
      if character = '_' then
        if previous.isDigit then dropUnderscores? character rest else none
      else if previous = '_' && !character.isDigit then none
      else (dropUnderscores? character rest).map (character :: ·)

/-- A sign, and what follows it. -/
def takeSign : List Char → Bool × List Char
  | '-' :: rest => (true, rest)
  | '+' :: rest => (false, rest)
  | characters => (false, characters)

/-- The exponent that ends a number; zero when there is none. -/
def readExponent? : List Char → Option Int
  | [] => some 0
  | character :: rest =>
      if character = 'e' || character = 'E' then
        let (negative, digits) := takeSign rest
        if digits = [] || !digits.all Char.isDigit then none
        else
          let value : Int := Text.numeralValue digits
          some (if negative then -value else value)
      else none

/-- The digits after a point, and what follows them. -/
def takeFraction : List Char → List Char × List Char
  | '.' :: rest => (rest.takeWhile Char.isDigit, rest.dropWhile Char.isDigit)
  | characters => ([], characters)

/-- Exponents beyond this one lead to zero or infinity whatever the digits are. -/
def exponentBound (digits : List Char) : Nat := digits.length + 400

def readDigits? (negative : Bool) (characters : List Char) : Option Double :=
  let whole := characters.takeWhile Char.isDigit
  let (fraction, rest) := takeFraction (characters.dropWhile Char.isDigit)
  let digits := whole ++ fraction
  if digits = [] then none
  else
    (readExponent? rest).map fun exponent =>
      let bound : Int := exponentBound digits
      let total := max (-bound) (min bound (exponent - fraction.length))
      Double.ofScaled negative (Text.numeralValue digits) total

/-- A number after its sign: a word or digits. -/
def readUnsigned? (negative : Bool) (characters : List Char) : Option Double :=
  let word := String.ofList (characters.map Char.toLower)
  if word = "inf" ∨ word = "infinity" then some (.infinite negative)
  else if word = "nan" then some .notANumber
  else readDigits? negative characters

def Double.ofText? (text : String) : Option Double := do
  let ascii ← asciiForm? text.toList
  let bare ← dropUnderscores? ' ' (dropPadding ascii)
  let (negative, unsigned) := takeSign bare
  readUnsigned? negative unsigned

end PrologImage.Decimal
