import PrologImage.Fault
import PrologImage.Text.Blank
import PrologImage.Text.Digit

/-!
Contract: when two names of a style mean the same style.

Owns: the words that a style is written with, the one form of each style, and the names that have
no form.

A style is a set of attributes, a colour, a background after `on`, and a target after `link`;
`not` turns an attribute off. Its form lists the attributes in a fixed order under their long
names, then the colours and the target. A name that is no style is its own form, in lower case. A
colour of three components, one of which is empty or too long, is an error.
-/

namespace PrologImage.Console

/-- The attributes of a style in their fixed order, with their short names. -/
def attributeNames : List (String × List String) :=
  [("bold", ["b"]), ("dim", ["d"]), ("italic", ["i"]), ("underline", ["u"]), ("blink", []),
    ("blink2", []), ("reverse", ["r"]), ("conceal", ["c"]), ("strike", ["s"]),
    ("underline2", ["uu"]), ("frame", []), ("encircle", []), ("overline", ["o"])]

def attribute? (word : String) : Option String :=
  (attributeNames.find? fun entry => entry.1 = word || entry.2.contains word).map (·.1)

/-- Colours whose names carry no number. -/
def plainColours : List String :=
  ["default", "black", "red", "green", "yellow", "blue", "magenta", "cyan", "white",
    "bright_black", "bright_red", "bright_green", "bright_yellow", "bright_blue",
    "bright_magenta", "bright_cyan", "bright_white", "navy_blue", "dark_blue", "dark_green",
    "dark_cyan", "light_sea_green", "dark_turquoise", "medium_spring_green", "dark_red",
    "blue_violet", "steel_blue", "cornflower_blue", "cadet_blue", "medium_turquoise",
    "dark_magenta", "dark_violet", "purple", "light_slate_grey", "light_slate_gray",
    "medium_purple", "light_slate_blue", "dark_sea_green", "light_green", "medium_violet_red",
    "indian_red", "medium_orchid", "dark_goldenrod", "rosy_brown", "dark_khaki",
    "light_steel_blue", "green_yellow", "orchid", "violet", "tan", "hot_pink", "dark_orange",
    "light_coral", "sandy_brown"]

/-- Colours in numbered shades, with their numbers. -/
def shadedColours : List (String × List Nat) :=
  [("blue", [3, 1]), ("deep_sky_blue", [4, 3, 2, 1]), ("dodger_blue", [3, 2, 1]),
    ("green", [4, 3, 1]), ("spring_green", [4, 3, 2, 1]), ("turquoise", [4, 2]),
    ("cyan", [3, 2, 1]), ("deep_pink", [4, 3, 2, 1]), ("purple", [4, 3]), ("orange", [4, 3, 1]),
    ("medium_purple", [4, 3, 2, 1]), ("slate_blue", [3, 1]), ("royal_blue", [1]),
    ("chartreuse", [4, 3, 2, 1]), ("dark_sea_green", [4, 3, 2, 1]), ("pale_turquoise", [4, 1]),
    ("steel_blue", [3, 1]), ("sky_blue", [3, 2, 1]), ("pale_green", [3, 1]),
    ("sea_green", [3, 2, 1]), ("aquamarine", [3, 1]), ("dark_slate_gray", [3, 2, 1]),
    ("light_pink", [4, 3, 1]), ("plum", [4, 3, 2, 1]), ("yellow", [4, 3, 2, 1]),
    ("wheat", [4, 1]), ("dark_olive_green", [3, 2, 1]), ("light_sky_blue", [3, 1]),
    ("red", [3, 1]), ("magenta", [3, 2, 1]), ("dark_orange", [3]), ("indian_red", [1]),
    ("hot_pink", [3, 2]), ("medium_orchid", [3, 1]), ("light_salmon", [3, 1]), ("gold", [3, 1]),
    ("navajo_white", [3, 1]), ("light_steel_blue", [3, 1]), ("light_cyan", [3, 1]),
    ("pink", [3, 1]), ("light_goldenrod", [3, 2, 1]), ("misty_rose", [3, 1]),
    ("thistle", [3, 1]), ("khaki", [3, 1]), ("light_yellow", [3]), ("honeydew", [2]),
    ("orange_red", [1]), ("salmon", [1]), ("pale_violet_red", [1]), ("orchid", [2, 1]),
    ("cornsilk", [1]),
    ("grey", [0, 3, 7, 11, 15, 19, 23, 27, 30, 35, 37, 39, 42, 46, 50, 53, 54, 58, 62, 63, 66,
      69, 70, 74, 78, 82, 84, 85, 89, 93, 100])]

/-- Whether a word is a numbered shade of a colour; grey has two spellings. -/
def isShade (word : String) : Bool :=
  shadedColours.any fun (name, numbers) => numbers.any fun number =>
    word = name ++ toString number || (name = "grey" && word = "gray" ++ toString number)

/-- A number of at most three digits up to 255. -/
def isByte (digits : List Char) : Bool :=
  digits ≠ [] && digits.length ≤ 3 && digits.all Char.isDigit &&
    digits.foldl (fun value digit => 10 * value + (digit.toNat - 48)) 0 ≤ 255

/-- What stands between an opening text and a closing parenthesis. -/
def argumentOf? (opening word : String) : Option (List Char) :=
  let characters := word.toList
  if opening.toList.isPrefixOf characters && characters.getLast? = some ')' then
    some (characters.drop opening.length).dropLast
  else none

def commaParts : List Char → List (List Char)
  | [] => [[]]
  | character :: rest =>
      if character = ',' then [] :: commaParts rest
      else
        match commaParts rest with
        | [] => [[character]]
        | first :: others => (character :: first) :: others

/-- Whether a word gives a colour by one number. -/
def isNumericColour (word : String) : Bool :=
  match word.toList with
  | '#' :: digits =>
      digits.length = 6 && digits.all fun digit =>
        digit.isDigit || ('a' ≤ digit && digit ≤ 'f')
  | _ => (argumentOf? "color(" word).any isByte

/-- Why a word names no colour: it means nothing, or a number in it cannot be read. -/
inductive NoColour where
  | unknown
  | numeral (error : ForeignError)

/-- Why a component of a colour is no number, if it is none. -/
def componentError? (digits : List Char) : Option ForeignError :=
  if digits = [] then some (.other "ValueError" "invalid literal for int() with base 10: ''")
  else if Text.numeralDigitLimit < digits.length then some (.overlongNumeral digits.length)
  else none

/-- Reads a colour by its components. -/
def readComponents (components : List Char) : Except NoColour Unit :=
  let parts := commaParts components
  if parts.length = 3 && parts.all (·.all Text.isDigit) then
    match parts.findSome? componentError? with
    | some error => .error (.numeral error)
    | none => if parts.all (Text.numeralValue · ≤ 255) then .ok () else .error .unknown
  else .error .unknown

def readColour (word : String) : Except NoColour Unit :=
  match argumentOf? "rgb(" word with
  | some components => readComponents components
  | none =>
      if plainColours.contains word || isShade word || isNumericColour word then .ok ()
      else .error .unknown

/-- A style as its words give it. -/
structure Style where
  attributes : List (String × Bool) := []
  colour : Option String := none
  background : Option String := none
  target : Option String := none
deriving DecidableEq, Repr

def lowered (word : List Char) : String :=
  String.ofList (word.map Char.toLower)

/-- A style with an attribute turned on or off; the last word on an attribute counts. -/
def Style.setAttribute (style : Style) (name : String) (on : Bool) : Style :=
  { style with attributes := (name, on) :: style.attributes }

def Style.readWords (style : Style) : List (List Char) → Except NoColour Style
  | [] => .ok style
  | word :: rest =>
      if lowered word = "on" then
        match rest with
        | colour :: rest => do
            readColour (lowered colour)
            readWords { style with background := some (lowered colour) } rest
        | [] => .error .unknown
      else if lowered word = "not" then
        match rest with
        | name :: rest =>
            match attribute? (String.ofList name) with
            | some long => readWords (style.setAttribute long false) rest
            | none => .error .unknown
        | [] => .error .unknown
      else if lowered word = "link" then
        match rest with
        | target :: rest => readWords { style with target := some (String.ofList target) } rest
        | [] => .error .unknown
      else
        match attribute? (lowered word) with
        | some long => readWords (style.setAttribute long true) rest
        | none => do
            readColour (lowered word)
            readWords { style with colour := some (lowered word) } rest

/-- The words of a style in their fixed order. -/
def Style.form (style : Style) : String :=
  let attributes := attributeNames.filterMap fun (name, _) =>
    (style.attributes.lookup name).map fun on => if on then name else "not " ++ name
  let background := match style.background with
    | some colour => ["on", colour]
    | none => []
  let target := match style.target with
    | some target => ["link", target]
    | none => []
  let words := attributes ++ style.colour.toList ++ background ++ target
  if words = [] then "none" else String.intercalate " " words

def blankSeparated : List Char → List (List Char)
  | [] => []
  | character :: rest =>
      if Text.isBlank character then blankSeparated rest
      else
        match rest with
        | [] => [[character]]
        | next :: _ =>
            if Text.isBlank next then [character] :: blankSeparated rest
            else
              match blankSeparated rest with
              | [] => [[character]]
              | first :: others => (character :: first) :: others

/-- The one form of all names of a style, or the error of a number in it. -/
def styleForm (name : List Char) : Except ForeignError String :=
  let words := blankSeparated name
  if words = ["none".toList] || words = [] then .ok "none"
  else
    match Style.readWords {} words with
    | .ok style => .ok style.form
    | .error .unknown => .ok (lowered (Text.trim name))
    | .error (.numeral error) => .error error

end PrologImage.Console
