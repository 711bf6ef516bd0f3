import PrologImage.Console.Markup
import PrologImage.Console.PictureCode
import PrologImage.Fault

/-!
Contract: what a styled console leaves to its library of styles.

Owns: markup whose tags come in pairs, markup with a closing tag that has nothing to close, the
library as a value with the laws that are relied on, and the visible text of markup.

Does not own: a library (`Console.TagBalance` has the one that goes by written rules), and the
layout of a table (`Console.Table`).

The library is no part of the program. Which pictures it knows, and which names and arguments of
tags it refuses, is its own affair: it may refuse an opening tag as well as a closing one. What is
relied on is that it takes tags that come in pairs under words of letters, that it refuses a
closing tag with nothing to close, and that its pictures do not look like markup.
-/

namespace PrologImage.Console

/-! ## Tags in pairs -/

def isLetter (character : Char) : Bool :=
  'a' ≤ character && character ≤ 'z'

/-- The words of a style that is named by letters alone. -/
structure IsStyleName (name : List Char) : Prop where
  starts : name.head?.any isLetter = true
  letters : ∀ character ∈ name, isLetter character = true ∨ character = ' '
  trimmed : Text.trim name = name

/-- Characters that are text by themselves, and tags that come in pairs. -/
inductive IsNested : List Char → Prop
  | nil : IsNested []
  | cons {character : Char} {rest : List Char} :
      character ≠ '[' ∧ character ≠ '\\' → IsNested rest → IsNested (character :: rest)
  | pair {name body after : List Char} :
      IsStyleName name → IsNested body → IsNested after →
      IsNested (bracketed name ++ (body ++ (bracketed ('/' :: name) ++ after)))

/-- A text whose tags come in pairs, with any text without tags at its end. -/
def IsPaired (text : List Char) : Prop :=
  ∃ nested rest, IsNested nested ∧ ¬ Holds IsTagText rest ∧ text = nested ++ rest

/-- A text whose first tag outside of pairs is a closing one. -/
def HasStrayClosing (text : List Char) : Prop :=
  ∃ nested content after, IsNested nested ∧ IsTagText ('/' :: content) ∧
    text = nested ++ (bracketed ('/' :: content) ++ after)

/-! ## The library -/

/-- How marked-up texts are set: one after the other in a line, or each in a cell of a table. -/
inductive Layout where
  | line
  | table
deriving DecidableEq, Repr

/-- A library of styles: the pictures that it knows, and the error with which it refuses marked-up
texts that are to be set together. -/
structure MarkupLibrary where
  pictures : Pictures
  refusal? : Layout → List (List Char) → Option ForeignError
  isPlain_picture : ∀ {code picture : List Char}, pictures code = some picture → IsPlain picture
  refusal?_of_paired : ∀ (layout : Layout) {texts : List (List Char)},
    (∀ text ∈ texts, IsPaired text) → refusal? layout texts = none
  refusal?_of_stray : ∀ (layout : Layout) {texts : List (List Char)} {text : List Char},
    text ∈ texts → HasStrayClosing text → refusal? layout texts ≠ none

/-- What is shown of a part of markup. -/
def MarkupPart.shown (pictures : Pictures) : MarkupPart → List Char
  | .text characters => replaceCodes pictures (unescapeBrackets characters)
  | .verbatim characters => replaceCodes pictures characters
  | .tag _ _ => []

def shownParts (pictures : Pictures) (parts : List MarkupPart) : List Char :=
  parts.flatMap (·.shown pictures)

/-- The visible text of markup that is not refused. -/
def MarkupLibrary.visibleText (library : MarkupLibrary) (markup : List Char) : List Char :=
  shownParts library.pictures (markupParts markup)

/-- What is made of marked-up texts that are set together, unless they are refused. -/
def MarkupLibrary.unlessRefused {α : Type} (library : MarkupLibrary) (layout : Layout)
    (texts : List (List Char)) (made : α) : Except ForeignError α :=
  match library.refusal? layout texts with
  | some error => .error error
  | none => .ok made

end PrologImage.Console
