import PrologImage.Console.MarkupLibrary
import PrologImage.Console.StyleName

/-!
Contract: which opening tag a closing tag closes.

Owns: the open tags after each part of markup, and the error of a tag that cannot be read or has
nothing to close.

A closing tag closes the last open tag of the same style, or the last open tag when it names none.
A text is refused at its first tag that has nothing to close or whose numbers cannot be read.
-/

namespace PrologImage.Console

/-- The name of a tag: its text up to an equals sign. -/
def tagName (content : List Char) : List Char :=
  content.takeWhile (· ≠ '=')

/-- The open tags without the last one of a style, if there is one. -/
def closeStyle? (form : String) (openTags : List String) : Option (List String) :=
  if openTags.contains form then some (openTags.erase form) else none

/-- The open tags after a tag, the last one first. -/
def afterTag (openTags : List String) (position : Nat) (content : List Char) :
    Except ForeignError (List String) :=
  match tagName content with
  | '/' :: name =>
      if Text.trim name = [] then
        match openTags with
        | _ :: others => .ok others
        | [] =>
            .error (.markup s!"closing tag '[/]' at position {position} has nothing to close")
      else
        match styleForm (Text.trim name) with
        | .error error => .error error
        | .ok form =>
            match closeStyle? form openTags with
            | some others => .ok others
            | none =>
                let tag := String.ofList (bracketed content)
                .error (.markup
                  s!"closing tag '{tag}' at position {position} doesn't match any open tag")
  | name => (styleForm name).map (· :: openTags)

/-- The open tags after parts of markup. -/
def openAfter (openTags : List String) : List MarkupPart → Except ForeignError (List String)
  | [] => .ok openTags
  | .tag position content :: parts =>
      match afterTag openTags position content with
      | .error error => .error error
      | .ok opened => openAfter opened parts
  | .text _ :: parts => openAfter openTags parts
  | .verbatim _ :: parts => openAfter openTags parts

/-- The error with which markup is refused, if it is. -/
def balanceError? (markup : List Char) : Option ForeignError :=
  match openAfter [] (markupParts markup) with
  | .error error => some error
  | .ok _ => none

end PrologImage.Console
