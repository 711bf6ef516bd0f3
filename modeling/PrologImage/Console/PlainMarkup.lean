/-!
Contract: markup removed from a text that is printed without styles.

Owns: the shape of a simple tag and the removal of all tags.

A simple tag is an opening bracket, an optional slash, one or more ASCII lower-case letters or
blanks, and a closing bracket. What is left after a removal is not looked at again.
-/

namespace PrologImage.Console

def isTagNameCharacter (character : Char) : Bool :=
  ('a' ≤ character && character ≤ 'z') || character = ' '

/-- What follows the name and the closing bracket of a simple tag. -/
def afterTagName? (characters : List Char) : Option (List Char) :=
  if characters.takeWhile isTagNameCharacter = [] then none
  else
    match characters.dropWhile isTagNameCharacter with
    | ']' :: rest => some rest
    | _ => none

/-- What follows a simple tag that starts right after an opening bracket. -/
def afterTag? : List Char → Option (List Char)
  | '/' :: rest => afterTagName? rest
  | characters => afterTagName? characters

theorem length_dropWhile_le (keep : Char → Bool) (characters : List Char) :
    (characters.dropWhile keep).length ≤ characters.length := by
  induction characters with
  | nil => simp
  | cons character rest inductionHypothesis =>
      rw [List.dropWhile_cons]
      split
      · simp only [List.length_cons]
        omega
      · exact Nat.le_refl _

theorem length_lt_of_afterTagName? {characters rest : List Char}
    (found : afterTagName? characters = some rest) : rest.length < characters.length := by
  unfold afterTagName? at found
  split at found
  · cases found
  · split at found
    · rename_i tail dropped
      have bound := length_dropWhile_le isTagNameCharacter characters
      rw [dropped] at bound
      cases found
      simp only [List.length_cons] at bound
      omega
    · cases found

theorem length_lt_of_afterTag? {characters rest : List Char}
    (found : afterTag? characters = some rest) : rest.length < characters.length := by
  unfold afterTag? at found
  split at found
  · have := length_lt_of_afterTagName? found
    simp only [List.length_cons]
    omega
  · exact length_lt_of_afterTagName? found

/-- A text without its simple tags. -/
def stripTags : List Char → List Char
  | [] => []
  | character :: rest =>
      if character = '[' then
        match _tagFound : afterTag? rest with
        | some remaining => stripTags remaining
        | none => character :: stripTags rest
      else character :: stripTags rest
termination_by characters => characters.length
decreasing_by
  · have := length_lt_of_afterTag? _tagFound
    simp only [List.length_cons]
    omega
  · simp
  · simp

/-- A text without its simple tags. -/
def stripMarkup (text : String) : String :=
  String.ofList (stripTags text.toList)

end PrologImage.Console
