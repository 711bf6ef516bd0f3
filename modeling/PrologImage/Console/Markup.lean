/-!
Contract: the parts of markup.

Owns: what is a tag, the division of a text into tags and text, and how the division goes on after
a character and after a tag.

Does not own: what is shown of the parts (`Console.MarkupLibrary`), and which opening tag a closing
tag closes (`Console.TagBalance`).

A tag stands in brackets and starts with an ASCII lower-case letter, a number sign, an at sign or
a slash; its text goes to the next closing bracket and has no opening one. Backslashes before a
tag come in pairs that stand for one; a single one left over makes the tag visible.
-/

namespace PrologImage.Console

/-- Characters that the text of a tag can start with. -/
def isTagStart (character : Char) : Bool :=
  ('a' ≤ character && character ≤ 'z') || character = '#' || character = '@' || character = '/'

/-- Characters that the text of a tag goes on with. -/
def isTagBody (character : Char) : Bool :=
  character ≠ ']' && character ≠ '['

/-- The tag that some characters start with: its text, and what follows it. -/
def leadingTag? : List Char → Option (List Char × List Char)
  | '[' :: first :: rest =>
      if isTagStart first then
        match rest.dropWhile isTagBody with
        | ']' :: after => some (first :: rest.takeWhile isTagBody, after)
        | _ => none
      else none
  | _ => none

def leadingBackslashes : List Char → Nat
  | '\\' :: rest => leadingBackslashes rest + 1
  | _ => 0

/-- A part of markup: text as it stands, text that a backslash protects, or a tag with the
position of its bracket. -/
inductive MarkupPart where
  | text (characters : List Char)
  | verbatim (characters : List Char)
  | tag (position : Nat) (content : List Char)
deriving DecidableEq, Repr

def extendText (character : Char) : List MarkupPart → List MarkupPart
  | .text characters :: parts => .text (character :: characters) :: parts
  | parts => .text [character] :: parts

def tagParts (position backslashes : Nat) (content : List Char) : List MarkupPart :=
  let halved := List.replicate (backslashes / 2) '\\'
  [.verbatim halved,
    if backslashes % 2 = 1 then .verbatim ('[' :: content ++ [']'])
    else .tag (position + backslashes) content]

/-- The parts of markup, from a position on. The budget bounds the number of parts. -/
def partsFrom (position : Nat) : (budget : Nat) → List Char → List MarkupPart
  | 0, _ => []
  | _ + 1, [] => []
  | budget + 1, character :: rest =>
      let backslashes := leadingBackslashes (character :: rest)
      match leadingTag? ((character :: rest).drop backslashes) with
      | some (content, after) =>
          tagParts position backslashes content ++
            partsFrom (position + backslashes + content.length + 2) budget after
      | none =>
          let taken := max 1 backslashes
          ((character :: rest).take taken).foldr extendText
            (partsFrom (position + taken) budget ((character :: rest).drop taken))

def markupParts (markup : List Char) : List MarkupPart :=
  partsFrom 0 (markup.length + 1) markup

/-- A text in which a backslash before an opening bracket is taken out. -/
def unescapeBrackets : List Char → List Char
  | '\\' :: '[' :: rest => '[' :: unescapeBrackets rest
  | character :: rest => character :: unescapeBrackets rest
  | [] => []

/-! ## Tags in a text -/

/-- The text between the brackets of a tag. -/
def IsTagText (content : List Char) : Prop :=
  ∃ first rest, content = first :: rest ∧ isTagStart first = true ∧
    ∀ character ∈ rest, isTagBody character = true

/-- A tag with its brackets. -/
def bracketed (content : List Char) : List Char :=
  '[' :: content ++ [']']

/-- A text with certain content between brackets in it. -/
def Holds (IsContent : List Char → Prop) (text : List Char) : Prop :=
  ∃ content, IsContent content ∧ bracketed content <:+: text

/-- Characters that are text by themselves. -/
def IsPlain (characters : List Char) : Prop :=
  ∀ character ∈ characters, character ≠ '[' ∧ character ≠ '\\'

instance (characters : List Char) : Decidable (IsPlain characters) :=
  List.decidableBAll _ characters

theorem Holds.of_suffix {IsContent : List Char → Prop} {text rest : List Char}
    (holds : Holds IsContent rest) (suffix : rest <:+ text) : Holds IsContent text := by
  obtain ⟨content, isContent, inside⟩ := holds
  exact ⟨content, isContent, inside.trans suffix.isInfix⟩

theorem leadingTag?_of_body {first : Char} {rest after : List Char}
    (starts : isTagStart first = true) (body : ∀ character ∈ rest, isTagBody character = true) :
    leadingTag? ('[' :: first :: rest ++ ']' :: after) = some (first :: rest, after) := by
  have dropped : (rest ++ ']' :: after).dropWhile isTagBody = ']' :: after := by
    rw [List.dropWhile_append_of_pos body]
    rfl
  have taken : (rest ++ ']' :: after).takeWhile isTagBody = rest := by
    rw [List.takeWhile_append_of_pos body]
    exact List.append_nil rest
  simp only [List.cons_append, leadingTag?, starts, if_true, dropped, taken]

theorem leadingTag?_eq_some_iff (characters content after : List Char) :
    leadingTag? characters = some (content, after) ↔
      IsTagText content ∧ characters = bracketed content ++ after := by
  constructor
  · intro found
    unfold leadingTag? at found
    split at found
    · next first rest =>
        split at found
        · next starts =>
            split at found
            · next later closed =>
                cases found
                refine ⟨⟨first, _, rfl, starts, List.all_eq_true.mp List.all_takeWhile⟩, ?_⟩
                have whole := List.takeWhile_append_dropWhile (p := isTagBody) (l := rest)
                rw [closed] at whole
                simp only [bracketed, List.cons_append, List.append_assoc, List.nil_append, whole]
            · cases found
        · cases found
    · cases found
  · rintro ⟨⟨first, rest, rfl, starts, body⟩, rfl⟩
    rw [bracketed, List.append_assoc]
    exact leadingTag?_of_body starts body

theorem leadingTag?_of_no_tag {text : List Char} (free : ¬ Holds IsTagText text) :
    leadingTag? text = none := by
  cases found : leadingTag? text with
  | none => rfl
  | some tag =>
      obtain ⟨content, after⟩ := tag
      obtain ⟨isTag, rfl⟩ := (leadingTag?_eq_some_iff _ _ _).mp found
      exact absurd ⟨content, isTag, [], after, rfl⟩ free

theorem leadingTag?_cons_of_ne {character : Char} (notBracket : character ≠ '[')
    (rest : List Char) : leadingTag? (character :: rest) = none := by
  unfold leadingTag?
  split
  · rename_i same
    cases same
    exact absurd rfl notBracket
  · rfl

theorem leadingBackslashes_cons_of_ne {character : Char} (notBackslash : character ≠ '\\')
    (rest : List Char) : leadingBackslashes (character :: rest) = 0 := by
  unfold leadingBackslashes
  split
  · rename_i same
    cases same
    exact absurd rfl notBackslash
  · rfl

/-! ## The division from the left -/

/-- A tag is one part, after the text that its backslashes stand for. -/
theorem partsFrom_tag (position budget : Nat) {content : List Char} (isTag : IsTagText content)
    (after : List Char) :
    partsFrom position (budget + 1) (bracketed content ++ after) =
      .verbatim [] :: .tag position content ::
        partsFrom (position + content.length + 2) budget after := by
  have noBackslashes : leadingBackslashes (bracketed content ++ after) = 0 :=
    leadingBackslashes_cons_of_ne (by decide) _
  have found := (leadingTag?_eq_some_iff (bracketed content ++ after) content after).mpr
    ⟨isTag, rfl⟩
  rw [bracketed, List.cons_append, List.cons_append] at noBackslashes found ⊢
  rw [partsFrom, noBackslashes, List.drop_zero, found]
  rfl

theorem partsFrom_cons (position budget : Nat) {character : Char}
    (plain : character ≠ '[' ∧ character ≠ '\\') (rest : List Char) :
    partsFrom position (budget + 1) (character :: rest) =
      extendText character (partsFrom (position + 1) budget rest) := by
  rw [partsFrom, leadingBackslashes_cons_of_ne plain.2, List.drop_zero,
    leadingTag?_cons_of_ne plain.1]
  rfl

end PrologImage.Console
