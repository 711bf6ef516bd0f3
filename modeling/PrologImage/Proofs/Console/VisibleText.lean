import PrologImage.Proofs.Console.HarmlessMarkup

/-!
Contract: what is visible of a text that is read as markup.

Owns: the division of a text into parts apart from positions, and that text after text in one style
is shown as it would be alone.

Does not own: which texts are shown unchanged (`Proofs.Console.ShownAsIs`), and which are refused
(`Console.MarkupLibrary`).

The division walks from the left. Its positions serve error messages only and its budget never runs
out, so what follows a place in a text is divided as it would be by itself.
-/

namespace PrologImage.Console

theorem leadingBackslashes_spec (characters : List Char) :
    characters = List.replicate (leadingBackslashes characters) '\\' ++
      characters.drop (leadingBackslashes characters) := by
  fun_induction leadingBackslashes characters with
  | case1 rest inductionHypothesis =>
      rw [List.replicate_succ, List.cons_append, List.drop_succ_cons, ← inductionHypothesis]
  | case2 => rfl

/-! ## Parts without positions -/

/-- A part, whatever its position. -/
def MarkupPart.unplaced : MarkupPart → MarkupPart
  | .tag _ content => .tag 0 content
  | part => part

theorem map_unplaced_extendText (character : Char) (parts : List MarkupPart) :
    (extendText character parts).map MarkupPart.unplaced =
      extendText character (parts.map MarkupPart.unplaced) := by
  rcases parts with _ | ⟨part, rest⟩
  · rfl
  · cases part <;> rfl

theorem map_unplaced_foldr (characters : List Char) (parts : List MarkupPart) :
    (characters.foldr extendText parts).map MarkupPart.unplaced =
      characters.foldr extendText (parts.map MarkupPart.unplaced) := by
  induction characters with
  | nil => rfl
  | cons character rest inductionHypothesis =>
      rw [List.foldr_cons, map_unplaced_extendText, inductionHypothesis, List.foldr_cons]

theorem map_unplaced_tagParts (position other backslashes : Nat) (content : List Char) :
    (tagParts position backslashes content).map MarkupPart.unplaced =
      (tagParts other backslashes content).map MarkupPart.unplaced := by
  unfold tagParts
  split <;> rfl

/-- The division depends on neither the position nor a budget that is large enough. -/
theorem map_unplaced_partsFrom {text : List Char} {budget other : Nat}
    (enough : text.length < budget) (alsoEnough : text.length < other) (position place : Nat) :
    (partsFrom position budget text).map MarkupPart.unplaced =
      (partsFrom place other text).map MarkupPart.unplaced := by
  induction budget generalizing text other position place with
  | zero => exact absurd enough (Nat.not_lt_zero _)
  | succ budget inductionHypothesis =>
      obtain ⟨other, rfl⟩ := Nat.exists_eq_succ_of_ne_zero (Nat.ne_zero_of_lt alsoEnough)
      cases text with
      | nil => rfl
      | cons character rest =>
          simp only [List.length_cons] at enough alsoEnough
          rw [Nat.succ_eq_add_one, partsFrom, partsFrom]
          generalize counted : leadingBackslashes (character :: rest) = backslashes
          cases found : leadingTag? ((character :: rest).drop backslashes) with
          | none =>
              have shorter : ((character :: rest).drop (max 1 backslashes)).length ≤
                  rest.length := by
                rw [List.length_drop, List.length_cons]
                omega
              dsimp only
              rw [map_unplaced_foldr, map_unplaced_foldr]
              refine congrArg (List.foldr extendText · _) (inductionHypothesis ?_ ?_ _ _) <;> omega
          | some tag =>
              obtain ⟨content, after⟩ := tag
              obtain ⟨_, whole⟩ := (leadingTag?_eq_some_iff _ _ _).mp found
              have shorter : after.length ≤ rest.length := by
                have lengths := congrArg List.length whole
                simp only [bracketed, List.length_drop, List.length_cons, List.length_append,
                  List.length_nil] at lengths
                omega
              dsimp only
              rw [List.map_append, List.map_append, map_unplaced_tagParts _ place]
              refine congrArg (_ ++ ·) (inductionHypothesis ?_ ?_ _ _) <;> omega

/-- The parts of a text that is read as markup, whatever their positions. -/
def unplacedParts (text : List Char) : List MarkupPart :=
  (markupParts text).map MarkupPart.unplaced

theorem map_unplaced_partsFrom_eq {text : List Char} {budget : Nat}
    (enough : text.length < budget) (position : Nat) :
    (partsFrom position budget text).map MarkupPart.unplaced = unplacedParts text :=
  map_unplaced_partsFrom enough (Nat.lt_succ_self _) position 0

/-- Positions make no difference to the visible text. -/
theorem visibleText_eq (library : MarkupLibrary) (text : List Char) :
    library.visibleText text = shownParts library.pictures (unplacedParts text) := by
  have same : ∀ part : MarkupPart, part.unplaced.shown library.pictures =
      part.shown library.pictures := by
    rintro (_ | _ | _) <;> rfl
  simp only [MarkupLibrary.visibleText, unplacedParts, shownParts, List.flatMap_map, same]

/-! ## The division from the left -/

theorem leadingBackslashes_replicate (count : Nat) {rest : List Char}
    (ended : leadingBackslashes rest = 0) :
    leadingBackslashes (List.replicate count '\\' ++ rest) = count := by
  induction count with
  | zero => exact ended
  | succ count inductionHypothesis =>
      rw [List.replicate_succ, List.cons_append, leadingBackslashes, inductionHypothesis]

theorem unplacedParts_of_tag (backslashes : Nat) {content : List Char} (isTag : IsTagText content)
    (after : List Char) :
    unplacedParts (List.replicate backslashes '\\' ++ (bracketed content ++ after)) =
      (tagParts 0 backslashes content).map MarkupPart.unplaced ++ unplacedParts after := by
  have counted : leadingBackslashes
      (List.replicate backslashes '\\' ++ (bracketed content ++ after)) = backslashes :=
    leadingBackslashes_replicate backslashes (leadingBackslashes_cons_of_ne (by decide) _)
  have dropped : (List.replicate backslashes '\\' ++ (bracketed content ++ after)).drop
      backslashes = bracketed content ++ after := by
    rw [List.drop_left' (List.length_replicate)]
  have found := (leadingTag?_eq_some_iff (bracketed content ++ after) content after).mpr
    ⟨isTag, rfl⟩
  have shorter : after.length <
      (List.replicate backslashes '\\' ++ (bracketed content ++ after)).length := by
    simp only [bracketed, List.length_append, List.length_cons]
    omega
  rw [unplacedParts, markupParts]
  generalize List.replicate backslashes '\\' ++ (bracketed content ++ after) = text at *
  obtain ⟨character, rest, rfl⟩ := List.exists_cons_of_length_pos (Nat.zero_lt_of_lt shorter)
  rw [partsFrom, counted, dropped, found, List.map_append,
    map_unplaced_tagParts _ 0, map_unplaced_partsFrom_eq shorter]

/-- Where no tag follows the backslashes, they are text, or else the first character is. -/
theorem unplacedParts_of_text {character : Char} {rest : List Char}
    (noTag : leadingTag? ((character :: rest).drop (leadingBackslashes (character :: rest))) =
      none) :
    unplacedParts (character :: rest) =
      ((character :: rest).take (max 1 (leadingBackslashes (character :: rest)))).foldr extendText
        (unplacedParts
          ((character :: rest).drop (max 1 (leadingBackslashes (character :: rest))))) := by
  rw [unplacedParts, markupParts, partsFrom, noTag]
  dsimp only
  rw [map_unplaced_foldr, map_unplaced_partsFrom_eq]
  rw [List.length_drop, List.length_cons]
  omega

/-- Where no tag follows the backslashes, the first character is text. -/
theorem unplacedParts_cons {character : Char} {rest : List Char}
    (noTag : leadingTag? ((character :: rest).drop (leadingBackslashes (character :: rest))) =
      none) :
    unplacedParts (character :: rest) = extendText character (unplacedParts rest) := by
  rw [unplacedParts_of_text noTag]
  by_cases backslash : character = '\\'
  · rw [backslash, leadingBackslashes, List.drop_succ_cons] at noTag
    rw [backslash, leadingBackslashes]
    cases counted : leadingBackslashes rest with
    | zero => rfl
    | succ more =>
        -- The backslashes that are left are text of the rest in the same way.
        obtain ⟨next, later, rfl⟩ : ∃ next later, rest = next :: later := by
          cases rest with
          | nil => cases counted
          | cons next later => exact ⟨next, later, rfl⟩
        rw [unplacedParts_of_text noTag, counted]
        rfl
  · rw [leadingBackslashes_cons_of_ne backslash]
    rfl

/-- The division of a text, one character or one tag with its backslashes after the other. -/
inductive Divides : List Char → List MarkupPart → Prop
  | nil : Divides [] []
  | text {character : Char} {rest : List Char} {parts : List MarkupPart} :
      leadingTag? (character :: rest) = none → Divides rest parts →
      Divides (character :: rest) (extendText character parts)
  | tag {backslashes : Nat} {content after : List Char} {parts : List MarkupPart} :
      IsTagText content → Divides after parts →
      Divides (List.replicate backslashes '\\' ++ (bracketed content ++ after))
        ((tagParts 0 backslashes content).map MarkupPart.unplaced ++ parts)

theorem divides (text : List Char) : Divides text (unplacedParts text) := by
  generalize size : text.length = length
  induction length using Nat.strongRecOn generalizing text with
  | ind length inductionHypothesis =>
      subst size
      cases text with
      | nil => exact .nil
      | cons character rest =>
          have spec := leadingBackslashes_spec (character :: rest)
          cases found : leadingTag?
              ((character :: rest).drop (leadingBackslashes (character :: rest))) with
          | none =>
              rw [unplacedParts_cons found]
              refine .text ?_ (inductionHypothesis rest.length (by simp) rest rfl)
              by_cases bracket : character = '['
              · rwa [leadingBackslashes_cons_of_ne (by rw [bracket]; decide)] at found
              · exact leadingTag?_cons_of_ne bracket rest
          | some tag =>
              obtain ⟨content, after⟩ := tag
              obtain ⟨isTag, whole⟩ := (leadingTag?_eq_some_iff _ _ _).mp found
              rw [whole] at spec
              have shorter : after.length < (character :: rest).length := by
                rw [spec]
                simp only [bracketed, List.length_append, List.length_cons]
                omega
              have later := inductionHypothesis after.length shorter after rfl
              rw [spec, unplacedParts_of_tag _ isTag]
              exact .tag isTag later

/-! ## Text after text in one style -/

theorem unescapeBrackets_cons {character : Char} (notBackslash : character ≠ '\\')
    (rest : List Char) :
    unescapeBrackets (character :: rest) = character :: unescapeBrackets rest := by
  rw [unescapeBrackets]
  rintro others rfl
  exact absurd rfl notBackslash

theorem unescapeBrackets_of_plain {characters : List Char} (plain : IsPlain characters) :
    unescapeBrackets characters = characters := by
  induction characters with
  | nil => rfl
  | cons character rest inductionHypothesis =>
      obtain ⟨⟨_, notBackslash⟩, plainRest⟩ := List.forall_mem_cons.mp plain
      rw [unescapeBrackets_cons notBackslash, inductionHypothesis plainRest]

section Shown

variable (pictures : Pictures)

theorem replaceCodes_cons {character : Char} (notColon : character ≠ ':') (rest : List Char) :
    replaceCodes pictures (character :: rest) = character :: replaceCodes pictures rest := by
  rw [replaceCodes, replaceFrom, if_neg notColon, replaceCodes]

theorem shownParts_cons (part : MarkupPart) (parts : List MarkupPart) :
    shownParts pictures (part :: parts) = part.shown pictures ++ shownParts pictures parts :=
  List.flatMap_cons

/-- A character that is text by itself, and no colon, is shown before what follows it. -/
theorem shownParts_extendText {character : Char} (notBackslash : character ≠ '\\')
    (notColon : character ≠ ':') (parts : List MarkupPart) :
    shownParts pictures (extendText character parts) =
      character :: shownParts pictures parts := by
  unfold extendText
  split
  · rw [shownParts_cons, shownParts_cons, MarkupPart.shown, MarkupPart.shown,
      unescapeBrackets_cons notBackslash, replaceCodes_cons pictures notColon, List.cons_append]
  · rw [shownParts_cons, MarkupPart.shown, unescapeBrackets_cons notBackslash,
      replaceCodes_cons pictures notColon]
    rfl

/-- Text that no other text follows is one part. -/
theorem foldr_extendText {parts : List MarkupPart}
    (ended : ∀ characters others, parts ≠ .text characters :: others) (character : Char)
    (rest : List Char) :
    (character :: rest).foldr extendText parts = .text (character :: rest) :: parts := by
  induction rest generalizing character with
  | nil =>
      rw [List.foldr_cons, List.foldr_nil, extendText]
      exact ended
  | cons next later inductionHypothesis =>
      rw [List.foldr_cons, inductionHypothesis]
      rfl

theorem shownParts_foldr {parts : List MarkupPart}
    (ended : ∀ characters others, parts ≠ .text characters :: others) (characters : List Char) :
    shownParts pictures (characters.foldr extendText parts) =
      replaceCodes pictures (unescapeBrackets characters) ++ shownParts pictures parts := by
  cases characters with
  | nil => rfl
  | cons character rest => rw [foldr_extendText ended, shownParts_cons, MarkupPart.shown]

/-- A tag without backslashes is not shown. -/
theorem shownParts_bracketed (content : List Char) (parts : List MarkupPart) :
    shownParts pictures (.verbatim [] :: .tag 0 content :: parts) = shownParts pictures parts :=
  rfl

end Shown

theorem unplacedParts_bracketed {content : List Char} (isTag : IsTagText content)
    (after : List Char) :
    unplacedParts (bracketed content ++ after) =
      .verbatim [] :: .tag 0 content :: unplacedParts after :=
  unplacedParts_of_tag 0 isTag after

theorem unplacedParts_plain_append {characters : List Char} (plain : IsPlain characters)
    (text : List Char) :
    unplacedParts (characters ++ text) = characters.foldr extendText (unplacedParts text) := by
  induction characters with
  | nil => rfl
  | cons character rest inductionHypothesis =>
      obtain ⟨plainCharacter, plainRest⟩ := List.forall_mem_cons.mp plain
      rw [List.cons_append, List.foldr_cons, ← inductionHypothesis plainRest]
      refine unplacedParts_cons ?_
      rw [leadingBackslashes_cons_of_ne plainCharacter.2]
      exact leadingTag?_cons_of_ne plainCharacter.1 _

/-- A blank is shown before what follows it. -/
theorem visibleText_blank_append (library : MarkupLibrary) (text : List Char) :
    library.visibleText ([' '] ++ text) = [' '] ++ library.visibleText text := by
  rw [visibleText_eq, visibleText_eq, unplacedParts_plain_append (by decide), List.foldr_cons,
    List.foldr_nil, shownParts_extendText library.pictures (by decide) (by decide),
    List.singleton_append]

/-- Text after text in one style is shown as it would be alone, after the text in the style. -/
theorem visibleText_inStyle_append (library : MarkupLibrary) {name body : List Char}
    (isName : IsStyleName name) (plain : IsPlain body) (text : List Char) :
    library.visibleText (inStyle name body ++ text) =
      replaceCodes library.pictures body ++ library.visibleText text := by
  have whole : inStyle name body ++ text =
      bracketed name ++ (body ++ (bracketed ('/' :: name) ++ text)) := by
    simp only [inStyle, List.append_assoc]
  rw [visibleText_eq, visibleText_eq, whole, unplacedParts_bracketed isName.isTagText,
    unplacedParts_plain_append plain, unplacedParts_bracketed isName.isTagText_closing,
    shownParts_bracketed, shownParts_foldr _ (by simp), shownParts_bracketed,
    unescapeBrackets_of_plain plain]

end PrologImage.Console
