import Mathlib.Data.List.TakeWhile
import PrologImage.Proofs.Console.VisibleText

/-!
Contract: which texts a console shows as they are.

Owns: that a code without a picture is left alone, that markup shows a text unchanged exactly when
there is neither a tag nor an escape in it and its codes stay as they are, and that a text without
styles is left unchanged exactly when there is no simple tag in it.

Does not own: what a console does to control characters (`Proofs.Console.PrintedLines`).

Opening brackets and backslashes are counted. No part of a text shows more of them than it has,
since pictures have none, and a tag or an escape shows fewer. So a text with one of these is not
shown unchanged, whatever pictures stand in it.
-/

namespace PrologImage.Console

/-! ## Brackets in a text -/

/-- After a character that opens no such content, it is in the rest. -/
theorem Holds.of_cons {IsContent : List Char → Prop} {character : Char} {text : List Char}
    (holds : Holds IsContent (character :: text))
    (opensNone : ∀ content after, IsContent content →
      character :: text ≠ bracketed content ++ after) : Holds IsContent text := by
  obtain ⟨content, isContent, inside⟩ := holds
  rcases List.infix_cons_iff.mp inside with ⟨after, starts⟩ | later
  · exact absurd starts.symm (opensNone content after isContent)
  · exact ⟨content, isContent, later⟩

/-! ## Codes -/

/-- The text of a code that may be open. -/
def openedText : Option (List Char) → List Char
  | none => []
  | some code => ':' :: code

theorem openedText_colon (code rest : List Char) :
    openedText (some code) ++ ':' :: rest = colonned code ++ rest := by
  simp [openedText, colonned]

theorem openedText_character (code : List Char) (character : Char) (rest : List Char) :
    openedText (some code) ++ character :: rest =
      openedText (some (code ++ [character])) ++ rest := by
  simp [openedText]

theorem replaceFrom_eq_self {pictures : Pictures} {opened : Option (List Char)} {text : List Char}
    (bare : ∀ code, colonned code <:+: openedText opened ++ text →
      pictureOf? pictures code = none) :
    replaceFrom pictures opened text = openedText opened ++ text := by
  fun_induction replaceFrom pictures opened text with
  | case1 => rfl
  | case2 code => exact (List.append_nil _).symm
  | case3 rest inductionHypothesis => exact inductionHypothesis bare
  | case4 character rest notColon inductionHypothesis =>
      refine congrArg _ (inductionHypothesis fun code inside => bare code ?_)
      exact inside.trans (List.suffix_cons _ _).isInfix
  | case5 code rest inductionHypothesis =>
      rw [openedText_colon] at bare ⊢
      rw [bare code (List.prefix_append _ _).isInfix, Option.getD_none]
      refine congrArg _ (inductionHypothesis fun other inside => bare other ?_)
      exact inside.trans (List.suffix_append _ _).isInfix
  | case6 code character rest notColon blank inductionHypothesis =>
      have later : rest <:+: openedText (some code) ++ character :: rest :=
        ((List.suffix_cons character rest).trans (List.suffix_append _ _)).isInfix
      rw [inductionHypothesis fun other inside => bare other (inside.trans later)]
      rfl
  | case7 code character rest notColon notBlank inductionHypothesis =>
      rw [openedText_character] at bare ⊢
      exact inductionHypothesis bare

/-- A text without a code that stands for a picture stays as it is. -/
theorem replaceCodes_eq_self {pictures : Pictures} {text : List Char}
    (bare : ∀ code, colonned code <:+: text → pictureOf? pictures code = none) :
    replaceCodes pictures text = text :=
  replaceFrom_eq_self bare

/-! ## Brackets and backslashes counted -/

/-- How many opening brackets and backslashes there are in a text. -/
def marks (text : List Char) : Nat :=
  text.countP fun character => character = '[' || character = '\\'

theorem marks_append (first second : List Char) :
    marks (first ++ second) = marks first + marks second :=
  List.countP_append

theorem marks_cons (character : Char) (rest : List Char) :
    marks (character :: rest) = marks [character] + marks rest :=
  marks_append [character] rest

theorem marks_eq_zero {text : List Char} (plain : IsPlain text) : marks text = 0 := by
  rw [marks, List.countP_eq_zero]
  intro character member
  obtain ⟨notBracket, notBackslash⟩ := plain character member
  simp [notBracket, notBackslash]

theorem isPlain_pictureOf? (library : MarkupLibrary) {code picture : List Char}
    (isPicture : pictureOf? library.pictures code = some picture) : IsPlain picture := by
  unfold pictureOf? at isPicture
  split at isPicture
  · next ending mark found =>
      obtain ⟨bare, known, rfl⟩ := Option.map_eq_some_iff.mp isPicture
      have plainMark : IsPlain [mark] := by
        have isForm := List.mem_of_find?_eq_some found
        simp only [pictureForms, List.mem_cons, Prod.mk.injEq, List.not_mem_nil, or_false] at isForm
        rcases isForm with ⟨_, rfl⟩ | ⟨_, rfl⟩ <;> decide
      intro character member
      rcases List.mem_append.mp member with inPicture | inMark
      · exact library.isPlain_picture known character inPicture
      · exact plainMark character inMark
  · exact library.isPlain_picture isPicture

theorem marks_replaceFrom_le (library : MarkupLibrary) (opened : Option (List Char))
    (text : List Char) :
    marks (replaceFrom library.pictures opened text) ≤ marks (openedText opened ++ text) := by
  fun_induction replaceFrom library.pictures opened text with
  | case1 => exact le_rfl
  | case2 code => exact (congrArg marks (List.append_nil (':' :: code))).ge
  | case3 rest inductionHypothesis => exact inductionHypothesis
  | case4 character rest notColon inductionHypothesis =>
      rw [openedText, List.nil_append] at inductionHypothesis ⊢
      rw [marks_cons, marks_cons character rest]
      exact Nat.add_le_add_left inductionHypothesis _
  | case5 code rest inductionHypothesis =>
      have shown : marks ((pictureOf? library.pictures code).getD (colonned code)) ≤
          marks (colonned code) := by
        cases isPicture : pictureOf? library.pictures code with
        | none => exact le_rfl
        | some picture =>
            rw [Option.getD_some, marks_eq_zero (isPlain_pictureOf? library isPicture)]
            exact Nat.zero_le _
      rw [openedText_colon, marks_append, marks_append]
      exact Nat.add_le_add shown inductionHypothesis
  | case6 code character rest notColon blank inductionHypothesis =>
      rw [openedText, List.nil_append] at inductionHypothesis
      rw [openedText, marks_append, marks_append, marks_cons character (replaceFrom _ _ _),
        marks_cons character rest]
      exact Nat.add_le_add_left (Nat.add_le_add_left inductionHypothesis _) _
  | case7 code character rest notColon notBlank inductionHypothesis =>
      rw [openedText_character]
      exact inductionHypothesis

theorem marks_replaceCodes_le (library : MarkupLibrary) (text : List Char) :
    marks (replaceCodes library.pictures text) ≤ marks text :=
  marks_replaceFrom_le library none text

/-- A text with a backslash right before an opening bracket. -/
def HoldsEscape (text : List Char) : Prop :=
  ['\\', '['] <:+: text

theorem marks_unescapeBrackets (text : List Char) :
    marks (unescapeBrackets text) ≤ marks text ∧
      (HoldsEscape text → marks (unescapeBrackets text) < marks text) := by
  unfold HoldsEscape
  fun_induction unescapeBrackets text with
  | case1 rest inductionHypothesis =>
      have bracket : marks ['['] = 1 := by decide
      have backslash : marks ['\\'] = 1 := by decide
      rw [marks_cons, marks_cons '\\', marks_cons '[' rest]
      exact ⟨by omega, fun _ => by omega⟩
  | case2 character rest notEscape inductionHypothesis =>
      obtain ⟨atMost, less⟩ := inductionHypothesis
      rw [marks_cons, marks_cons character rest]
      refine ⟨by omega, fun holds => ?_⟩
      rcases List.infix_cons_iff.mp holds with ⟨others, starts⟩ | later
      · cases starts
        exact absurd rfl (notEscape others rfl)
      · have fewer := less later
        omega
  | case3 => simp

theorem unescapeBrackets_of_no_escape {text : List Char} (free : ¬ HoldsEscape text) :
    unescapeBrackets text = text := by
  unfold HoldsEscape at free
  fun_induction unescapeBrackets text with
  | case1 rest inductionHypothesis => exact absurd ⟨[], rest, rfl⟩ free
  | case2 character rest notEscape inductionHypothesis =>
      rw [inductionHypothesis fun later => free (List.infix_cons_iff.mpr (.inr later))]
  | case3 => rfl

/-- How many opening brackets and backslashes a part of markup may show. -/
def MarkupPart.marks : MarkupPart → Nat
  | .text characters => Console.marks characters
  | .verbatim characters => Console.marks characters
  | .tag _ _ => 0

def partMarks : List MarkupPart → Nat
  | [] => 0
  | part :: parts => part.marks + partMarks parts

theorem partMarks_append (first second : List MarkupPart) :
    partMarks (first ++ second) = partMarks first + partMarks second := by
  induction first with
  | nil => exact (Nat.zero_add _).symm
  | cons part rest inductionHypothesis =>
      rw [List.cons_append, partMarks, partMarks, inductionHypothesis, Nat.add_assoc]

theorem partMarks_extendText (character : Char) (parts : List MarkupPart) :
    partMarks (extendText character parts) = marks [character] + partMarks parts := by
  unfold extendText
  split
  · rw [partMarks, partMarks, MarkupPart.marks, MarkupPart.marks, marks_cons, Nat.add_assoc]
  · rw [partMarks, MarkupPart.marks]

theorem marks_shownParts_le (library : MarkupLibrary) (parts : List MarkupPart) :
    marks (shownParts library.pictures parts) ≤ partMarks parts := by
  induction parts with
  | nil => exact le_rfl
  | cons part rest inductionHypothesis =>
      have shown : marks (part.shown library.pictures) ≤ part.marks := by
        cases part with
        | text characters =>
            exact (marks_replaceCodes_le library _).trans (marks_unescapeBrackets characters).1
        | verbatim characters => exact marks_replaceCodes_le library characters
        | tag position content => exact le_rfl
      rw [shownParts_cons, marks_append]
      exact Nat.add_le_add shown inductionHypothesis

/-- No more brackets and backslashes can be shown of a text than it has, and fewer when there is a
tag in it. -/
theorem partMarks_of_divides {text : List Char} {parts : List MarkupPart}
    (divided : Divides text parts) :
    partMarks parts ≤ marks text ∧ (Holds IsTagText text → partMarks parts < marks text) := by
  induction divided with
  | nil => exact ⟨le_rfl, fun holds => absurd holds (not_holds_nil _)⟩
  | @text character rest parts noTag divided inductionHypothesis =>
      obtain ⟨atMost, less⟩ := inductionHypothesis
      rw [partMarks_extendText, marks_cons character rest]
      refine ⟨Nat.add_le_add_left atMost _, fun holds => ?_⟩
      refine Nat.add_lt_add_left (less (holds.of_cons fun content after isTag starts => ?_)) _
      rw [(leadingTag?_eq_some_iff _ content after).mpr ⟨isTag, starts⟩] at noTag
      cases noTag
  | @tag backslashes content after parts isTag divided inductionHypothesis =>
      have backslashMarks : ∀ count, marks (List.replicate count '\\') = count := by
        intro count
        simp [marks, List.countP_replicate]
      have opens : 0 < marks (bracketed content) := by
        rw [bracketed, List.cons_append, marks_cons]
        exact Nat.add_pos_left (by decide) _
      have tagMarks : partMarks ((tagParts 0 backslashes content).map MarkupPart.unplaced) <
          backslashes + marks (bracketed content) := by
        unfold tagParts
        split <;> simp only [List.map_cons, List.map_nil, MarkupPart.unplaced, partMarks,
          MarkupPart.marks, backslashMarks]
        · rw [← bracketed]
          omega
        · omega
      have atMost := inductionHypothesis.1
      rw [partMarks_append, marks_append, marks_append, backslashMarks]
      exact ⟨by omega, fun _ => by omega⟩

/-! ## Texts that markup shows as they are -/

/-- Without a tag, a text is one part. -/
theorem divides_of_no_tag {text : List Char} {parts : List MarkupPart}
    (divided : Divides text parts) (free : ¬ Holds IsTagText text) :
    parts = text.foldr extendText [] := by
  induction divided with
  | nil => rfl
  | @text character rest parts noTag divided inductionHypothesis =>
      rw [inductionHypothesis fun holds => free (holds.of_suffix (List.suffix_cons _ _))]
      rfl
  | @tag backslashes content after parts isTag divided inductionHypothesis =>
      exact absurd ⟨content, isTag, List.replicate backslashes '\\', after, by simp⟩ free

theorem visibleText_of_no_tag (library : MarkupLibrary) {text : List Char}
    (free : ¬ Holds IsTagText text) :
    library.visibleText text = replaceCodes library.pictures (unescapeBrackets text) := by
  rw [visibleText_eq, divides_of_no_tag (divides text) free, shownParts_foldr _ (by simp)]
  exact List.append_nil _

/-- Markup shows a text as it is exactly when there is neither a tag nor an escape in it and its
codes stay as they are. -/
theorem visibleText_eq_self_iff (library : MarkupLibrary) (text : List Char) :
    library.visibleText text = text ↔
      ¬ Holds IsTagText text ∧ ¬ HoldsEscape text ∧ replaceCodes library.pictures text = text := by
  constructor
  · intro same
    have free : ¬ Holds IsTagText text := by
      intro holds
      have atMost := marks_shownParts_le library (unplacedParts text)
      rw [← visibleText_eq, same] at atMost
      exact absurd ((partMarks_of_divides (divides text)).2 holds) (Nat.not_lt.mpr atMost)
    rw [visibleText_of_no_tag library free] at same
    have unescaped : ¬ HoldsEscape text := by
      intro holds
      have atMost := marks_replaceCodes_le library (unescapeBrackets text)
      rw [same] at atMost
      exact absurd ((marks_unescapeBrackets text).2 holds) (Nat.not_lt.mpr atMost)
    rw [unescapeBrackets_of_no_escape unescaped] at same
    exact ⟨free, unescaped, same⟩
  · rintro ⟨free, unescaped, same⟩
    rw [visibleText_of_no_tag library free, unescapeBrackets_of_no_escape unescaped, same]

/-! ## Simple tags taken out -/

/-- The text between the brackets of a simple tag. -/
def IsSimpleTagText (content : List Char) : Prop :=
  ∃ name, name ≠ [] ∧ (∀ character ∈ name, isTagNameCharacter character = true) ∧
    (content = name ∨ content = '/' :: name)

theorem afterTagName?_eq_some_iff (characters rest : List Char) :
    afterTagName? characters = some rest ↔
      ∃ name, name ≠ [] ∧ (∀ character ∈ name, isTagNameCharacter character = true) ∧
        characters = name ++ ']' :: rest := by
  constructor
  · intro found
    unfold afterTagName? at found
    split at found
    · cases found
    · next present =>
        split at found
        · next later closed =>
            cases found
            refine ⟨_, present, fun _ => List.mem_takeWhile_imp, ?_⟩
            rw [← closed, List.takeWhile_append_dropWhile]
        · cases found
  · rintro ⟨name, present, named, rfl⟩
    have closing : ¬ isTagNameCharacter ']' := by decide
    rw [afterTagName?, List.takeWhile_append_of_pos named, List.takeWhile_cons_of_neg closing,
      List.append_nil, if_neg present, List.dropWhile_append_of_pos named,
      List.dropWhile_cons_of_neg closing]
    rfl

theorem afterTag?_eq_some_iff (characters rest : List Char) :
    afterTag? characters = some rest ↔
      ∃ content, IsSimpleTagText content ∧ characters = content ++ ']' :: rest := by
  unfold afterTag?
  split
  · next later =>
      rw [afterTagName?_eq_some_iff]
      constructor
      · rintro ⟨name, present, named, rfl⟩
        exact ⟨'/' :: name, ⟨name, present, named, .inr rfl⟩, rfl⟩
      · rintro ⟨_, ⟨name, present, named, rfl | rfl⟩, same⟩
        · obtain ⟨first, others, rfl⟩ := List.exists_cons_of_ne_nil present
          obtain ⟨rfl, _⟩ := List.cons.inj same
          exact absurd (named '/' List.mem_cons_self) (by decide)
        · exact ⟨name, present, named, (List.cons.inj same).2⟩
  · next characters noSlash =>
      rw [afterTagName?_eq_some_iff]
      constructor
      · rintro ⟨name, present, named, rfl⟩
        exact ⟨name, ⟨name, present, named, .inl rfl⟩, rfl⟩
      · rintro ⟨_, ⟨name, present, named, rfl | rfl⟩, same⟩
        · exact ⟨_, present, named, same⟩
        · exact absurd same (noSlash _)

theorem stripTags_append {characters : List Char} (free : '[' ∉ characters) (rest : List Char) :
    stripTags (characters ++ rest) = characters ++ stripTags rest := by
  induction characters with
  | nil => rfl
  | cons character later inductionHypothesis =>
      rw [List.mem_cons, not_or] at free
      rw [List.cons_append, stripTags, if_neg (Ne.symm free.1), inductionHypothesis free.2,
        List.cons_append]

theorem stripTags_bracketed {content : List Char} (isTag : IsSimpleTagText content)
    (rest : List Char) : stripTags (bracketed content ++ rest) = stripTags rest := by
  have found : afterTag? (content ++ ']' :: rest) = some rest :=
    (afterTag?_eq_some_iff _ _).mpr ⟨content, isTag, rfl⟩
  have whole : bracketed content ++ rest = '[' :: (content ++ ']' :: rest) := by
    simp [bracketed]
  rw [whole, stripTags, if_pos rfl]
  split
  · next remaining isRemaining =>
      rw [found] at isRemaining
      cases isRemaining
      rfl
  · next none =>
      rw [found] at none
      cases none

theorem cons_ne_bracketed {character : Char} {text : List Char}
    (noTag : character = '[' → afterTag? text = none) (content after : List Char)
    (isTag : IsSimpleTagText content) : character :: text ≠ bracketed content ++ after := by
  intro starts
  have whole : character = '[' ∧ text = content ++ ']' :: after := by
    simpa [bracketed] using starts
  have found := (afterTag?_eq_some_iff text after).mpr ⟨content, isTag, whole.2⟩
  rw [noTag whole.1] at found
  cases found

/-- No more is left of a text than it has, and less when there is a simple tag in it. -/
theorem length_stripTags (text : List Char) :
    (stripTags text).length ≤ text.length ∧
      (Holds IsSimpleTagText text → (stripTags text).length < text.length) := by
  fun_induction stripTags text with
  | case1 => exact ⟨le_rfl, fun holds => absurd holds (not_holds_nil _)⟩
  | case2 rest remaining found inductionHypothesis =>
      have shorter := length_lt_of_afterTag? found
      simp only [List.length_cons]
      exact ⟨by omega, fun _ => by omega⟩
  | case3 rest notFound inductionHypothesis =>
      obtain ⟨atMost, less⟩ := inductionHypothesis
      simp only [List.length_cons]
      refine ⟨by omega, fun holds => ?_⟩
      have fewer := less (holds.of_cons (cons_ne_bracketed fun _ => notFound))
      omega
  | case4 character rest notBracket inductionHypothesis =>
      obtain ⟨atMost, less⟩ := inductionHypothesis
      simp only [List.length_cons]
      refine ⟨by omega, fun holds => ?_⟩
      have fewer := less (holds.of_cons (cons_ne_bracketed fun bracket =>
        absurd bracket notBracket))
      omega

/-- A text stays as it is exactly when there is no simple tag in it. -/
theorem stripTags_eq_self_iff (text : List Char) :
    stripTags text = text ↔ ¬ Holds IsSimpleTagText text := by
  constructor
  · intro same holds
    have fewer := (length_stripTags text).2 holds
    rw [same] at fewer
    exact absurd fewer (lt_irrefl _)
  · intro free
    fun_induction stripTags text with
    | case1 => rfl
    | case2 rest remaining found inductionHypothesis =>
        obtain ⟨content, isTag, whole⟩ := (afterTag?_eq_some_iff _ _).mp found
        exact absurd ⟨content, isTag, [], remaining, by simp [bracketed, whole]⟩ free
    | case3 rest notFound inductionHypothesis =>
        exact congrArg _ (inductionHypothesis fun holds =>
          free (holds.of_suffix (List.suffix_cons _ _)))
    | case4 character rest notBracket inductionHypothesis =>
        exact congrArg _ (inductionHypothesis fun holds =>
          free (holds.of_suffix (List.suffix_cons _ _)))

end PrologImage.Console
