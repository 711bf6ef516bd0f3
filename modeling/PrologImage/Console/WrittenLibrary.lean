import PrologImage.Console.TagBalance

/-!
Contract: a library of styles that goes by the written rules on tags.

Owns: that styles named by letters have a form, that tags in pairs leave the open tags as they are,
that a closing tag without an opening one is an error, and the library itself.

Texts that are set together are refused at the first of them that is. Arguments of tags count for
nothing here: a library that looks into them may refuse more.
-/

namespace PrologImage.Console

/-! ## Parts that leave the open tags alone -/

theorem openAfter_extendText (openTags : List String) (character : Char)
    (parts : List MarkupPart) :
    openAfter openTags (extendText character parts) = openAfter openTags parts := by
  unfold extendText
  split <;> rfl

theorem openAfter_foldr (openTags : List String) (characters : List Char)
    (parts : List MarkupPart) :
    openAfter openTags (characters.foldr extendText parts) = openAfter openTags parts := by
  induction characters with
  | nil => rfl
  | cons character rest inductionHypothesis =>
      rw [List.foldr_cons, openAfter_extendText, inductionHypothesis]

theorem openAfter_of_no_tag (openTags : List String) (position budget : Nat) {text : List Char}
    (free : ¬ Holds IsTagText text) :
    openAfter openTags (partsFrom position budget text) = .ok openTags := by
  induction budget generalizing position text with
  | zero => rfl
  | succ budget inductionHypothesis =>
      cases text with
      | nil => rfl
      | cons character rest =>
          have freeDrop : ∀ count, ¬ Holds IsTagText ((character :: rest).drop count) :=
            fun count holds => free (holds.of_suffix (List.drop_suffix _ _))
          rw [partsFrom, leadingTag?_of_no_tag (freeDrop _)]
          dsimp only
          rw [openAfter_foldr, inductionHypothesis _ (freeDrop _)]

/-! ## Styles named by letters -/

theorem toLower_of_isLetter {character : Char} (letter : isLetter character = true) :
    character.toLower = character := by
  unfold isLetter at letter
  rw [Bool.and_eq_true, decide_eq_true_eq, decide_eq_true_eq, Char.le_def, Char.le_def] at letter
  have above : ¬ character.val ≤ 'Z'.val := fun atMost =>
    absurd (UInt32.le_trans letter.1 atMost) (by decide)
  unfold Char.toLower
  rw [dif_neg fun upper => above upper.2]

/-- A word of letters alone. -/
def IsLettered (word : List Char) : Prop :=
  ∀ character ∈ word, isLetter character = true

theorem lowered_of_letters {word : List Char} (lettered : IsLettered word) :
    lowered word = String.ofList word := by
  have same : ∀ character ∈ word, character.toLower = character :=
    fun character member => toLower_of_isLetter (lettered character member)
  rw [lowered, List.map_congr_left same, List.map_id']

/-- A word of letters has no numbers, so none of them is misread. -/
theorem readColour_of_letters {word : List Char} (lettered : IsLettered word)
    (error : ForeignError) : readColour (lowered word) ≠ .error (.numeral error) := by
  have noArgument : argumentOf? "rgb(" (lowered word) = none := by
    unfold argumentOf?
    rw [lowered_of_letters lettered, String.toList_ofList]
    dsimp only
    split
    · next opened =>
        have isPrefix := (Bool.and_eq_true _ _ ▸ opened).1
        rw [List.isPrefixOf_iff_prefix] at isPrefix
        have inside : '(' ∈ word := isPrefix.subset (by decide)
        exact absurd (lettered _ inside) (by decide)
    · rfl
  rw [readColour, noArgument]
  dsimp only
  split <;> simp

theorem readWords_of_letters (style : Style) {words : List (List Char)}
    (lettered : ∀ word ∈ words, IsLettered word) (error : ForeignError) :
    style.readWords words ≠ .error (.numeral error) := by
  -- A word that is a colour is read before the words after it.
  have read : ∀ (word : List Char) (next : Except NoColour Style), IsLettered word →
      next ≠ .error (.numeral error) →
      (readColour (lowered word) >>= fun _ => next) ≠ .error (.numeral error) := by
    intro word next letteredWord later
    have notNumeral := readColour_of_letters letteredWord error
    cases colour : readColour (lowered word) with
    | error cause =>
        rintro ⟨⟩
        exact notNumeral colour
    | ok _ => exact later
  fun_induction Style.readWords style words with
  | case1 | case3 | case5 | case6 | case8 => simp
  | case2 style word _ colour rest inductionHypothesis =>
      obtain ⟨_, letteredColour, letteredRest⟩ := by simpa using lettered
      exact read _ _ letteredColour (inductionHypothesis letteredRest)
  | case4 style word _ _ name rest long _ inductionHypothesis =>
      obtain ⟨_, _, letteredRest⟩ := by simpa using lettered
      exact inductionHypothesis letteredRest
  | case7 style word _ _ _ target rest inductionHypothesis =>
      obtain ⟨_, _, letteredRest⟩ := by simpa using lettered
      exact inductionHypothesis letteredRest
  | case9 style word rest _ _ _ long _ inductionHypothesis =>
      exact inductionHypothesis (List.forall_mem_cons.mp lettered).2
  | case10 style word rest _ _ _ _ inductionHypothesis =>
      obtain ⟨letteredWord, letteredRest⟩ := List.forall_mem_cons.mp lettered
      exact read _ _ letteredWord (inductionHypothesis letteredRest)

/-- What stands in a word stands in the name, and is not blank. -/
theorem mem_of_mem_blankSeparated {name word : List Char} {character : Char}
    (isWord : word ∈ blankSeparated name) (member : character ∈ word) :
    character ∈ name ∧ Text.isBlank character = false := by
  fun_induction blankSeparated name generalizing word with
  | case1 => cases isWord
  | case2 first rest blank inductionHypothesis =>
      obtain ⟨inRest, notBlank⟩ := inductionHypothesis isWord member
      exact ⟨List.mem_cons_of_mem _ inRest, notBlank⟩
  | case3 first notBlank =>
      obtain rfl := List.mem_singleton.mp isWord
      obtain rfl := List.mem_singleton.mp member
      exact ⟨List.mem_cons_self, Bool.eq_false_iff.mpr notBlank⟩
  | case4 first notBlank next rest _ inductionHypothesis =>
      rcases List.mem_cons.mp isWord with rfl | later
      · obtain rfl := List.mem_singleton.mp member
        exact ⟨List.mem_cons_self, Bool.eq_false_iff.mpr notBlank⟩
      · obtain ⟨inRest, isVisible⟩ := inductionHypothesis later member
        exact ⟨List.mem_cons_of_mem _ inRest, isVisible⟩
  | case5 first notBlank next rest _ alone inductionHypothesis =>
      rw [alone] at isWord
      obtain rfl := List.mem_singleton.mp isWord
      obtain rfl := List.mem_singleton.mp member
      exact ⟨List.mem_cons_self, Bool.eq_false_iff.mpr notBlank⟩
  | case6 first notBlank next rest _ word others joined inductionHypothesis =>
      rw [joined] at isWord inductionHypothesis
      rcases List.mem_cons.mp isWord with rfl | later
      · rcases List.mem_cons.mp member with rfl | inWord
        · exact ⟨List.mem_cons_self, Bool.eq_false_iff.mpr notBlank⟩
        · obtain ⟨inRest, isVisible⟩ := inductionHypothesis List.mem_cons_self inWord
          exact ⟨List.mem_cons_of_mem _ inRest, isVisible⟩
      · obtain ⟨inRest, isVisible⟩ := inductionHypothesis (List.mem_cons_of_mem _ later) member
        exact ⟨List.mem_cons_of_mem _ inRest, isVisible⟩

theorem isTagBody_of_letters {name : List Char}
    (letters : ∀ character ∈ name, isLetter character = true ∨ character = ' ') :
    ∀ character ∈ name, isTagBody character = true := by
  intro character member
  rcases letters character member with letter | rfl
  · unfold isTagBody
    rw [Bool.and_eq_true, decide_eq_true_eq, decide_eq_true_eq]
    constructor
    · rintro rfl
      exact absurd letter (by decide)
    · rintro rfl
      exact absurd letter (by decide)
  · decide

namespace IsStyleName

variable {name : List Char}

/-- A style that is named by letters has a form. -/
theorem exists_styleForm (isName : IsStyleName name) : ∃ form, styleForm name = .ok form := by
  have lettered : ∀ word ∈ blankSeparated name, IsLettered word := by
    intro word isWord character member
    obtain ⟨inName, notBlank⟩ := mem_of_mem_blankSeparated isWord member
    rcases isName.letters character inName with letter | rfl
    · exact letter
    · exact absurd notBlank (by decide)
  unfold styleForm
  dsimp only
  split
  · exact ⟨_, rfl⟩
  · cases read : Style.readWords {} (blankSeparated name) with
    | ok style => exact ⟨_, rfl⟩
    | error cause =>
        cases cause with
        | unknown => exact ⟨_, rfl⟩
        | numeral error => exact absurd read (readWords_of_letters {} lettered error)

/-- There is no equals sign among letters, so the whole text of a tag is its name. -/
theorem tagName_append (isName : IsStyleName name) {before : List Char}
    (free : '=' ∉ before) : tagName (before ++ name) = before ++ name := by
  have bare : ∀ character ∈ before ++ name, decide (character ≠ '=') = true := by
    intro character member
    rw [decide_eq_true_eq]
    rcases List.mem_append.mp member with inBefore | inName
    · rintro rfl
      exact free inBefore
    · rintro rfl
      rcases isName.letters _ inName with letter | blank
      · exact absurd letter (by decide)
      · cases blank
  have whole : (before ++ name ++ []).takeWhile (· ≠ '=') = before ++ name ++ [] :=
    List.takeWhile_append_of_pos bare
  rwa [List.append_nil] at whole

theorem exists_cons (isName : IsStyleName name) :
    ∃ first rest, name = first :: rest ∧ isLetter first = true := by
  cases name with
  | nil => exact absurd isName.starts (by decide)
  | cons first rest => exact ⟨first, rest, rfl, isName.starts⟩

theorem isTagText (isName : IsStyleName name) : IsTagText name := by
  obtain ⟨first, rest, rfl, letter⟩ := isName.exists_cons
  obtain ⟨_, body⟩ := List.forall_mem_cons.mp (isTagBody_of_letters isName.letters)
  refine ⟨first, rest, rfl, ?_, body⟩
  unfold isLetter at letter
  simp [isTagStart, letter]

theorem isTagText_closing (isName : IsStyleName name) : IsTagText ('/' :: name) :=
  ⟨'/', name, rfl, by decide, isTagBody_of_letters isName.letters⟩

theorem afterTag_open (isName : IsStyleName name) {form : String}
    (isForm : styleForm name = .ok form) (openTags : List String) (position : Nat) :
    afterTag openTags position name = .ok (form :: openTags) := by
  have whole : tagName ([] ++ name) = [] ++ name := isName.tagName_append (by simp)
  rw [List.nil_append] at whole
  unfold afterTag
  rw [whole]
  split
  · obtain ⟨_, _, same, letter⟩ := isName.exists_cons
    cases same
    exact absurd letter (by decide)
  · rw [isForm]
    rfl

theorem afterTag_close (isName : IsStyleName name) {form : String}
    (isForm : styleForm name = .ok form) (openTags : List String) (position : Nat) :
    afterTag (form :: openTags) position ('/' :: name) = .ok openTags := by
  have whole : tagName (['/'] ++ name) = ['/'] ++ name := isName.tagName_append (by decide)
  rw [List.singleton_append] at whole
  obtain ⟨_, _, rfl, _⟩ := isName.exists_cons
  unfold afterTag
  rw [whole]
  simp [isName.trimmed, isForm, closeStyle?]

end IsStyleName

/-! ## Tags in pairs -/

/-- After tags that come in pairs, the same tags are open as before. -/
theorem exists_openAfter_of_nested {nested : List Char} (isNested : IsNested nested)
    (openTags : List String) (position : Nat) {budget : Nat} {rest : List Char}
    (enough : (nested ++ rest).length < budget) :
    ∃ place left, rest.length < left ∧
      openAfter openTags (partsFrom position budget (nested ++ rest)) =
        openAfter openTags (partsFrom place left rest) := by
  induction isNested generalizing openTags position budget rest with
  | nil => exact ⟨position, budget, enough, rfl⟩
  | @cons character after plain _ inductionHypothesis =>
      obtain ⟨left, rfl⟩ := Nat.exists_eq_add_one_of_ne_zero (Nat.ne_zero_of_lt enough)
      rw [List.cons_append, partsFrom_cons _ _ plain, openAfter_extendText]
      exact inductionHypothesis openTags (position + 1) (by simpa using enough)
  | @pair name body after isName _ _ bodyHypothesis afterHypothesis =>
      obtain ⟨form, isForm⟩ := isName.exists_styleForm
      obtain ⟨left, rfl⟩ := Nat.exists_eq_add_one_of_ne_zero (Nat.ne_zero_of_lt enough)
      have whole : bracketed name ++ (body ++ (bracketed ('/' :: name) ++ after)) ++ rest =
          bracketed name ++ (body ++ (bracketed ('/' :: name) ++ (after ++ rest))) := by
        simp only [List.append_assoc]
      rw [whole] at enough ⊢
      rw [partsFrom_tag _ _ isName.isTagText, openAfter, openAfter,
        isName.afterTag_open isForm]
      dsimp only
      have enoughBody : (body ++ (bracketed ('/' :: name) ++ (after ++ rest))).length < left := by
        simp only [bracketed, List.length_append, List.length_cons, List.length_nil] at enough ⊢
        omega
      obtain ⟨place, spare, enoughSpare, inBody⟩ :=
        bodyHypothesis (form :: openTags) (position + name.length + 2) enoughBody
      obtain ⟨spare, rfl⟩ := Nat.exists_eq_add_one_of_ne_zero (Nat.ne_zero_of_lt enoughSpare)
      rw [inBody, partsFrom_tag _ _ isName.isTagText_closing, openAfter, openAfter,
        isName.afterTag_close isForm]
      dsimp only
      refine afterHypothesis openTags _ ?_
      simp only [bracketed, List.length_append, List.length_cons, List.length_nil] at enoughSpare ⊢
      omega

theorem balanceError?_of_paired {text : List Char} (paired : IsPaired text) :
    balanceError? text = none := by
  obtain ⟨nested, rest, isNested, free, rfl⟩ := paired
  obtain ⟨place, left, _, same⟩ :=
    exists_openAfter_of_nested isNested [] 0 (Nat.lt_succ_self (nested ++ rest).length)
  rw [balanceError?, markupParts, same, openAfter_of_no_tag _ _ _ free]

/-- With no open tags, a closing tag is an error. -/
theorem exists_afterTag_error (position : Nat) (content : List Char) :
    ∃ error, afterTag [] position ('/' :: content) = .error error := by
  have slash : tagName ('/' :: content) = '/' :: tagName content := rfl
  unfold afterTag
  rw [slash]
  split
  · split
    · exact ⟨_, rfl⟩
    · next name _ _ =>
        cases styleForm (Text.trim name) with
        | error error => exact ⟨error, rfl⟩
        | ok form => exact ⟨_, rfl⟩
  · next notSlash => exact absurd rfl (notSlash _)

theorem balanceError?_of_stray {text : List Char} (stray : HasStrayClosing text) :
    balanceError? text ≠ none := by
  obtain ⟨nested, content, after, isNested, isTag, rfl⟩ := stray
  obtain ⟨place, left, enough, same⟩ := exists_openAfter_of_nested isNested [] 0
    (Nat.lt_succ_self (nested ++ (bracketed ('/' :: content) ++ after)).length)
  obtain ⟨left, rfl⟩ := Nat.exists_eq_add_one_of_ne_zero (Nat.ne_zero_of_lt enough)
  obtain ⟨error, stops⟩ := exists_afterTag_error place content
  rw [partsFrom_tag _ _ isTag, openAfter, openAfter, stops] at same
  rw [balanceError?, markupParts, same]
  simp

/-! ## The library that goes by the written rules -/

/-- The library that refuses the texts in which a tag has nothing to close or cannot be read. Its
pictures are those of a list that do not look like markup. -/
def MarkupLibrary.written (pictures : List (String × String)) : MarkupLibrary where
  pictures := fun code =>
    ((pictures.lookup (lowered code)).map String.toList).filter (IsPlain ·)
  refusal? := fun _ texts => texts.findSome? balanceError?
  isPlain_picture := by
    intro code picture isPicture
    exact of_decide_eq_true (Option.filter_eq_some_iff.mp isPicture).2
  refusal?_of_paired := by
    intro _ texts paired
    rw [List.findSome?_eq_none_iff]
    exact fun text member => balanceError?_of_paired (paired text member)
  refusal?_of_stray := by
    intro _ texts text member stray
    rw [ne_eq, List.findSome?_eq_none_iff]
    exact fun accepted => balanceError?_of_stray stray (accepted text member)

end PrologImage.Console
