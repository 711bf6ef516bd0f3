import PrologImage.Proofs.Console.TagPlaces

/-!
Contract: which characters a text loses with its simple tags.

Owns: that a text loses exactly the characters of its tags, that a character outside of them stays
where it is, and which tags a text has after its tags are taken out.

Does not own: the removal itself (`Console.PlainMarkup`), where tags stand
(`Proofs.Console.TagPlaces`), and which texts stay unchanged (`Proofs.Console.ShownAsIs`).

The removal goes on from one place that no tag goes across to the next, so what it leaves is what is
outside the tags. Brackets around a text with a tag in it are no tag. They become one when all other
brackets between them were those of tags, and what is left is not looked at again.
-/

namespace PrologImage.Console

/-! ## Where a text starts -/

/-- No simple tag starts where the text does. -/
def OpensNoTag (text : List Char) : Prop :=
  ∀ tag : SimpleTag text, tag.start ≠ 0

theorem opensNoTag_cons_iff {character : Char} {rest : List Char} :
    OpensNoTag (character :: rest) ↔ (character = '[' → afterTag? rest = none) := by
  constructor
  · rintro opensNone rfl
    cases found : afterTag? rest with
    | none => rfl
    | some remaining =>
        obtain ⟨content, isContent, rfl⟩ := (afterTag?_eq_some_iff _ _).mp found
        have stands : bracketed content <+: '[' :: (content ++ ']' :: remaining) :=
          ⟨remaining, by simp [bracketed]⟩
        exact absurd rfl (opensNone ⟨0, content, isContent, stands⟩)
  · intro noTag tag atStart
    obtain ⟨after, whole⟩ := tag.stands
    rw [atStart, List.drop_zero] at whole
    exact cons_ne_bracketed noTag tag.content after tag.isContent whole.symm

theorem opensNoTag_of_ne {character : Char} (notOpening : character ≠ '[') (rest : List Char) :
    OpensNoTag (character :: rest) :=
  opensNoTag_cons_iff.mpr fun opening => absurd opening notOpening

/-- A character that opens no tag is outside the tags, before what is outside of them in the
rest. -/
theorem outsideSimpleTags_cons {character : Char} {rest : List Char}
    (opensNone : OpensNoTag (character :: rest)) :
    outsideSimpleTags (character :: rest) = character :: outsideSimpleTags rest := by
  have apart : MeetApart [character] rest := fun tag atStart =>
    absurd (Nat.lt_one_iff.mp atStart) (opensNone tag)
  have alone : outsideSimpleTags [character] = [character] := by
    have outside : ¬ InSimpleTag [character] 0 := by
      rintro ⟨tag, _⟩
      have fits := tag.stop_le_length
      rw [tag.stop_eq, List.length_singleton] at fits
      omega
    simp [outsideSimpleTags, outside]
  have parts := outsideSimpleTags_append apart
  rwa [alone] at parts

/-- Of a leading tag nothing is outside the tags. -/
theorem outsideSimpleTags_bracketed {content : List Char} (isContent : IsSimpleTagText content)
    (after : List Char) :
    outsideSimpleTags (bracketed content ++ after) = outsideSimpleTags after := by
  let leading : SimpleTag (bracketed content) := ⟨0, content, isContent, List.prefix_rfl⟩
  have apart : MeetApart (bracketed content) after := by
    intro tag before
    have isLeading : tag = leading.appendRight after :=
      SimpleTag.eq_of_covers tag.covers_start
        ⟨Nat.zero_le _, before.trans_eq (Nat.zero_add _).symm⟩
    rw [isLeading]
    exact leading.stop_le_length
  have nothing : outsideSimpleTags (bracketed content) = [] := by
    rw [outsideSimpleTags, List.map_eq_nil_iff, List.filter_eq_nil_iff]
    intro entry isEntry
    have covered : InSimpleTag (bracketed content) entry.2 :=
      ⟨leading, Nat.zero_le _, (List.snd_lt_of_mem_zipIdx isEntry).trans_eq (Nat.add_comm _ _)⟩
    simp [covered]
  rw [outsideSimpleTags_append apart, nothing, List.nil_append]

/-! ## Taking the tags out -/

/-- A character that opens no tag is left. -/
theorem stripTags_cons {character : Char} {rest : List Char}
    (opensNone : OpensNoTag (character :: rest)) :
    stripTags (character :: rest) = character :: stripTags rest := by
  rw [stripTags]
  split
  · next bracket =>
      split
      · next remaining found =>
          rw [opensNoTag_cons_iff.mp opensNone bracket] at found
          cases found
      · rfl
  · rfl

/-- A text is empty, or a tag before a text, or a character that opens no tag before a text. -/
@[elab_as_elim]
theorem tagInduction {Motive : List Char → Prop} (nil : Motive [])
    (tag : ∀ content rest, IsSimpleTagText content → Motive rest →
      Motive (bracketed content ++ rest))
    (kept : ∀ character rest, OpensNoTag (character :: rest) → Motive rest →
      Motive (character :: rest)) (text : List Char) : Motive text := by
  fun_induction stripTags text with
  | case1 => exact nil
  | case2 rest remaining found inductionHypothesis =>
      obtain ⟨content, isContent, rfl⟩ := (afterTag?_eq_some_iff _ _).mp found
      have whole := tag content remaining isContent inductionHypothesis
      rwa [bracketed, List.append_assoc] at whole
  | case3 rest notFound inductionHypothesis =>
      exact kept _ rest (opensNoTag_cons_iff.mpr fun _ => notFound) inductionHypothesis
  | case4 first rest notOpening inductionHypothesis =>
      exact kept first rest (opensNoTag_of_ne notOpening rest) inductionHypothesis

/-- What is left of a text without its tags is what is outside of them. -/
theorem stripTags_eq_outsideSimpleTags (text : List Char) :
    stripTags text = outsideSimpleTags text := by
  induction text using tagInduction with
  | nil => rw [stripTags]; rfl
  | tag content rest isContent inductionHypothesis =>
      rw [stripTags_bracketed isContent, outsideSimpleTags_bracketed isContent,
        inductionHypothesis]
  | kept character rest opensNone inductionHypothesis =>
      rw [stripTags_cons opensNone, outsideSimpleTags_cons opensNone, inductionHypothesis]

theorem stripTags_append_of_meetApart {front back : List Char} (apart : MeetApart front back) :
    stripTags (front ++ back) = stripTags front ++ stripTags back := by
  simp only [stripTags_eq_outsideSimpleTags, outsideSimpleTags_append apart]

/-- A character outside the tags stays, between what is left of the text before and after it. -/
theorem stripTags_at_outside {before after : List Char} {character : Char}
    (outside : ¬ InSimpleTag (before ++ character :: after) before.length) :
    stripTags (before ++ character :: after) =
      stripTags before ++ character :: stripTags after := by
  have apart : MeetApart before (character :: after) := by
    intro tag starts
    by_contra across
    exact outside ⟨tag, starts.le, Nat.not_le.mp across⟩
  have opensNone : OpensNoTag (character :: after) := by
    intro tag atStart
    have covers := (tag.covers_appendLeft before tag.start).mpr tag.covers_start
    rw [atStart] at covers
    exact outside ⟨tag.appendLeft before, covers⟩
  rw [stripTags_append_of_meetApart apart, stripTags_cons opensNone]

/-! ## Tags that come into being -/

theorem meetApart_of_opening (front rest : List Char) : MeetApart front ('[' :: rest) := by
  intro tag starts
  by_contra across
  have atStart : front.length = tag.start :=
    tag.eq_start_of_opening ⟨starts.le, Nat.not_le.mp across⟩ (by simp)
  omega

/-- A text that keeps no opening bracket leaves no tag open. -/
theorem meetApart_of_no_opening {front : List Char} (keepsNone : '[' ∉ stripTags front)
    (back : List Char) : MeetApart front back := by
  intro tag starts
  have stands : front[tag.start]? = some '[' := by
    rw [← List.getElem?_append_left starts, tag.opening]
  by_cases inFront : InSimpleTag front tag.start
  · exact tag.stop_le_of_inSimpleTag tag.covers_start inFront
  · rw [stripTags_eq_outsideSimpleTags] at keepsNone
    exact absurd (mem_outsideSimpleTags stands inFront) keepsNone

/-- A text that keeps no closing bracket closes no tag from before it. -/
theorem meetApart_of_no_closing (front : List Char) {back : List Char}
    (keepsNone : ']' ∉ stripTags back) : MeetApart front back := by
  intro tag starts
  by_contra across
  obtain ⟨offset, last⟩ : ∃ offset, tag.stop - 1 = front.length + offset :=
    Nat.exists_eq_add_of_le (by omega)
  have stands : back[offset]? = some ']' := by
    rw [← tag.closing, last, List.getElem?_append_right (Nat.le_add_right _ _),
      Nat.add_sub_cancel_left]
  by_cases inBack : InSimpleTag back offset
  · have startsBack := tag.le_start_of_inSimpleTag (last ▸ tag.covers_last) inBack
    omega
  · rw [stripTags_eq_outsideSimpleTags] at keepsNone
    exact keepsNone (mem_outsideSimpleTags stands inBack)

/-- An opening bracket before a text with a tag in it opens no tag, unless a closing bracket is left
of that text. -/
theorem opensNoTag_around {middle : List Char} (holds : Holds IsSimpleTagText middle)
    (keepsNone : ']' ∉ stripTags middle) (after : List Char) :
    OpensNoTag ('[' :: (middle ++ ']' :: after)) := by
  intro tag atStart
  obtain ⟨inner⟩ := SimpleTag.nonempty_of_holds holds
  rcases Nat.lt_or_ge (middle.length + 1) tag.stop with beyond | within
  · -- The tag would have the inner tag's opening bracket in it.
    let innerTag := (inner.appendRight (']' :: after)).appendLeft ['[']
    have innerStart : innerTag.start = 1 + inner.start := rfl
    have fits := inner.covers_start.2.trans_le inner.stop_le_length
    have atInner : innerTag.start = tag.start :=
      tag.eq_start_of_opening ⟨by omega, by omega⟩ innerTag.opening
    omega
  · let shorter : SimpleTag (['['] ++ middle) := SimpleTag.ofFront tag within
    have shorterStart : shorter.start = 0 := atStart
    have shorterStop := shorter.stop_eq
    have ends := meetApart_of_no_closing ['['] keepsNone shorter (by simp [shorterStart])
    rw [List.length_singleton] at ends
    omega

/-- Brackets around a text with a tag in it are left when all other brackets in that text are those
of tags. -/
theorem stripTags_around {middle : List Char} (holds : Holds IsSimpleTagText middle)
    (isContent : IsSimpleTagText (stripTags middle)) (after : List Char) :
    stripTags (bracketed middle ++ after) = bracketed (stripTags middle) ++ stripTags after := by
  have keepsNoOpening : '[' ∉ stripTags middle := fun kept => (isContent.ne_bracket kept).1 rfl
  have keepsNoClosing : ']' ∉ stripTags middle := fun kept => (isContent.ne_bracket kept).2 rfl
  have apart : MeetApart middle (']' :: after) := meetApart_of_no_opening keepsNoOpening _
  have closes : OpensNoTag (']' :: after) := opensNoTag_of_ne (by decide) after
  have whole : bracketed middle ++ after = '[' :: (middle ++ ']' :: after) := by simp [bracketed]
  rw [whole, stripTags_cons (opensNoTag_around holds keepsNoClosing after),
    stripTags_append_of_meetApart apart, stripTags_cons closes]
  simp [bracketed]

/-- A character that is left stands in the text. What is left before and after it is left of the
text before and after that place. -/
theorem exists_place_of_left {text left right : List Char} {character : Char}
    (isLeft : stripTags text = left ++ character :: right) :
    ∃ before after, text = before ++ character :: after ∧
      stripTags before = left ∧ stripTags after = right := by
  induction text using tagInduction generalizing left with
  | nil => simp [stripTags] at isLeft
  | tag content rest isContent inductionHypothesis =>
      rw [stripTags_bracketed isContent] at isLeft
      obtain ⟨before, after, rfl, isBefore, isAfter⟩ := inductionHypothesis isLeft
      refine ⟨bracketed content ++ before, after, (List.append_assoc _ _ _).symm, ?_, isAfter⟩
      rw [stripTags_bracketed isContent, isBefore]
  | kept first rest opensNone inductionHypothesis =>
      rw [stripTags_cons opensNone] at isLeft
      cases left with
      | nil =>
          obtain ⟨rfl, isRight⟩ := List.cons.inj isLeft
          exact ⟨[], rest, rfl, by rw [stripTags], isRight⟩
      | cons other left =>
          obtain ⟨rfl, isLater⟩ := List.cons.inj isLeft
          obtain ⟨before, after, rfl, isBefore, isAfter⟩ := inductionHypothesis isLater
          have opensNoneBefore : OpensNoTag (first :: before) :=
            fun tag => opensNone (tag.appendRight (character :: after))
          exact ⟨first :: before, after, rfl, by rw [stripTags_cons opensNoneBefore, isBefore],
            isAfter⟩

/-- A tag is left exactly where tags were taken out between its brackets. -/
theorem stripTags_eq_with_tag_iff {content : List Char} (isContent : IsSimpleTagText content)
    (text left right : List Char) :
    stripTags text = left ++ (bracketed content ++ right) ↔
      ∃ before middle after, text = before ++ (bracketed middle ++ after) ∧
        Holds IsSimpleTagText middle ∧ stripTags before = left ∧ stripTags middle = content ∧
          stripTags after = right := by
  constructor
  · intro isLeft
    have opens : bracketed content ++ right = '[' :: (content ++ ']' :: right) := by
      simp [bracketed]
    rw [opens] at isLeft
    obtain ⟨before, rest, rfl, isBefore, isRest⟩ := exists_place_of_left isLeft
    obtain ⟨middle, after, rfl, isMiddle, isAfter⟩ := exists_place_of_left isRest
    refine ⟨before, middle, after, by simp [bracketed], ?_, isBefore, isMiddle, isAfter⟩
    -- Without a tag between them the brackets would have gone with what they enclose.
    by_contra free
    have unchanged : middle = content :=
      ((stripTags_eq_self_iff middle).mpr free).symm.trans isMiddle
    have whole : '[' :: (middle ++ ']' :: after) = bracketed content ++ after := by
      simp [bracketed, unchanged]
    rw [stripTags_append_of_meetApart (meetApart_of_opening _ _), whole,
      stripTags_bracketed isContent, isBefore, isAfter] at isLeft
    have lengths := congrArg List.length isLeft
    simp only [List.length_append, List.length_cons] at lengths
    omega
  · rintro ⟨before, middle, after, rfl, holds, rfl, rfl, rfl⟩
    have apart : MeetApart before (bracketed middle ++ after) := meetApart_of_opening before _
    rw [stripTags_append_of_meetApart apart, stripTags_around holds isContent]

/-! ## The text as a whole -/

/-- A text loses exactly the characters of its tags. No two tags share a place; what is left are the
characters outside the tags in their order, brackets among them; and a tag is left exactly where
tags were taken out between its brackets. -/
theorem stripMarkup_loses_tags_only (text : String) :
    (∀ first second : SimpleTag text.toList, first ≠ second →
      first.stop ≤ second.start ∨ second.stop ≤ first.start) ∧
    (stripMarkup text).toList = outsideSimpleTags text.toList ∧
    (∀ before character after, text.toList = before ++ character :: after →
      ¬ InSimpleTag text.toList before.length →
      (stripMarkup text).toList = stripTags before ++ character :: stripTags after) ∧
    ∀ left content right, IsSimpleTagText content →
      ((stripMarkup text).toList = left ++ (bracketed content ++ right) ↔
        ∃ before middle after, text.toList = before ++ (bracketed middle ++ after) ∧
          Holds IsSimpleTagText middle ∧ stripTags before = left ∧ stripTags middle = content ∧
            stripTags after = right) := by
  rw [stripMarkup, String.toList_ofList]
  refine ⟨fun _ _ => SimpleTag.disjoint, stripTags_eq_outsideSimpleTags _, ?_, ?_⟩
  · intro before character after whole outside
    rw [whole] at outside ⊢
    exact stripTags_at_outside outside
  · exact fun left content right isContent => stripTags_eq_with_tag_iff isContent _ left right

/-- Of two nested and one more tag the inner and the last one go, and the outer one comes into
being. -/
theorem stripMarkup_of_nested_tags :
    (∃ first second : SimpleTag "]x[a[/b]c][d]".toList, first ≠ second ∧
      (first.stop ≤ second.start ∨ second.stop ≤ first.start)) ∧
    (¬ InSimpleTag "]x[a[/b]c][d]".toList 0 ∧
      (stripMarkup "]x[a[/b]c][d]").toList = ']' :: stripTags "x[a[/b]c][d]".toList) ∧
    stripMarkup "]x[a[/b]c][d]" = "]x[ac]" := by
  obtain ⟨apart, -, outside, new⟩ := stripMarkup_loses_tags_only "]x[a[/b]c][d]"
  refine ⟨?_, ?_, ?_⟩
  · let inner : SimpleTag "]x[a[/b]c][d]".toList := ⟨4, "/b".toList, by decide, by decide⟩
    let last : SimpleTag "]x[a[/b]c][d]".toList := ⟨10, "d".toList, by decide, by decide⟩
    have distinct : inner ≠ last := fun same => absurd (congrArg SimpleTag.start same) (by decide)
    exact ⟨inner, last, distinct, apart inner last distinct⟩
  · have noTag : ¬ InSimpleTag "]x[a[/b]c][d]".toList 0 := by decide
    have isLeft := outside [] ']' "x[a[/b]c][d]".toList (by decide) noTag
    rw [stripTags, List.nil_append] at isLeft
    exact ⟨noTag, isLeft⟩
  · have holds : Holds IsSimpleTagText "a[/b]c".toList := ⟨"/b".toList, by decide, by decide⟩
    have isLeft := (new "]x".toList "ac".toList [] (by decide)).mpr
      ⟨"]x".toList, "a[/b]c".toList, "[d]".toList, by decide, holds,
        by rw [stripTags_eq_outsideSimpleTags]; decide,
        by rw [stripTags_eq_outsideSimpleTags]; decide,
        by rw [stripTags_eq_outsideSimpleTags]; decide⟩
    exact String.toList_inj.mp isLeft

end PrologImage.Console
