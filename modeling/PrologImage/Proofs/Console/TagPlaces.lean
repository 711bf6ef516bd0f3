import Mathlib.Data.List.Basic
import PrologImage.Proofs.Console.ShownAsIs

/-!
Contract: simple tags where they stand in a text, and the characters outside of them.

Owns: that no two tags share a place, the tags of a text put together from two, and the characters
that are in no tag, also of such a text.

Does not own: the removal of tags (`Proofs.Console.RemovedTags`).

A tag has one opening bracket, its first character, and one closing bracket, its last. So tags that
share a place open and close together. Where no tag goes across the place at which two texts meet,
the characters outside the tags are those of the one text and then those of the other.
-/

namespace PrologImage.Console

/-! ## Tags where they stand -/

theorem IsSimpleTagText.ne_bracket {content : List Char} (isContent : IsSimpleTagText content)
    {character : Char} (inside : character ∈ content) : character ≠ '[' ∧ character ≠ ']' := by
  obtain ⟨name, _, named, same⟩ := isContent
  have nameOrSlash : isTagNameCharacter character = true ∨ character = '/' := by
    rcases same with rfl | rfl
    · exact .inl (named character inside)
    · exact (List.mem_cons.mp inside).symm.imp_left (named character)
  constructor <;> rintro rfl <;> exact absurd nameOrSlash (by decide)

theorem eq_zero_of_opening {content : List Char} (isContent : IsSimpleTagText content)
    {offset : Nat} (opening : (bracketed content)[offset]? = some '[') : offset = 0 := by
  cases offset with
  | zero => rfl
  | succ offset =>
      have later : '[' ∈ content ++ [']'] := List.mem_of_getElem? opening
      rcases List.mem_append.mp later with inside | last
      · exact absurd rfl (isContent.ne_bracket inside).1
      · exact absurd (List.mem_singleton.mp last) (by decide)

theorem eq_last_of_closing {content : List Char} (isContent : IsSimpleTagText content)
    {offset : Nat} (closing : (bracketed content)[offset]? = some ']') :
    offset = content.length + 1 := by
  cases offset with
  | zero => exact absurd closing (by simp [bracketed])
  | succ offset =>
      have later : (content ++ [']'])[offset]? = some ']' := closing
      rcases Nat.lt_or_ge offset content.length with inside | outside
      · rw [List.getElem?_append_left inside] at later
        exact absurd rfl (isContent.ne_bracket (List.mem_of_getElem? later)).2
      · rw [List.getElem?_append_right outside] at later
        have last := (List.getElem?_eq_some_iff.mp later).1
        rw [List.length_singleton] at last
        omega

/-- A simple tag, where it stands in a text. -/
@[ext]
structure SimpleTag (text : List Char) where
  start : Nat
  content : List Char
  isContent : IsSimpleTagText content
  stands : bracketed content <+: text.drop start

namespace SimpleTag

variable {text front back : List Char}

/-- The place right after a tag. -/
def stop (tag : SimpleTag text) : Nat :=
  tag.start + (bracketed tag.content).length

/-- The character at the place is one of the tag's. -/
def Covers (tag : SimpleTag text) (place : Nat) : Prop :=
  tag.start ≤ place ∧ place < tag.stop

theorem stop_eq (tag : SimpleTag text) : tag.stop = tag.start + (tag.content.length + 2) := by
  simp [stop, bracketed]

theorem stop_le_length (tag : SimpleTag text) : tag.stop ≤ text.length := by
  have fits := tag.stands.length_le
  have opened : 0 < (bracketed tag.content).length := by simp [bracketed]
  rw [List.length_drop] at fits
  unfold stop
  omega

theorem getElem?_start_add (tag : SimpleTag text) (offset : Nat)
    (inside : offset < (bracketed tag.content).length) :
    text[tag.start + offset]? = (bracketed tag.content)[offset]? := by
  rw [← List.getElem?_drop, List.prefix_iff_getElem?.mp tag.stands offset inside,
    List.getElem?_eq_getElem inside]

theorem opening (tag : SimpleTag text) : text[tag.start]? = some '[' :=
  tag.getElem?_start_add 0 (by simp [bracketed])

theorem closing (tag : SimpleTag text) : text[tag.stop - 1]? = some ']' := by
  have last : tag.stop - 1 = tag.start + (tag.content.length + 1) := by
    rw [stop_eq]
    omega
  rw [last, tag.getElem?_start_add _ (by simp [bracketed])]
  simp [bracketed]

/-- A tag's only opening bracket is its first character. -/
theorem eq_start_of_opening (tag : SimpleTag text) {place : Nat} (covers : tag.Covers place)
    (opening : text[place]? = some '[') : place = tag.start := by
  obtain ⟨offset, rfl⟩ := Nat.exists_eq_add_of_le covers.1
  rw [tag.getElem?_start_add offset (Nat.lt_of_add_lt_add_left covers.2)] at opening
  rw [eq_zero_of_opening tag.isContent opening, Nat.add_zero]

/-- A tag's only closing bracket is its last character. -/
theorem eq_stop_of_closing (tag : SimpleTag text) {place : Nat} (covers : tag.Covers place)
    (closing : text[place]? = some ']') : place + 1 = tag.stop := by
  obtain ⟨offset, rfl⟩ := Nat.exists_eq_add_of_le covers.1
  rw [tag.getElem?_start_add offset (Nat.lt_of_add_lt_add_left covers.2)] at closing
  rw [eq_last_of_closing tag.isContent closing, stop_eq]
  rfl

theorem covers_start (tag : SimpleTag text) : tag.Covers tag.start :=
  ⟨le_rfl, by rw [stop_eq]; omega⟩

theorem covers_last (tag : SimpleTag text) : tag.Covers (tag.stop - 1) := by
  unfold Covers
  rw [stop_eq]
  omega

/-- Tags that share a place are one tag. -/
theorem eq_of_covers {first second : SimpleTag text} {place : Nat}
    (firstCovers : first.Covers place) (secondCovers : second.Covers place) : first = second := by
  -- The later start is a place of both tags and has an opening bracket; ends are alike.
  have starts : first.start = second.start := by
    rcases Nat.le_total first.start second.start with earlier | earlier
    · exact (first.eq_start_of_opening ⟨earlier, secondCovers.1.trans_lt firstCovers.2⟩
        second.opening).symm
    · exact second.eq_start_of_opening ⟨earlier, firstCovers.1.trans_lt secondCovers.2⟩
        first.opening
  have stops : first.stop = second.stop := by
    have firstLast := first.covers_last
    have secondLast := second.covers_last
    unfold Covers at firstLast secondLast
    rcases Nat.le_total first.stop second.stop with earlier | earlier
    · have same := second.eq_stop_of_closing ⟨by omega, by omega⟩ first.closing
      omega
    · have same := first.eq_stop_of_closing ⟨by omega, by omega⟩ second.closing
      omega
  have lengths : (bracketed first.content).length = (bracketed second.content).length := by
    unfold stop at stops
    omega
  have secondStands := second.stands
  rw [← starts] at secondStands
  have whole : bracketed first.content = bracketed second.content :=
    (List.prefix_of_prefix_length_le first.stands secondStands lengths.le).eq_of_length lengths
  exact SimpleTag.ext starts (by simpa [bracketed] using whole)

/-- Two tags have no place in common. -/
theorem disjoint {first second : SimpleTag text} (distinct : first ≠ second) :
    first.stop ≤ second.start ∨ second.stop ≤ first.start := by
  by_contra shared
  rw [not_or, Nat.not_le, Nat.not_le] at shared
  rcases Nat.le_total first.start second.start with earlier | earlier
  · exact distinct (eq_of_covers ⟨earlier, shared.1⟩ second.covers_start)
  · exact distinct (eq_of_covers first.covers_start ⟨earlier, shared.2⟩)

/-! ### Tags of a text and of its parts -/

/-- A tag before a text is a tag of the whole. -/
def appendRight (tag : SimpleTag front) (back : List Char) : SimpleTag (front ++ back) where
  start := tag.start
  content := tag.content
  isContent := tag.isContent
  stands := by
    rw [List.drop_append_of_le_length (tag.covers_start.2.le.trans tag.stop_le_length)]
    exact List.prefix_append_of_prefix tag.stands

/-- A tag after a text is a tag of the whole. -/
def appendLeft (front : List Char) (tag : SimpleTag back) : SimpleTag (front ++ back) where
  start := front.length + tag.start
  content := tag.content
  isContent := tag.isContent
  stands := by
    rw [List.drop_length_add_append]
    exact tag.stands

/-- A tag that ends in the first part of a text is a tag of that part. -/
def ofFront (tag : SimpleTag (front ++ back)) (ends : tag.stop ≤ front.length) :
    SimpleTag front where
  start := tag.start
  content := tag.content
  isContent := tag.isContent
  stands := by
    have stands := tag.stands
    rw [List.drop_append_of_le_length (tag.covers_start.2.le.trans ends)] at stands
    refine List.prefix_of_prefix_length_le stands (List.prefix_append _ _) ?_
    rw [List.length_drop]
    unfold stop at ends
    omega

/-- A tag that starts in the second part of a text is a tag of that part. -/
def ofBack (tag : SimpleTag (front ++ back)) (starts : front.length ≤ tag.start) :
    SimpleTag back where
  start := tag.start - front.length
  content := tag.content
  isContent := tag.isContent
  stands := by
    have stands := tag.stands
    rwa [List.drop_append, List.drop_eq_nil_of_le starts, List.nil_append] at stands

theorem covers_appendLeft (front : List Char) (tag : SimpleTag back) (place : Nat) :
    (tag.appendLeft front).Covers (front.length + place) ↔ tag.Covers place := by
  simp only [Covers, stop, appendLeft]
  omega

theorem covers_ofBack (tag : SimpleTag (front ++ back)) (starts : front.length ≤ tag.start)
    (place : Nat) : (tag.ofBack starts).Covers place ↔ tag.Covers (front.length + place) := by
  simp only [Covers, stop, ofBack]
  omega

theorem nonempty_of_holds (holds : Holds IsSimpleTagText text) : Nonempty (SimpleTag text) := by
  obtain ⟨content, isContent, before, after, rfl⟩ := holds
  refine ⟨⟨before.length, content, isContent, after, ?_⟩⟩
  rw [List.append_assoc, List.drop_left]

end SimpleTag

/-! ## The characters outside the tags -/

/-- The character at the place is in a simple tag of the text. -/
def InSimpleTag (text : List Char) (place : Nat) : Prop :=
  ∃ tag : SimpleTag text, tag.Covers place

/-- A tag is found by its start and the length of its content. -/
theorem inSimpleTag_iff (text : List Char) (place : Nat) :
    InSimpleTag text place ↔
      ∃ start < place + 1, ∃ size < text.length,
        IsSimpleTagText ((text.drop (start + 1)).take size) ∧
          bracketed ((text.drop (start + 1)).take size) <+: text.drop start ∧
            place < start + (bracketed ((text.drop (start + 1)).take size)).length := by
  constructor
  · rintro ⟨tag, covers⟩
    have content : (text.drop (tag.start + 1)).take tag.content.length = tag.content := by
      obtain ⟨after, whole⟩ := tag.stands
      rw [← List.drop_drop, ← whole]
      simp [bracketed]
    have fits := tag.stop_le_length
    rw [tag.stop_eq] at fits
    refine ⟨tag.start, Nat.lt_succ_of_le covers.1, tag.content.length, by omega, ?_⟩
    rw [content]
    exact ⟨tag.isContent, tag.stands, covers.2⟩
  · rintro ⟨start, before, size, _, isContent, stands, after⟩
    exact ⟨⟨start, _, isContent, stands⟩, Nat.le_of_lt_succ before, after⟩

instance (content : List Char) : Decidable (IsSimpleTagText content) :=
  decidable_of_iff
    ((content ≠ [] ∧ content.all isTagNameCharacter = true) ∨
      content.head? = some '/' ∧ content.tail ≠ [] ∧
        content.tail.all isTagNameCharacter = true)
    (by
      simp only [List.all_eq_true]
      constructor
      · rintro (⟨present, named⟩ | ⟨slash, present, named⟩)
        · exact ⟨content, present, named, .inl rfl⟩
        · exact ⟨content.tail, present, named, .inr (List.eq_cons_of_mem_head? slash)⟩
      · rintro ⟨name, present, named, rfl | rfl⟩
        · exact .inl ⟨present, named⟩
        · exact .inr ⟨rfl, present, named⟩)

instance (text : List Char) (place : Nat) : Decidable (InSimpleTag text place) :=
  decidable_of_iff' _ (inSimpleTag_iff text place)

/-- The characters of a text that are in none of its simple tags, in their order. -/
def outsideSimpleTags (text : List Char) : List Char :=
  (text.zipIdx.filter fun entry => ¬ InSimpleTag text entry.2).map Prod.fst

theorem mem_outsideSimpleTags {text : List Char} {character : Char} {place : Nat}
    (stands : text[place]? = some character) (outside : ¬ InSimpleTag text place) :
    character ∈ outsideSimpleTags text :=
  List.mem_map.mpr ⟨(character, place), List.mem_filter.mpr
    ⟨List.mem_zipIdx_iff_getElem?.mpr stands, decide_eq_true outside⟩, rfl⟩

/-- No simple tag goes across the place where two texts meet: one that starts before it ends there
at the latest. -/
def MeetApart (front back : List Char) : Prop :=
  ∀ tag : SimpleTag (front ++ back), tag.start < front.length → tag.stop ≤ front.length

section Parts

variable {front back : List Char}

theorem inSimpleTag_front_iff (apart : MeetApart front back) {place : Nat}
    (inside : place < front.length) :
    InSimpleTag (front ++ back) place ↔ InSimpleTag front place := by
  constructor
  · rintro ⟨tag, covers⟩
    exact ⟨tag.ofFront (apart tag (covers.1.trans_lt inside)), covers⟩
  · rintro ⟨tag, covers⟩
    exact ⟨tag.appendRight back, covers⟩

theorem inSimpleTag_back_iff (apart : MeetApart front back) (place : Nat) :
    InSimpleTag (front ++ back) (front.length + place) ↔ InSimpleTag back place := by
  constructor
  · rintro ⟨tag, covers⟩
    have starts : front.length ≤ tag.start := by
      by_contra before
      have ends := apart tag (Nat.not_le.mp before)
      have after := covers.2
      omega
    exact ⟨tag.ofBack starts, (tag.covers_ofBack starts place).mpr covers⟩
  · rintro ⟨tag, covers⟩
    exact ⟨tag.appendLeft front, (tag.covers_appendLeft front place).mpr covers⟩

/-- Where no tag goes across, each of two texts has outside the tags what it has alone. -/
theorem outsideSimpleTags_append (apart : MeetApart front back) :
    outsideSimpleTags (front ++ back) = outsideSimpleTags front ++ outsideSimpleTags back := by
  have inFront : (front.zipIdx.filter fun entry => ¬ InSimpleTag (front ++ back) entry.2) =
      front.zipIdx.filter fun entry => ¬ InSimpleTag front entry.2 :=
    List.filter_congr fun entry isEntry => decide_eq_decide.mpr
      (not_congr (inSimpleTag_front_iff apart (List.snd_lt_of_mem_zipIdx isEntry)))
  have inBack : ((back.zipIdx front.length).filter fun entry =>
      ¬ InSimpleTag (front ++ back) entry.2).map Prod.fst = outsideSimpleTags back := by
    rw [List.zipIdx_eq_map_add, List.filter_map, List.map_map]
    refine congrArg (List.map Prod.fst) (List.filter_congr fun entry _ => ?_)
    exact decide_eq_decide.mpr (not_congr (inSimpleTag_back_iff apart entry.2))
  rw [outsideSimpleTags, List.zipIdx_append, List.filter_append, List.map_append, Nat.zero_add,
    inFront, inBack]
  rfl

/-- A tag of the whole that shares a place with one of the first part ends in that part. -/
theorem SimpleTag.stop_le_of_inSimpleTag (tag : SimpleTag (front ++ back)) {place : Nat}
    (covers : tag.Covers place) (inFront : InSimpleTag front place) : tag.stop ≤ front.length := by
  obtain ⟨inner, innerCovers⟩ := inFront
  have same : inner.appendRight back = tag := eq_of_covers innerCovers covers
  rw [← same]
  exact inner.stop_le_length

/-- A tag of the whole that shares a place with one of the second part starts in that part. -/
theorem SimpleTag.le_start_of_inSimpleTag (tag : SimpleTag (front ++ back)) {place : Nat}
    (covers : tag.Covers (front.length + place)) (inBack : InSimpleTag back place) :
    front.length ≤ tag.start := by
  obtain ⟨inner, innerCovers⟩ := inBack
  have same : inner.appendLeft front = tag :=
    eq_of_covers ((inner.covers_appendLeft front place).mpr innerCovers) covers
  rw [← same]
  exact Nat.le_add_right _ _

end Parts

end PrologImage.Console
