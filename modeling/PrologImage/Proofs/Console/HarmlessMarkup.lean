import PrologImage.Console.Printing

/-!
Contract: marked-up texts that can always be printed.

Owns: that a text without brackets, a text in one style and such texts after each other have tags in
pairs; and that hints without brackets and the line for an interruption can be printed on either
console.

Does not own: the hints themselves (`Proofs.Session.Conduct`), and what is shown of a text
(`Proofs.Console.VisibleText`).

A library of styles is only known by its laws, so what can be printed is what they promise: texts
whose tags come in pairs.
-/

namespace PrologImage.Console

/-! ## Tags in pairs -/

theorem not_holds_nil (IsContent : List Char → Prop) : ¬ Holds IsContent [] := by
  rintro ⟨content, _, inside⟩
  cases List.infix_nil.mp inside

instance (name : List Char) : Decidable (IsStyleName name) :=
  decidable_of_iff
    (name.head?.any isLetter = true ∧
      name.all (fun character => isLetter character || character = ' ') = true ∧
      Text.trim name = name)
    ⟨fun ⟨starts, letters, trimmed⟩ => ⟨starts, by simpa using letters, trimmed⟩,
      fun ⟨starts, letters, trimmed⟩ => ⟨starts, by simpa using letters, trimmed⟩⟩

/-- A text in one style. -/
def inStyle (name body : List Char) : List Char :=
  bracketed name ++ (body ++ bracketed ('/' :: name))

namespace IsNested

theorem of_plain {characters : List Char} (plain : IsPlain characters) : IsNested characters := by
  induction characters with
  | nil => exact .nil
  | cons character rest inductionHypothesis =>
      obtain ⟨plainCharacter, plainRest⟩ := List.forall_mem_cons.mp plain
      exact .cons plainCharacter (inductionHypothesis plainRest)

theorem append {first second : List Char} (nestedFirst : IsNested first)
    (nestedSecond : IsNested second) : IsNested (first ++ second) := by
  induction nestedFirst with
  | nil => exact nestedSecond
  | cons plain _ inductionHypothesis => exact .cons plain inductionHypothesis
  | pair isName nestedBody _ _ inductionHypothesis =>
      simpa only [List.append_assoc] using IsNested.pair isName nestedBody inductionHypothesis

theorem inStyle {name body : List Char} (isName : IsStyleName name) (plain : IsPlain body) :
    IsNested (inStyle name body) := by
  have nested := IsNested.pair isName (of_plain plain) .nil
  rwa [List.append_nil] at nested

end IsNested

namespace IsPaired

theorem of_no_tag {text : List Char} (free : ¬ Holds IsTagText text) : IsPaired text :=
  ⟨[], text, .nil, free, rfl⟩

theorem of_nested {text : List Char} (nested : IsNested text) : IsPaired text :=
  ⟨text, [], nested, not_holds_nil _, (List.append_nil text).symm⟩

theorem append {first second : List Char} (nested : IsNested first) (paired : IsPaired second) :
    IsPaired (first ++ second) := by
  obtain ⟨lead, rest, nestedLead, free, rfl⟩ := paired
  exact ⟨first ++ lead, rest, nested.append nestedLead, free, (List.append_assoc _ _ _).symm⟩

/-- A text that is written in one style. -/
theorem of_inStyle (text name body : String) (isName : IsStyleName name.toList)
    (plain : IsPlain body.toList) (same : text.toList = inStyle name.toList body.toList) :
    IsPaired text.toList := by
  rw [same]
  exact of_nested (.inStyle isName plain)

end IsPaired

/-! ## Texts that can be printed -/

theorem MarkupLibrary.unlessRefused_eq_ok_iff {α : Type} (library : MarkupLibrary)
    (layout : Layout) (texts : List (List Char)) (made value : α) :
    library.unlessRefused layout texts made = .ok value ↔
      library.refusal? layout texts = none ∧ made = value := by
  unfold unlessRefused
  cases library.refusal? layout texts <;> simp

theorem MarkupLibrary.exists_unlessRefused_iff {α : Type} (library : MarkupLibrary)
    (layout : Layout) (texts : List (List Char)) (made : α) :
    (∃ value, library.unlessRefused layout texts made = .ok value) ↔
      library.refusal? layout texts = none := by
  simp only [unlessRefused_eq_ok_iff, exists_and_left, exists_eq', and_true]

/-- Marked-up texts can be printed when their tags come in pairs. -/
theorem exists_markedLine (mode : ConsoleMode) {texts : List String}
    (paired : ∀ text ∈ texts, IsPaired text.toList) :
    ∃ line, markedLine mode texts = .ok line := by
  cases mode with
  | plain => exact ⟨_, rfl⟩
  | styledBy library =>
      refine (library.exists_unlessRefused_iff _ _ _).mpr (library.refusal?_of_paired .line ?_)
      intro characters member
      obtain ⟨text, isText, rfl⟩ := List.mem_map.mp member
      exact paired text isText

/-! ## The texts that the boundary marks up -/

/-- A text without an opening bracket. -/
def IsBracketFree (text : String) : Prop :=
  '[' ∉ text.toList

instance (text : String) : Decidable (IsBracketFree text) := by
  unfold IsBracketFree
  infer_instance

namespace IsBracketFree

theorem append {first second : String} (freeFirst : IsBracketFree first)
    (freeSecond : IsBracketFree second) : IsBracketFree (first ++ second) := by
  unfold IsBracketFree
  rw [String.toList_append, List.mem_append]
  rintro (member | member)
  · exact freeFirst member
  · exact freeSecond member

theorem intercalate {separator : String} (freeSeparator : IsBracketFree separator)
    {texts : List String} (free : ∀ text ∈ texts, IsBracketFree text) :
    IsBracketFree (String.intercalate separator texts) := by
  induction texts with
  | nil => exact List.not_mem_nil
  | cons text rest inductionHypothesis =>
      obtain ⟨freeText, freeRest⟩ := List.forall_mem_cons.mp free
      cases rest with
      | nil =>
          rw [String.intercalate_singleton]
          exact freeText
      | cons next others =>
          rw [String.intercalate_cons_cons]
          exact (freeText.append freeSeparator).append (inductionHypothesis freeRest)

/-- A text without an opening bracket has no tags. -/
theorem isPaired {text : String} (free : IsBracketFree text) : IsPaired text.toList := by
  refine .of_no_tag ?_
  rintro ⟨content, _, inside⟩
  exact free (inside.subset List.mem_cons_self)

end IsBracketFree

/-- What a hint is printed after. -/
def hintMark : String := "[yellow]Hint:[/yellow] "

theorem hintMark_append (hint : String) :
    (hintMark ++ hint).toList =
      inStyle "yellow".toList "Hint:".toList ++ ([' '] ++ hint.toList) := by
  have mark : hintMark.toList = inStyle "yellow".toList "Hint:".toList ++ [' '] := by decide
  rw [String.toList_append, mark, List.append_assoc]

theorem isPaired_hint {hint : String} (paired : IsPaired hint.toList) :
    IsPaired (hintMark ++ hint).toList := by
  have blank : IsPlain [' '] := by decide
  rw [hintMark_append]
  exact .append (.inStyle (by decide) (by decide)) (.append (.of_plain blank) paired)

/-- A hint without brackets can be printed. -/
theorem markedLine_hint (mode : ConsoleMode) {hint : String} (free : IsBracketFree hint) :
    ∃ line, markedLine mode ["[yellow]Hint:[/yellow] " ++ hint] = .ok line := by
  apply exists_markedLine
  intro text member
  obtain rfl := List.mem_singleton.mp member
  exact isPaired_hint free.isPaired

/-- The line that tells an interruption can be printed. -/
theorem markedLine_aborted (mode : ConsoleMode) :
    ∃ line, markedLine mode ["\n[yellow]Aborted by user.[/yellow]"] = .ok line := by
  have text : "\n[yellow]Aborted by user.[/yellow]".toList =
      ['\n'] ++ inStyle "yellow".toList "Aborted by user.".toList := by decide
  have feed : IsPlain ['\n'] := by decide
  apply exists_markedLine
  intro other member
  obtain rfl := List.mem_singleton.mp member
  rw [text]
  exact .append (.of_plain feed) (.of_nested (.inStyle (by decide) (by decide)))

end PrologImage.Console
