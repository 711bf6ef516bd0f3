import Mathlib.Data.List.TakeWhile
import PrologImage.Text.Blank

/-!
Contract: texts without white space at an end, and trimming.

Owns: that trimming leaves such a text as it is, takes away the blanks put around it, and never
takes away anything else.
-/

namespace PrologImage.Text

/-- A text without white space at its start. -/
def StartsVisibly (text : List Char) : Prop :=
  ∀ character ∈ text.head?, ¬ isBlank character

/-- A text without white space at its end. -/
def EndsVisibly (text : List Char) : Prop :=
  ∀ character ∈ text.getLast?, ¬ isBlank character

instance (text : List Char) : Decidable (StartsVisibly text) :=
  decidable_of_iff (text.head?.all fun character => !isBlank character)
    (by simp [StartsVisibly, Option.all_eq_true])

instance (text : List Char) : Decidable (EndsVisibly text) :=
  decidable_of_iff (text.getLast?.all fun character => !isBlank character)
    (by simp [EndsVisibly, Option.all_eq_true])

variable {text : List Char}

theorem trimStart_of_startsVisibly (visible : StartsVisibly text) : trimStart text = text := by
  cases text with
  | nil => rfl
  | cons character rest => exact List.dropWhile_cons_of_neg (visible character rfl)

theorem trimEnd_of_endsVisibly (visible : EndsVisibly text) : trimEnd text = text := by
  have reversed : text.reverse.dropWhile isBlank = text.reverse := by
    apply trimStart_of_startsVisibly
    intro character isFirst
    exact visible character (by rwa [List.head?_reverse] at isFirst)
  rw [trimEnd, reversed, List.reverse_reverse]

theorem trimStart_append_of_blank {blanks : List Char} (blank : blanks.all isBlank)
    (visible : StartsVisibly text) : trimStart (blanks ++ text) = text := by
  rw [trimStart, List.dropWhile_append_of_pos (List.all_eq_true.mp blank)]
  exact trimStart_of_startsVisibly visible

theorem trimEnd_append_blank (visible : EndsVisibly text) : trimEnd (text ++ [' ']) = text := by
  have blank : isBlank ' ' := by decide
  have same : trimEnd (text ++ [' ']) = trimEnd text := by
    rw [trimEnd, List.reverse_append, List.reverse_singleton, List.singleton_append,
      List.dropWhile_cons_of_pos blank]
    rfl
  rw [same, trimEnd_of_endsVisibly visible]

theorem trimStart_subset (text : List Char) : trimStart text ⊆ text :=
  (List.dropWhile_suffix _).subset

theorem trim_subset (text : List Char) : trim text ⊆ text := by
  intro character member
  rw [trim, trimEnd, List.mem_reverse] at member
  exact trimStart_subset text (List.mem_reverse.mp ((List.dropWhile_suffix _).subset member))

theorem mem_dropWhile_isBlank {character : Char} (member : character ∈ text)
    (visible : ¬ isBlank character) : character ∈ text.dropWhile isBlank := by
  rw [← List.takeWhile_append_dropWhile (p := isBlank) (l := text), List.mem_append] at member
  exact member.resolve_left fun taken => visible (List.mem_takeWhile_imp taken)

/-- Only white space is lost by trimming. -/
theorem mem_trim {character : Char} (member : character ∈ text) (visible : ¬ isBlank character) :
    character ∈ trim text := by
  have started : character ∈ trimStart text := mem_dropWhile_isBlank member visible
  rw [trim, trimEnd, List.mem_reverse]
  exact mem_dropWhile_isBlank (List.mem_reverse.mpr started) visible

end PrologImage.Text
