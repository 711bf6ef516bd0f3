import Mathlib.Data.List.Basic
import PrologImage.Text.Line

/-!
Contract: the lines of a text that is put together from pieces.

Owns: texts whose last line is ended, the lines of such a text with more text after it, and that
lines which are written with a line feed after each of them read back as they are.

Does not own: which lines report errors (`Proofs.Diagnostic.Reading`).

A carriage return and the line feed after it are one boundary, so the two pieces of a text must not
be cut between them.
-/

namespace PrologImage.Text

/-- A text without an unended last line: it is empty or its last character ends a line. -/
def IsEnded (text : List Char) : Prop :=
  ∀ character ∈ text.getLast?, isLineBoundary character

instance (text : List Char) : Decidable (IsEnded text) :=
  decidable_of_iff (text.getLast?.all isLineBoundary) (by simp [IsEnded, Option.all_eq_true])

/-- A cut in a text that does not go through a carriage return with its line feed. -/
def IsCleanCut (text rest : List Char) : Prop :=
  text.getLast? = some '\r' → rest.head? ≠ some '\n'

theorem IsEnded.tail {character : Char} {text : List Char} (ended : IsEnded (character :: text)) :
    IsEnded text := by
  intro last isLast
  apply ended
  rw [List.getLast?_cons, isLast]
  rfl

theorem IsCleanCut.tail {character : Char} {text rest : List Char}
    (clean : IsCleanCut (character :: text) rest) : IsCleanCut text rest := by
  intro isReturn
  apply clean
  rw [List.getLast?_cons, isReturn]
  rfl

theorem lines_ne_nil {text : List Char} (present : text ≠ []) : lines text ≠ [] := by
  fun_cases lines text with
  | case1 => exact absurd rfl present
  | case2 => simp
  | case3 => simp
  | case4 character rest notPair free => cases lines rest <;> simp [extendFirst]

/-- After an ended text the lines of the rest begin. -/
theorem lines_append {text rest : List Char} (ended : IsEnded text)
    (clean : IsCleanCut text rest) : lines (text ++ rest) = lines text ++ lines rest := by
  fun_induction lines text with
  | case1 => rfl
  | case2 others inductionHypothesis =>
      rw [List.cons_append, List.cons_append, lines, inductionHypothesis ended.tail.tail
        clean.tail.tail, List.cons_append]
  | case3 character others notPair boundary inductionHypothesis =>
      rw [List.cons_append, lines_cons_of_boundary boundary,
        inductionHypothesis ended.tail clean.tail, List.cons_append]
      rintro rfl isFeed
      cases others with
      | nil => exact clean rfl isFeed
      | cons next later =>
          obtain rfl : next = '\n' := by simpa using isFeed
          exact notPair later rfl rfl
  | case4 character others notPair free inductionHypothesis =>
      have present : others ≠ [] := by
        rintro rfl
        exact free (ended character rfl)
      obtain ⟨first, later, split⟩ := List.exists_cons_of_ne_nil (lines_ne_nil present)
      rw [List.cons_append, lines_cons_of_free (by simpa using free),
        inductionHypothesis ended.tail clean.tail, split]
      rfl

/-! ## Written lines -/

/-- A text without a line boundary. -/
def IsOneLine (text : List Char) : Prop :=
  ∀ character ∈ text, isLineBoundary character = false

instance (text : List Char) : Decidable (IsOneLine text) :=
  decidable_of_iff (text.all fun character => !isLineBoundary character) (by simp [IsOneLine])

theorem isOneLine_append {front back : List Char} :
    IsOneLine (front ++ back) ↔ IsOneLine front ∧ IsOneLine back :=
  List.forall_mem_append

theorem isOneLine_cons {character : Char} {text : List Char} :
    IsOneLine (character :: text) ↔ isLineBoundary character = false ∧ IsOneLine text :=
  List.forall_mem_cons

theorem isOneLine_of_subset {text part : List Char} (oneLine : IsOneLine text)
    (subset : part ⊆ text) : IsOneLine part :=
  fun character member => oneLine character (subset member)

theorem isOneLine_intercalate {separator : List Char} (oneLine : IsOneLine separator)
    {texts : List (List Char)} (all : ∀ text ∈ texts, IsOneLine text) :
    IsOneLine (List.intercalate separator texts) := by
  induction texts with
  | nil => simp [List.intercalate, IsOneLine]
  | cons text rest inductionHypothesis =>
      obtain ⟨first, others⟩ := List.forall_mem_cons.mp all
      cases rest with
      | nil => simpa [List.intercalate] using first
      | cons next later =>
          rw [List.intercalate_cons_cons, isOneLine_append, isOneLine_append]
          exact ⟨⟨first, oneLine⟩, inductionHypothesis others⟩

/-- The lines of a text have no boundaries left in them. -/
theorem isOneLine_of_mem_lines (text : List Char) : ∀ line ∈ lines text, IsOneLine line := by
  fun_induction lines text with
  | case1 => simp
  | case2 rest inductionHypothesis =>
      exact List.forall_mem_cons.mpr ⟨by simp [IsOneLine], inductionHypothesis⟩
  | case3 character rest notPair boundary inductionHypothesis =>
      exact List.forall_mem_cons.mpr ⟨by simp [IsOneLine], inductionHypothesis⟩
  | case4 character rest notPair free inductionHypothesis =>
      have isFree : isLineBoundary character = false := by simpa using free
      cases split : lines rest with
      | nil => simp [extendFirst, isFree, IsOneLine]
      | cons first others =>
          rw [split] at inductionHypothesis
          obtain ⟨here, later⟩ := List.forall_mem_cons.mp inductionHypothesis
          exact List.forall_mem_cons.mpr ⟨isOneLine_cons.mpr ⟨isFree, here⟩, later⟩

/-- Lines with a line feed after each of them. -/
def written (texts : List (List Char)) : List Char :=
  texts.flatMap (· ++ ['\n'])

theorem lines_line {text : List Char} (oneLine : IsOneLine text) (rest : List Char) :
    lines (text ++ '\n' :: rest) = text :: lines rest := by
  induction text with
  | nil => exact lines_cons_of_boundary (by decide) (fun isReturn => absurd isReturn (by decide))
  | cons character text inductionHypothesis =>
      obtain ⟨free, later⟩ := List.forall_mem_cons.mp oneLine
      rw [List.cons_append, lines_cons_of_free free, inductionHypothesis later, extendFirst]

theorem lines_written {texts : List (List Char)} (oneLine : ∀ text ∈ texts, IsOneLine text)
    (rest : List Char) : lines (written texts ++ rest) = texts ++ lines rest := by
  induction texts with
  | nil => rfl
  | cons text texts inductionHypothesis =>
      obtain ⟨first, others⟩ := List.forall_mem_cons.mp oneLine
      have split : written (text :: texts) ++ rest = text ++ '\n' :: (written texts ++ rest) := by
        simp [written]
      rw [split, lines_line first, inductionHypothesis others, List.cons_append]

end PrologImage.Text
