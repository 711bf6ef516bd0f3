import PrologImage.Diagnostic.Reader

/-!
Contract: when the interpreter's output reports an error at all.

Owns: the reading of a fixed start as a statement about characters, and the outputs without an
error: those in which no line starts with the error mark.

Does not own: what a reported error says.
-/

namespace PrologImage.Diagnostic

theorem afterStart?_eq_some_iff (start characters rest : List Char) :
    afterStart? start characters = some rest ↔ characters = start ++ rest := by
  induction start generalizing characters with
  | nil => simp [afterStart?, eq_comm]
  | cons expected start inductionHypothesis =>
      cases characters with
      | nil => simp [afterStart?]
      | cons character others =>
          by_cases same : expected = character
          · subst same
            simp [afterStart?, inductionHypothesis]
          · simp [afterStart?, same, Ne.symm same]

theorem errorBody?_eq_none_iff (line : List Char) :
    errorBody? line = none ↔ ¬ errorMark <+: line := by
  unfold errorBody?
  constructor
  · rintro absent ⟨rest, found⟩
    rw [(afterStart?_eq_some_iff errorMark line rest).mpr found.symm] at absent
    cases absent
  · intro notMarked
    cases body : afterStart? errorMark line with
    | none => rfl
    | some rest =>
        have found := (afterStart?_eq_some_iff errorMark line rest).mp body
        exact absurd ⟨rest, found.symm⟩ notMarked

/-- There is a block exactly when some line reports an error. -/
theorem blocksOfLines_eq_nil_iff (lines : List (List Char)) :
    blocksOfLines lines = [] ↔ ∀ line ∈ lines, ¬ errorMark <+: line := by
  induction lines with
  | nil => simp [blocksOfLines]
  | cons line rest inductionHypothesis =>
      rw [blocksOfLines, List.forall_mem_cons, ← errorBody?_eq_none_iff]
      cases body : errorBody? line with
      | none => simp [inductionHypothesis]
      | some text => simp

/-- Nothing is read from an output exactly when none of its lines starts with the mark. -/
theorem read_eq_ok_none_iff (output : String) :
    read output = .ok none ↔ ∀ line ∈ Text.lines output.toList, ¬ errorMark <+: line := by
  rw [← blocksOfLines_eq_nil_iff]
  unfold read blocks
  cases found : blocksOfLines (Text.lines output.toList) with
  | nil => simp
  | cons block others =>
      cases value : block.read with
      | error numeral => simp [value, Except.map]
      | ok diagnostic => simp [value, Except.map]

end PrologImage.Diagnostic
