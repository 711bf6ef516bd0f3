import PrologImage.Proofs.Diagnostic.Reading
import PrologImage.Proofs.Text.Line

/-!
Contract: outputs that come one after the other.

Owns: whether some lines leave a block open, what becomes of that block when more lines come, the
exact condition under which the blocks of two outputs stand side by side, what one more line does to
the blocks, and which of two outputs the diagnostic is read from.

Does not own: what a block means (`Proofs.Diagnostic.Reading`).

A block that is left open takes in the continuations that come next, so blocks are put together
without loss only where the first lines leave none open or the others continue none.
-/

namespace PrologImage.Diagnostic

/-! ## Open blocks -/

/-- A block is open after some lines: the last of them reports an error. -/
def LeaveOpen (lines : List (List Char)) : Prop :=
  ∃ last ∈ lines.getLast?, errorMark <+: last

theorem leaveOpen_cons_iff {line : List Char} {rest : List (List Char)} :
    LeaveOpen (line :: rest) ↔ LeaveOpen rest ∨ rest = [] ∧ errorMark <+: line := by
  cases rest with
  | nil => simp [LeaveOpen]
  | cons next others => simp [LeaveOpen, List.getLast?_cons_cons]

/-! ## Continuations among more lines -/

/-- Where all lines continue a block, the lines after them may go on with it. -/
theorem continuations_append {lines : List (List Char)} (rest : List (List Char))
    (all : afterContinuations lines = []) :
    continuations (lines ++ rest) = continuations lines ++ continuations rest ∧
      afterContinuations (lines ++ rest) = afterContinuations rest := by
  induction lines with
  | nil => exact ⟨rfl, rfl⟩
  | cons line lines inductionHypothesis =>
      rw [List.cons_append]
      simp only [continuations, afterContinuations] at all ⊢
      cases continued : continuation? line with
      | none => simp [continued] at all
      | some body =>
          rw [continued] at all
          have later := inductionHypothesis all
          exact ⟨congrArg _ later.1, later.2⟩

/-- Where some line does not continue the block, the lines after it do not matter. -/
theorem continuations_append_of_ended {lines : List (List Char)} (rest : List (List Char))
    (ended : afterContinuations lines ≠ []) :
    continuations (lines ++ rest) = continuations lines ∧
      afterContinuations (lines ++ rest) = afterContinuations lines ++ rest := by
  induction lines with
  | nil => exact absurd rfl ended
  | cons line lines inductionHypothesis =>
      rw [List.cons_append]
      simp only [continuations, afterContinuations] at ended ⊢
      cases continued : continuation? line with
      | none => exact ⟨rfl, rfl⟩
      | some body =>
          rw [continued] at ended
          have later := inductionHypothesis ended
          exact ⟨congrArg _ later.1, later.2⟩

/-- Continuations leave the block open, and the lines after them decide whether it stays so. -/
theorem leaveOpen_block_iff {line body : List Char} {rest : List (List Char)}
    (marked : errorBody? line = some body) :
    LeaveOpen (line :: rest) ↔
      afterContinuations rest = [] ∨ LeaveOpen (afterContinuations rest) := by
  have isMarked : errorMark <+: line := by
    by_contra notMarked
    rw [(errorBody?_eq_none_iff line).mpr notMarked] at marked
    cases marked
  clear marked
  induction rest generalizing line with
  | nil => simp [leaveOpen_cons_iff, isMarked, afterContinuations]
  | cons next others inductionHypothesis =>
      have onlyLater : LeaveOpen (line :: next :: others) ↔ LeaveOpen (next :: others) := by
        simp [leaveOpen_cons_iff, isMarked]
      rw [onlyLater, afterContinuations]
      cases continued : continuation? next with
      | none => simp
      | some text =>
          obtain ⟨rfl, _⟩ := (continuation?_eq_some_iff next text).mp continued
          exact inductionHypothesis (List.prefix_append errorMark text)

/-! ## Blocks of more lines -/

/-- After lines that leave no block open, the blocks of the rest begin. -/
theorem blocksOfLines_append_of_closed {lines : List (List Char)} (rest : List (List Char))
    (closed : ¬ LeaveOpen lines) :
    blocksOfLines (lines ++ rest) = blocksOfLines lines ++ blocksOfLines rest := by
  induction lines using blocksOfLines.induct with
  | case1 => simp [blocksOfLines]
  | case2 line lines unmarked inductionHypothesis =>
      have stillClosed : ¬ LeaveOpen lines := fun isOpen =>
        closed (leaveOpen_cons_iff.mpr (Or.inl isOpen))
      rw [List.cons_append, blocksOfLines, blocksOfLines, unmarked]
      exact inductionHypothesis stillClosed
  | case3 line lines body marked inductionHypothesis =>
      rw [leaveOpen_block_iff marked, not_or] at closed
      have taken := continuations_append_of_ended rest closed.1
      rw [List.cons_append, blocksOfLines, blocksOfLines, marked]
      dsimp only
      rw [taken.1, taken.2, inductionHypothesis closed.2, List.cons_append]

/-- The block that some lines leave open is their last one, and it takes in the continuations that
the rest starts with. -/
theorem exists_open_block {lines : List (List Char)} (isOpen : LeaveOpen lines) :
    ∃ (before : List Block) (last : Block), blocksOfLines lines = before ++ [last] ∧
      ∀ rest, blocksOfLines (lines ++ rest) =
        before ++ { last with details := last.details ++ continuations rest } ::
          blocksOfLines (afterContinuations rest) := by
  induction lines using blocksOfLines.induct with
  | case1 => simp [LeaveOpen] at isOpen
  | case2 line lines unmarked inductionHypothesis =>
      have notMarked := (errorBody?_eq_none_iff line).mp unmarked
      have later : LeaveOpen lines := by
        simpa [leaveOpen_cons_iff, notMarked] using isOpen
      simp only [List.cons_append, blocksOfLines, unmarked]
      exact inductionHypothesis later
  | case3 line lines body marked inductionHypothesis =>
      simp only [List.cons_append, blocksOfLines, marked]
      by_cases all : afterContinuations lines = []
      · refine ⟨[], ⟨Text.trim body, continuations lines⟩, by simp [all, blocksOfLines], ?_⟩
        intro rest
        have taken := continuations_append rest all
        rw [taken.1, taken.2, List.nil_append]
      · have later := ((leaveOpen_block_iff marked).mp isOpen).resolve_left all
        obtain ⟨before, last, split, extended⟩ := inductionHypothesis later
        refine ⟨⟨Text.trim body, continuations lines⟩ :: before, last, by simp [split], ?_⟩
        intro rest
        have taken := continuations_append_of_ended rest all
        rw [taken.1, taken.2, extended rest, List.cons_append]

/-! ## Blocks side by side -/

/-- No block goes on from some lines to others: the first ones leave none open, or the others do not
start with a continuation. -/
def AreApart (lines rest : List (List Char)) : Prop :=
  ¬ LeaveOpen lines ∨ ∀ line ∈ rest.head?, ¬ continuationMark <+: line

instance (lines rest : List (List Char)) : Decidable (AreApart lines rest) := by
  unfold AreApart LeaveOpen
  infer_instance

theorem continuations_of_head {rest : List (List Char)}
    (ended : ∀ line ∈ rest.head?, ¬ continuationMark <+: line) :
    continuations rest = [] ∧ afterContinuations rest = rest := by
  cases rest with
  | nil => exact ⟨rfl, rfl⟩
  | cons line others =>
      have stops := (continuation?_eq_none_iff line).mpr (ended line rfl)
      simp [continuations, afterContinuations, stops]

/-- Blocks of lines stand side by side exactly where no block goes on. -/
theorem blocksOfLines_append_iff (lines rest : List (List Char)) :
    blocksOfLines (lines ++ rest) = blocksOfLines lines ++ blocksOfLines rest ↔
      AreApart lines rest := by
  by_cases isOpen : LeaveOpen lines
  · obtain ⟨before, last, split, extended⟩ := exists_open_block isOpen
    rw [split, extended rest]
    constructor
    · -- A continuation has no block of its own, so there is one block less than side by side.
      intro same
      refine Or.inr fun line isFirst continues => ?_
      obtain ⟨others, rfl⟩ := List.head?_eq_some_iff.mp isFirst
      obtain ⟨text, rfl⟩ := continues
      have continued : continuation? (continuationMark ++ text) = some (' ' :: ' ' :: text) :=
        (continuation?_eq_some_iff _ _).mpr ⟨by simp [continuationMark], ⟨text, rfl⟩⟩
      have marked : errorBody? (continuationMark ++ text) = some (' ' :: ' ' :: text) :=
        errorBody?_marked _
      have counted := congrArg List.length same
      simp only [afterContinuations, continued, blocksOfLines, marked, List.length_append,
        List.length_cons, List.length_nil, Option.isSome_some, if_true] at counted
      omega
    · intro apart
      have stops := continuations_of_head (apart.resolve_left (not_not_intro isOpen))
      rw [stops.1, stops.2, List.append_nil, List.append_assoc, List.singleton_append]
  · exact iff_of_true (blocksOfLines_append_of_closed rest isOpen) (Or.inl isOpen)

/-! ## One more line -/

section OneMore

variable {lines : List (List Char)}

theorem blocksOfLines_append_silent {line : List Char} (quiet : ¬ errorMark <+: line) :
    blocksOfLines (lines ++ [line]) = blocksOfLines lines := by
  have apart : AreApart lines [line] := by
    refine Or.inr fun other isLine continues => quiet ?_
    rw [← Option.some.inj isLine] at continues
    exact (List.prefix_append errorMark [' ', ' ']).trans continues
  have none : blocksOfLines [line] = [] := (blocksOfLines_eq_nil_iff _).mpr (by simpa using quiet)
  rw [(blocksOfLines_append_iff _ _).mpr apart, none, List.append_nil]

theorem blocksOfLines_append_opening {body : List Char}
    (opens : ¬ LeaveOpen lines ∨ ¬ [' ', ' '] <+: body) :
    blocksOfLines (lines ++ [errorMark ++ body]) =
      blocksOfLines lines ++ [⟨Text.trim body, []⟩] := by
  have apart : AreApart lines [errorMark ++ body] := by
    simpa [AreApart, continuationMark, List.prefix_append_right_inj] using opens
  have single : blocksOfLines [errorMark ++ body] = [⟨Text.trim body, []⟩] := by
    simp [blocksOfLines, errorBody?_marked, continuations, afterContinuations]
  rw [(blocksOfLines_append_iff _ _).mpr apart, single]

theorem blocksOfLines_append_continuing {body : List Char} (isOpen : LeaveOpen lines)
    (indented : [' ', ' '] <+: body) :
    ∃ (before : List Block) (last : Block), blocksOfLines lines = before ++ [last] ∧
      blocksOfLines (lines ++ [errorMark ++ body]) =
        before ++ [{ last with details := last.details ++ [Text.trim body] }] := by
  obtain ⟨before, last, split, extended⟩ := exists_open_block isOpen
  have continued : continuation? (errorMark ++ body) = some body :=
    (continuation?_eq_some_iff _ _).mpr ⟨rfl, indented⟩
  have taken : continuations [errorMark ++ body] = [Text.trim body] ∧
      afterContinuations [errorMark ++ body] = [] := by
    simp [continuations, afterContinuations, continued]
  refine ⟨before, last, split, ?_⟩
  rw [extended, taken.1, taken.2, blocksOfLines]

end OneMore

/-! ## Outputs one after the other -/

/-- After a text that is empty or ends in a line feed, the lines of the next text begin. -/
theorem lines_append_of_lineFeed {first : String}
    (ended : first = "" ∨ first.toList.getLast? = some '\n') (second : String) :
    Text.lines (first ++ second).toList =
      Text.lines first.toList ++ Text.lines second.toList := by
  have feed_of_last : ∀ character ∈ first.toList.getLast?, character = '\n' := by
    intro character isLast
    cases ended with
    | inl empty => simp [empty] at isLast
    | inr feed =>
        rw [feed] at isLast
        exact (Option.some.inj isLast).symm
  rw [String.toList_append]
  apply Text.lines_append
  · intro character isLast
    rw [feed_of_last character isLast]
    decide
  · intro isReturn
    exact absurd (feed_of_last '\r' isReturn) (by decide)

/-- The diagnostic of blocks side by side is that of the first ones, if there are any. -/
theorem read_append_of_blocks {first second : String}
    (sideBySide : blocks (first ++ second) = blocks first ++ blocks second) :
    read (first ++ second) = if blocks first = [] then read second else read first := by
  unfold read
  rw [sideBySide]
  cases blocks first with
  | nil => rfl
  | cons block others => rfl

/-- After an output that is empty or ends in a line feed, the blocks of the next one stand beside its
own exactly where none goes on from one to the other. The diagnostic is then read from the first
output if it reports an error, whatever comes after it, and from the second one otherwise. -/
theorem blocks_append_iff_and_read (first second : String)
    (ended : first = "" ∨ first.toList.getLast? = some '\n') :
    (blocks (first ++ second) = blocks first ++ blocks second ↔
      AreApart (Text.lines first.toList) (Text.lines second.toList)) ∧
    (AreApart (Text.lines first.toList) (Text.lines second.toList) →
      ((∃ line ∈ Text.lines first.toList, errorMark <+: line) →
        read (first ++ second) = read first) ∧
      ((∀ line ∈ Text.lines first.toList, ¬ errorMark <+: line) →
        read (first ++ second) = read second)) := by
  have sideBySide : blocks (first ++ second) = blocks first ++ blocks second ↔
      AreApart (Text.lines first.toList) (Text.lines second.toList) := by
    unfold blocks
    rw [lines_append_of_lineFeed ended]
    exact blocksOfLines_append_iff _ _
  have silent_iff : blocks first = [] ↔ ∀ line ∈ Text.lines first.toList, ¬ errorMark <+: line :=
    blocksOfLines_eq_nil_iff _
  refine ⟨sideBySide, fun apart => ?_⟩
  rw [read_append_of_blocks (sideBySide.mpr apart)]
  constructor
  · rintro ⟨line, member, marked⟩
    exact if_neg fun silent => silent_iff.mp silent line member marked
  · intro quiet
    exact if_pos (silent_iff.mpr quiet)

/-- A located error is read from its own output when another error follows at once; indented text in
the place of the other one would be taken into its block. -/
theorem blocks_append_of_sample :
    let first := "% loading\nERROR: a.pl:1:\nERROR:    unknown\n"
    (blocks (first ++ "ERROR: b.pl:2: later\n") = blocks first ++ blocks "ERROR: b.pl:2: later\n" ∧
      read (first ++ "ERROR: b.pl:2: later\n") = read first) ∧
    blocks (first ++ "ERROR:    later\n") ≠ blocks first ++ blocks "ERROR:    later\n" := by
  intro first
  have ended : first = "" ∨ first.toList.getLast? = some '\n' := Or.inr (by decide)
  have apart : AreApart (Text.lines first.toList)
      (Text.lines "ERROR: b.pl:2: later\n".toList) := by decide
  have reports : ∃ line ∈ Text.lines first.toList, errorMark <+: line := by decide
  have joined : ¬ AreApart (Text.lines first.toList)
      (Text.lines "ERROR:    later\n".toList) := by decide
  have law := blocks_append_iff_and_read first "ERROR: b.pl:2: later\n" ended
  exact ⟨⟨law.1.mpr apart, (law.2 apart).1 reports⟩, fun same =>
    joined ((blocks_append_iff_and_read first _ ended).1.mp same)⟩

end PrologImage.Diagnostic
