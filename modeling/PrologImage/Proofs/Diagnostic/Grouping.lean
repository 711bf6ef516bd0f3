import Mathlib.Data.List.Induction
import PrologImage.Proofs.Diagnostic.Concatenation

/-!
Contract: which lines of an output make up which block.

Owns: the numbers of the lines that report errors, the groups of these numbers that go with the
blocks, and the theorem that blocks account for every such line once and in order, each block from
the line that opens it to the next such line.

Does not own: how blocks of two outputs are put together (`Proofs.Diagnostic.Concatenation`).

Lines are added one at a time at the end, where they get the next number and no other number
changes. What carries the induction is that an open block is the last one, and its group ends with
the number of the line before.
-/

namespace PrologImage.Diagnostic

/-! ## Numbered lines -/

/-- The line with a number reports an error. -/
def ReportsAt (lines : List (List Char)) (number : Nat) : Prop :=
  ∃ line ∈ lines[number]?, errorMark <+: line

instance (lines : List (List Char)) (number : Nat) : Decidable (ReportsAt lines number) := by
  unfold ReportsAt
  infer_instance

/-- What follows the mark of the line with a number. -/
def bodyAt (lines : List (List Char)) (number : Nat) : List Char :=
  (lines[number]?.getD []).drop errorMark.length

/-- A line that reports an error opens a block if there is no line before it, if that line reports
nothing, or if its own text does not start with two blanks. -/
def OpensAt (lines : List (List Char)) (number : Nat) : Prop :=
  number = 0 ∨ ¬ ReportsAt lines (number - 1) ∨ ¬ [' ', ' '] <+: bodyAt lines number

instance (lines : List (List Char)) (number : Nat) : Decidable (OpensAt lines number) := by
  unfold OpensAt
  infer_instance

/-- The numbers of the lines that report errors, in order. -/
def errorNumbers (lines : List (List Char)) : List Nat :=
  (List.range lines.length).filter (decide <| ReportsAt lines ·)

section Appended

variable {lines : List (List Char)} {line : List Char} {number : Nat}

theorem reportsAt_append (earlier : number < lines.length) :
    ReportsAt (lines ++ [line]) number ↔ ReportsAt lines number := by
  unfold ReportsAt
  rw [List.getElem?_append_left earlier]

theorem bodyAt_append (earlier : number < lines.length) :
    bodyAt (lines ++ [line]) number = bodyAt lines number := by
  unfold bodyAt
  rw [List.getElem?_append_left earlier]

theorem opensAt_append (earlier : number < lines.length) :
    OpensAt (lines ++ [line]) number ↔ OpensAt lines number := by
  have before : number - 1 < lines.length := by omega
  unfold OpensAt
  rw [reportsAt_append before, bodyAt_append earlier]

theorem reportsAt_length : ReportsAt (lines ++ [line]) lines.length ↔ errorMark <+: line := by
  simp [ReportsAt]

theorem bodyAt_length : bodyAt (lines ++ [line]) lines.length = line.drop errorMark.length := by
  simp [bodyAt]

/-- A line goes on with a block exactly when it is indented and a block is open before it. -/
theorem not_opensAt_length_iff {body : List Char} :
    ¬ OpensAt (lines ++ [errorMark ++ body]) lines.length ↔
      LeaveOpen lines ∧ [' ', ' '] <+: body := by
  unfold OpensAt
  rw [bodyAt_length, List.drop_left]
  by_cases first : lines = []
  · simp [first, LeaveOpen]
  · have positive : 0 < lines.length := List.length_pos_iff.mpr first
    have before : lines.length - 1 < lines.length := by omega
    have isOpen : ReportsAt lines (lines.length - 1) ↔ LeaveOpen lines := by
      rw [ReportsAt, LeaveOpen, List.getLast?_eq_getElem?]
    rw [reportsAt_append before, isOpen]
    simp [first]

theorem errorNumbers_append :
    errorNumbers (lines ++ [line]) =
      errorNumbers lines ++ if errorMark <+: line then [lines.length] else [] := by
  have earlier : (List.range lines.length).filter (decide <| ReportsAt (lines ++ [line]) ·) =
      errorNumbers lines := by
    apply List.filter_congr
    intro number member
    rw [decide_eq_decide]
    exact reportsAt_append (List.mem_range.mp member)
  rw [errorNumbers, List.length_append, List.length_singleton, List.range_succ,
    List.filter_append, earlier]
  congr 1
  by_cases marked : errorMark <+: line <;> simp [reportsAt_length, marked]

end Appended

theorem mem_errorNumbers_iff {lines : List (List Char)} {number : Nat} :
    number ∈ errorNumbers lines ↔ ReportsAt lines number := by
  simp only [errorNumbers, List.mem_filter, List.mem_range, decide_eq_true_eq,
    and_iff_right_iff_imp]
  rintro ⟨line, isLine, _⟩
  exact (List.getElem?_eq_some_iff.mp isLine).1

/-! ## Groups of lines -/

/-- Groups of line numbers that go with blocks: each group has the lines of its block, all lines
that report errors are in the groups once and in order, the first line of a group opens its block,
and every other one goes on with the line before it. -/
structure IsGrouping (lines : List (List Char)) (blocks : List Block) (groups : List (List Nat)) :
    Prop where
  texts : blocks.map Block.texts =
    groups.map (List.map fun number => Text.trim (bodyAt lines number))
  complete : groups.flatten = errorNumbers lines
  opening : ∀ group ∈ groups, ∀ number ∈ group.head?, OpensAt lines number
  continuing : ∀ group ∈ groups, ∀ number ∈ group.tail,
    ¬ OpensAt lines number ∧ number - 1 ∈ group

namespace IsGrouping

variable {lines : List (List Char)} {blocks : List Block} {groups : List (List Nat)}

theorem reportsAt (grouping : IsGrouping lines blocks groups) {group : List Nat} {number : Nat}
    (isGroup : group ∈ groups) (member : number ∈ group) : ReportsAt lines number := by
  rw [← mem_errorNumbers_iff, ← grouping.complete]
  exact List.mem_flatten_of_mem isGroup member

theorem lt_length (grouping : IsGrouping lines blocks groups) {group : List Nat} {number : Nat}
    (isGroup : group ∈ groups) (member : number ∈ group) : number < lines.length := by
  have numbered := mem_errorNumbers_iff.mpr (grouping.reportsAt isGroup member)
  exact List.mem_range.mp (List.mem_of_mem_filter numbered)

/-- No group is empty, because no block is. -/
theorem ne_nil (grouping : IsGrouping lines blocks groups) {group : List Nat}
    (isGroup : group ∈ groups) : group ≠ [] := by
  rintro rfl
  have empty : [] ∈ blocks.map Block.texts := by
    rw [grouping.texts]
    exact List.mem_map.mpr ⟨[], isGroup, rfl⟩
  simp [Block.texts] at empty

/-- One more line changes nothing for the groups of the lines before it. -/
theorem texts_append (grouping : IsGrouping lines blocks groups) (line : List Char) :
    groups.map (List.map fun number => Text.trim (bodyAt (lines ++ [line]) number)) =
      groups.map (List.map fun number => Text.trim (bodyAt lines number)) := by
  apply List.map_congr_left
  intro group isGroup
  apply List.map_congr_left
  intro number member
  rw [bodyAt_append (grouping.lt_length isGroup member)]

theorem opening_append (grouping : IsGrouping lines blocks groups) (line : List Char) :
    ∀ group ∈ groups, ∀ number ∈ group.head?, OpensAt (lines ++ [line]) number := by
  intro group isGroup number isFirst
  rw [opensAt_append (grouping.lt_length isGroup (List.mem_of_head? isFirst))]
  exact grouping.opening group isGroup number isFirst

theorem continuing_append (grouping : IsGrouping lines blocks groups) (line : List Char) :
    ∀ group ∈ groups, ∀ number ∈ group.tail,
      ¬ OpensAt (lines ++ [line]) number ∧ number - 1 ∈ group := by
  intro group isGroup number member
  rw [opensAt_append (grouping.lt_length isGroup (List.mem_of_mem_tail member))]
  exact grouping.continuing group isGroup number member

/-- A line that reports nothing belongs to no block. -/
theorem silent (grouping : IsGrouping lines blocks groups) {line : List Char}
    (quiet : ¬ errorMark <+: line) : IsGrouping (lines ++ [line]) blocks groups where
  texts := grouping.texts.trans (grouping.texts_append line).symm
  complete := by rw [errorNumbers_append, if_neg quiet, List.append_nil, grouping.complete]
  opening := grouping.opening_append line
  continuing := grouping.continuing_append line

/-- A line that opens a block has a group of its own. -/
theorem opened (grouping : IsGrouping lines blocks groups) {body : List Char}
    (opens : OpensAt (lines ++ [errorMark ++ body]) lines.length) :
    IsGrouping (lines ++ [errorMark ++ body]) (blocks ++ [⟨Text.trim body, []⟩])
      (groups ++ [[lines.length]]) where
  texts := by
    rw [List.map_append, List.map_append, grouping.texts_append, grouping.texts]
    simp [Block.texts, bodyAt_length]
  complete := by
    rw [errorNumbers_append, if_pos (List.prefix_append errorMark body), ← grouping.complete]
    simp
  opening := by
    intro group isGroup
    rcases List.mem_append.mp isGroup with earlier | new
    · exact grouping.opening_append _ group earlier
    · simpa [List.mem_singleton.mp new] using opens
  continuing := by
    intro group isGroup
    rcases List.mem_append.mp isGroup with earlier | new
    · exact grouping.continuing_append _ group earlier
    · simp [List.mem_singleton.mp new]

/-- The line before one that goes on with a block is the last one in its group. -/
theorem before_mem {group : List Nat} {front : List (List Nat)}
    (grouping : IsGrouping lines blocks (front ++ [group])) (isOpen : LeaveOpen lines) :
    lines.length - 1 ∈ group := by
  obtain ⟨last, isLast, marked⟩ := isOpen
  obtain ⟨earlier, rfl⟩ := List.getLast?_eq_some_iff.mp isLast
  have lastNumber : (front ++ [group]).flatten.getLast? = some earlier.length := by
    rw [grouping.complete, errorNumbers_append, if_pos marked]
    simp
  have present : group ≠ [] := grouping.ne_nil (by simp)
  rw [List.flatten_append, List.flatten_singleton, List.getLast?_append_of_ne_nil _ present]
    at lastNumber
  simpa using List.mem_of_getLast? lastNumber

/-- The last block has the last group. -/
theorem exists_last {before : List Block} {last : Block}
    (grouping : IsGrouping lines (before ++ [last]) groups) :
    ∃ front group, groups = front ++ [group] := by
  have texts := grouping.texts
  rw [List.map_append, List.map_singleton, eq_comm, List.map_eq_append_iff] at texts
  obtain ⟨front, final, split, -, lastTexts⟩ := texts
  obtain ⟨group, rfl, -⟩ := List.map_eq_singleton_iff.mp lastTexts
  exact ⟨front, group, split⟩

/-- A line that goes on with the open block joins the last group. -/
theorem joined {before : List Block} {last : Block} {front : List (List Nat)} {group : List Nat}
    (grouping : IsGrouping lines (before ++ [last]) (front ++ [group])) {body : List Char}
    (continues : ¬ OpensAt (lines ++ [errorMark ++ body]) lines.length) :
    IsGrouping (lines ++ [errorMark ++ body])
      (before ++ [{ last with details := last.details ++ [Text.trim body] }])
      (front ++ [group ++ [lines.length]]) where
  texts := by
    have texts := grouping.texts.trans (grouping.texts_append (errorMark ++ body)).symm
    rw [List.map_append, List.map_append] at texts ⊢
    have parts := List.append_inj' texts rfl
    have lastTexts := List.singleton_inj.mp parts.2
    rw [parts.1]
    simp [Block.texts, bodyAt_length, ← lastTexts]
  complete := by
    rw [errorNumbers_append, if_pos (List.prefix_append errorMark body), ← grouping.complete]
    simp
  opening := by
    intro other isGroup number isFirst
    have earlier := grouping.opening_append (errorMark ++ body)
    rcases List.mem_append.mp isGroup with inFront | isLast
    · exact earlier other (List.mem_append_left _ inFront) number isFirst
    · have present : group ≠ [] := grouping.ne_nil (by simp)
      rw [List.mem_singleton.mp isLast, List.head?_append_of_ne_nil _ present] at isFirst
      exact earlier group (by simp) number isFirst
  continuing := by
    intro other isGroup number member
    have earlier := grouping.continuing_append (errorMark ++ body)
    rcases List.mem_append.mp isGroup with inFront | isLast
    · exact earlier other (List.mem_append_left _ inFront) number member
    · have present : group ≠ [] := grouping.ne_nil (by simp)
      rw [List.mem_singleton.mp isLast] at member ⊢
      rw [List.tail_append_of_ne_nil present] at member
      rcases List.mem_append.mp member with inGroup | isNew
      · have kept := earlier group (by simp) number inGroup
        exact ⟨kept.1, List.mem_append_left _ kept.2⟩
      · have isOpen := (not_opensAt_length_iff.mp continues).1
        rw [List.mem_singleton.mp isNew]
        exact ⟨continues, List.mem_append_left _ (grouping.before_mem isOpen)⟩

theorem head_or_tail (grouping : IsGrouping lines blocks groups) {number : Nat}
    (reports : ReportsAt lines number) :
    ∃ group ∈ groups, group.head? = some number ∨ number ∈ group.tail := by
  rw [← mem_errorNumbers_iff, ← grouping.complete] at reports
  obtain ⟨group, isGroup, member⟩ := List.mem_flatten.mp reports
  refine ⟨group, isGroup, ?_⟩
  cases group with
  | nil => exact absurd member List.not_mem_nil
  | cons first others => simpa [eq_comm] using member

/-- The lines that open blocks are the first ones in their groups. -/
theorem head_iff_opensAt (grouping : IsGrouping lines blocks groups) {number : Nat}
    (reports : ReportsAt lines number) :
    (∃ group ∈ groups, group.head? = some number) ↔ OpensAt lines number := by
  constructor
  · rintro ⟨group, isGroup, isFirst⟩
    exact grouping.opening group isGroup number isFirst
  · intro opens
    obtain ⟨group, isGroup, isFirst | later⟩ := grouping.head_or_tail reports
    · exact ⟨group, isGroup, isFirst⟩
    · exact absurd opens (grouping.continuing group isGroup number later).1

/-- Every other line that reports an error has the line before it in its group. -/
theorem mem_with_previous (grouping : IsGrouping lines blocks groups) {number : Nat}
    (reports : ReportsAt lines number) (continues : ¬ OpensAt lines number) :
    ∃ group ∈ groups, number - 1 ∈ group ∧ number ∈ group := by
  obtain ⟨group, isGroup, isFirst | later⟩ := grouping.head_or_tail reports
  · exact absurd (grouping.opening group isGroup number isFirst) continues
  · have previous := (grouping.continuing group isGroup number later).2
    exact ⟨group, isGroup, previous, List.mem_of_mem_tail later⟩

end IsGrouping

/-- The blocks of any lines go with groups of their numbers. -/
theorem exists_grouping (lines : List (List Char)) :
    ∃ groups, IsGrouping lines (blocksOfLines lines) groups := by
  induction lines using List.reverseRecOn with
  | nil => exact ⟨[], by simp [blocksOfLines], rfl, by simp, by simp⟩
  | append_singleton lines line inductionHypothesis =>
      obtain ⟨groups, grouping⟩ := inductionHypothesis
      by_cases quiet : ¬ errorMark <+: line
      · rw [blocksOfLines_append_silent quiet]
        exact ⟨groups, grouping.silent quiet⟩
      · obtain ⟨body, rfl⟩ := not_not.mp quiet
        by_cases opens : OpensAt (lines ++ [errorMark ++ body]) lines.length
        · have notBoth := mt not_opensAt_length_iff.mpr (not_not_intro opens)
          rw [blocksOfLines_append_opening (not_and_or.mp notBoth)]
          exact ⟨_, grouping.opened opens⟩
        · have continues := not_opensAt_length_iff.mp opens
          obtain ⟨before, last, split, extended⟩ :=
            blocksOfLines_append_continuing continues.1 continues.2
          rw [split] at grouping
          rw [extended]
          obtain ⟨front, group, rfl⟩ := grouping.exists_last
          exact ⟨_, grouping.joined opens⟩

/-! ## The account -/

/-- The numbered lines that report errors are those lines. -/
theorem map_errorNumbers {value : Type} (content : List Char → value)
    (lines : List (List Char)) :
    (errorNumbers lines).map (fun number => content (lines[number]?.getD [])) =
      (lines.filter (errorMark <+: ·)).map content := by
  have numbered : (List.range lines.length).map (fun number => lines[number]?.getD []) = lines := by
    apply List.ext_getElem
    · simp
    · intro number inRange bound
      simp [bound]
  have marked : (errorNumbers lines).map (fun number => lines[number]?.getD []) =
      lines.filter (errorMark <+: ·) := by
    conv_rhs => rw [← numbered, List.filter_map]
    apply congrArg
    apply List.filter_congr
    intro number member
    show decide (ReportsAt lines number) = decide (errorMark <+: lines[number]?.getD [])
    simp [ReportsAt, List.getElem?_eq_getElem (List.mem_range.mp member)]
  rw [← marked, List.map_map]
  rfl

/-- The blocks of an output account for its lines that report errors. No block is empty; together
they have the texts after the marks of all these lines, once and in order; and such a line opens a
block, or else it is in the block of the line before it, by the rule for that. -/
theorem blocks_account_for_errors (output : String) :
    (∀ block ∈ blocks output, block.texts ≠ []) ∧
    (blocks output).flatMap Block.texts =
      ((Text.lines output.toList).filter (errorMark <+: ·)).map
        (fun line => Text.trim (line.drop errorMark.length)) ∧
    ∃ groups : List (List Nat),
      (blocks output).map Block.texts = groups.map (List.map fun number =>
        Text.trim (bodyAt (Text.lines output.toList) number)) ∧
      groups.flatten = errorNumbers (Text.lines output.toList) ∧
      ∀ number, ReportsAt (Text.lines output.toList) number →
        ((∃ group ∈ groups, group.head? = some number) ↔
          OpensAt (Text.lines output.toList) number) ∧
        (¬ OpensAt (Text.lines output.toList) number →
          ∃ group ∈ groups, number - 1 ∈ group ∧ number ∈ group) := by
  obtain ⟨groups, grouping⟩ := exists_grouping (Text.lines output.toList)
  refine ⟨fun block _ => List.cons_ne_nil _ _, ?_, groups, grouping.texts, grouping.complete, ?_⟩
  · rw [List.flatMap_def, blocks, grouping.texts, ← List.map_flatten, grouping.complete]
    exact map_errorNumbers (fun line => Text.trim (line.drop errorMark.length)) _
  · intro number reports
    exact ⟨grouping.head_iff_opensAt reports, grouping.mem_with_previous reports⟩

example : (blocks "ERROR: a\nERROR:   b\nERROR: c\n% d\nERROR:   e\n").map Block.texts =
    [["a".toList, "b".toList], ["c".toList], ["e".toList]] := by decide +kernel

end PrologImage.Diagnostic
