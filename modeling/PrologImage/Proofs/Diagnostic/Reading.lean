import Mathlib.Data.List.TakeWhile
import Mathlib.Data.Nat.Find
import PrologImage.Proofs.Diagnostic.ErrorLines

/-!
Contract: what the interpreter's output says, apart from any way of reading it.

Owns: the first block among lines, the places at which a header can be divided and the first of
them, the reading of an output said in these terms, and the theorem that this is what is read.

Does not own: how a report is written (`Proofs.Diagnostic.LocatedReport`).

The reader looks for a location from the left, takes all digits that it meets and never goes back.
That it misses nothing rests on the colon not being a digit: a place determines its digits.
-/

namespace PrologImage.Diagnostic

/-! ## The first block -/

/-- What a line that continues a block starts with. -/
def continuationMark : List Char := errorMark ++ [' ', ' ']

/-- The first line that reports an error and all lines right after it that continue its block: the
texts after their marks, without the blanks around them. -/
inductive IsFirstBlock : List (List Char) → Block → Prop
  | intro {before after continuing : List (List Char)} {body : List Char} :
      (∀ line ∈ before, ¬ errorMark <+: line) →
      (∀ text ∈ continuing, [' ', ' '] <+: text) →
      (∀ line ∈ after.head?, ¬ continuationMark <+: line) →
      IsFirstBlock (before ++ (errorMark ++ body) :: (continuing.map (errorMark ++ ·) ++ after))
        ⟨Text.trim body, continuing.map Text.trim⟩

theorem errorBody?_marked (body : List Char) : errorBody? (errorMark ++ body) = some body :=
  (afterStart?_eq_some_iff _ _ _).mpr rfl

theorem isIndented_iff (body : List Char) : isIndented body = true ↔ [' ', ' '] <+: body := by
  constructor
  · intro indented
    unfold isIndented at indented
    split at indented
    · exact ⟨_, rfl⟩
    · cases indented
  · rintro ⟨rest, rfl⟩
    rfl

theorem continuation?_eq_some_iff (line body : List Char) :
    continuation? line = some body ↔ line = errorMark ++ body ∧ [' ', ' '] <+: body := by
  rw [← isIndented_iff, ← afterStart?_eq_some_iff]
  change _ ↔ errorBody? line = some body ∧ _
  unfold continuation?
  cases errorBody? line with
  | none => simp
  | some found =>
      constructor
      · intro continued
        dsimp only at continued
        split at continued
        · rename_i indented
          cases continued
          exact ⟨rfl, indented⟩
        · cases continued
      · rintro ⟨⟨⟩, indented⟩
        exact if_pos indented

theorem continuation?_eq_none_iff (line : List Char) :
    continuation? line = none ↔ ¬ continuationMark <+: line := by
  rw [Option.eq_none_iff_forall_ne_some]
  constructor
  · rintro none ⟨rest, rfl⟩
    refine none ([' ', ' '] ++ rest) ((continuation?_eq_some_iff _ _).mpr ⟨?_, ⟨rest, rfl⟩⟩)
    rw [continuationMark, List.append_assoc]
  · rintro notMarked body continued
    obtain ⟨rfl, rest, rfl⟩ := (continuation?_eq_some_iff _ _).mp continued
    exact notMarked ⟨rest, by rw [continuationMark, List.append_assoc]⟩

/-- The continuations are the texts of the lines that continue a block. -/
theorem continuations_marked {continuing after : List (List Char)}
    (indented : ∀ text ∈ continuing, [' ', ' '] <+: text)
    (ended : ∀ line ∈ after.head?, ¬ continuationMark <+: line) :
    continuations (continuing.map (errorMark ++ ·) ++ after) = continuing.map Text.trim := by
  induction continuing with
  | nil =>
      cases after with
      | nil => rfl
      | cons line rest =>
          have stops := (continuation?_eq_none_iff line).mpr (ended line rfl)
          rw [List.map_nil, List.nil_append, continuations, stops]
          rfl
  | cons text continuing inductionHypothesis =>
      obtain ⟨first, others⟩ := List.forall_mem_cons.mp indented
      have continues : continuation? (errorMark ++ text) = some text :=
        (continuation?_eq_some_iff _ _).mpr ⟨rfl, first⟩
      rw [List.map_cons, List.cons_append, continuations, continues]
      exact congrArg _ (inductionHypothesis others)

/-- Lines start with the ones that continue a block, maybe none. -/
theorem exists_continuing (lines : List (List Char)) :
    ∃ continuing after : List (List Char), lines = continuing.map (errorMark ++ ·) ++ after ∧
      (∀ text ∈ continuing, [' ', ' '] <+: text) ∧
      ∀ line ∈ after.head?, ¬ continuationMark <+: line := by
  induction lines with
  | nil => exact ⟨[], [], rfl, by simp, by simp⟩
  | cons line rest inductionHypothesis =>
      cases continued : continuation? line with
      | none =>
          refine ⟨[], line :: rest, rfl, by simp, ?_⟩
          rintro _ ⟨⟩
          exact (continuation?_eq_none_iff line).mp continued
      | some body =>
          obtain ⟨rfl, indented⟩ := (continuation?_eq_some_iff _ _).mp continued
          obtain ⟨continuing, after, rfl, others, ended⟩ := inductionHypothesis
          exact ⟨body :: continuing, after, rfl, List.forall_mem_cons.mpr ⟨indented, others⟩, ended⟩

theorem exists_firstBlock {lines : List (List Char)}
    (reports : ∃ line ∈ lines, errorMark <+: line) :
    ∃ block, IsFirstBlock lines block := by
  induction lines with
  | nil => simp at reports
  | cons line rest inductionHypothesis =>
      by_cases marked : errorMark <+: line
      · obtain ⟨body, rfl⟩ := marked
        obtain ⟨continuing, after, rfl, indented, ended⟩ := exists_continuing rest
        exact ⟨_, .intro (List.forall_mem_nil _) indented ended⟩
      · have later : ∃ other ∈ rest, errorMark <+: other := by simpa [marked] using reports
        obtain ⟨_, ⟨quiet, indented, ended⟩⟩ := inductionHypothesis later
        exact ⟨_, .intro (List.forall_mem_cons.mpr ⟨marked, quiet⟩) indented ended⟩

/-- The block that is collected first is the first one. -/
theorem head?_blocksOfLines {lines : List (List Char)} {block : Block}
    (first : IsFirstBlock lines block) : (blocksOfLines lines).head? = some block := by
  obtain @⟨before, after, continuing, body, quiet, indented, ended⟩ := first
  induction before with
  | nil =>
      rw [List.nil_append, blocksOfLines, errorBody?_marked, continuations_marked indented ended]
      rfl
  | cons line before inductionHypothesis =>
      obtain ⟨notMarked, others⟩ := List.forall_mem_cons.mp quiet
      rw [List.cons_append, blocksOfLines, (errorBody?_eq_none_iff line).mpr notMarked]
      exact inductionHypothesis others

/-! ## Locations -/

/-- A run of decimal digits, of any script. -/
def IsNumeral (digits : List Char) : Prop :=
  digits ≠ [] ∧ ∀ digit ∈ digits, Text.isDigit digit

/-- A header divided into a file, a colon, a numeral, a colon and a rest. -/
structure IsDivided (header file digits rest : List Char) : Prop where
  text : header = file ++ ':' :: (digits ++ ':' :: rest)
  named : file ≠ []
  numbered : IsNumeral digits

/-- A header divided after the shortest file. -/
structure IsFirstDivision (header file digits rest : List Char) : Prop
    extends IsDivided header file digits rest where
  shortest : ∀ other numeral later, IsDivided header other numeral later →
    file.length ≤ other.length

/-- A text and what is left of it without a numeral and its colon at the start. -/
inductive WithoutColumn : List Char → List Char → Prop
  | column {digits text : List Char} : IsNumeral digits →
      WithoutColumn (digits ++ ':' :: text) text
  | noColumn {text : List Char} :
      (∀ digits later, IsNumeral digits → text ≠ digits ++ ':' :: later) → WithoutColumn text text

theorem takeWhile_isDigit {digits : List Char} (decimal : ∀ digit ∈ digits, Text.isDigit digit)
    (rest : List Char) :
    (digits ++ ':' :: rest).takeWhile Text.isDigit = digits ∧
      (digits ++ ':' :: rest).dropWhile Text.isDigit = ':' :: rest := by
  have colon : ¬ Text.isDigit ':' := by decide
  constructor
  · rw [List.takeWhile_append_of_pos decimal, List.takeWhile_cons_of_neg colon, List.append_nil]
  · rw [List.dropWhile_append_of_pos decimal, List.dropWhile_cons_of_neg colon]

theorem digitsThenColon?_eq_some_iff (characters digits rest : List Char) :
    digitsThenColon? characters = some (digits, rest) ↔
      characters = digits ++ ':' :: rest ∧ IsNumeral digits := by
  constructor
  · intro found
    unfold digitsThenColon? at found
    split at found
    · cases found
    · rename_i present
      split at found
      · rename_i later colon
        cases found
        refine ⟨?_, present, fun digit => List.mem_takeWhile_imp⟩
        rw [← colon, List.takeWhile_append_dropWhile]
      · cases found
  · rintro ⟨rfl, present, decimal⟩
    obtain ⟨taken, dropped⟩ := takeWhile_isDigit decimal rest
    rw [digitsThenColon?, taken, dropped, if_neg present]
    rfl

theorem digitsThenColon?_eq_none_iff (characters : List Char) :
    digitsThenColon? characters = none ↔
      ∀ digits rest, IsNumeral digits → characters ≠ digits ++ ':' :: rest := by
  rw [Option.eq_none_iff_forall_ne_some]
  constructor
  · intro absent digits rest isNumeral split
    exact absent (digits, rest) ((digitsThenColon?_eq_some_iff _ _ _).mpr ⟨split, isNumeral⟩)
  · rintro absent ⟨digits, rest⟩ found
    obtain ⟨split, isNumeral⟩ := (digitsThenColon?_eq_some_iff _ _ _).mp found
    exact absent digits rest isNumeral split

theorem messageAfterMark_eq {rest text : List Char} (without : WithoutColumn rest text) :
    messageAfterMark rest = Text.trimStart text := by
  unfold messageAfterMark
  cases without with
  | column isNumeral => rw [(digitsThenColon?_eq_some_iff _ _ _).mpr ⟨rfl, isNumeral⟩]
  | noColumn absent => rw [(digitsThenColon?_eq_none_iff _).mpr absent]

theorem exists_withoutColumn (rest : List Char) : ∃ text, WithoutColumn rest text := by
  cases found : digitsThenColon? rest with
  | none => exact ⟨rest, .noColumn ((digitsThenColon?_eq_none_iff rest).mp found)⟩
  | some split =>
      obtain ⟨rfl, isNumeral⟩ := (digitsThenColon?_eq_some_iff rest split.1 split.2).mp found
      exact ⟨split.2, .column isNumeral⟩

theorem lineMark?_eq_some_iff (characters digits rest : List Char) :
    lineMark? characters = some (digits, rest) ↔
      characters = ':' :: (digits ++ ':' :: rest) ∧ IsNumeral digits := by
  constructor
  · intro found
    unfold lineMark? at found
    split at found
    · rename_i after
      obtain ⟨rfl, isNumeral⟩ := (digitsThenColon?_eq_some_iff _ _ _).mp found
      exact ⟨rfl, isNumeral⟩
    · cases found
  · rintro ⟨rfl, isNumeral⟩
    exact (digitsThenColon?_eq_some_iff _ _ _).mpr ⟨rfl, isNumeral⟩

/-- A header is divided right after its first character or further on. -/
theorem isDivided_cons_iff {character : Char} {header file digits rest : List Char} :
    IsDivided (character :: header) file digits rest ↔
      file = [character] ∧ lineMark? header = some (digits, rest) ∨
      ∃ front, file = character :: front ∧ IsDivided header front digits rest := by
  rw [lineMark?_eq_some_iff]
  constructor
  · rintro ⟨text, named, numbered⟩
    obtain ⟨first, front, rfl⟩ := List.exists_cons_of_ne_nil named
    rw [List.cons_append, List.cons.injEq] at text
    obtain ⟨rfl, text⟩ := text
    by_cases here : front = []
    · rw [here, List.nil_append] at text
      exact Or.inl ⟨by rw [here], text, numbered⟩
    · exact Or.inr ⟨front, rfl, text, here, numbered⟩
  · rintro (⟨rfl, rfl, numbered⟩ | ⟨front, rfl, rfl, _, numbered⟩)
    · exact ⟨rfl, by simp, numbered⟩
    · exact ⟨rfl, by simp, numbered⟩

/-- No location is found exactly in a header that cannot be divided. -/
theorem locate?_eq_none_iff (header : List Char) :
    locate? header = none ↔ ∀ file digits rest, ¬ IsDivided header file digits rest := by
  induction header with
  | nil =>
      refine iff_of_true rfl ?_
      rintro file digits rest ⟨text, _, _⟩
      simp at text
  | cons character header inductionHypothesis =>
      rw [locate?]
      cases mark : lineMark? header with
      | some found =>
          refine iff_of_false (by simp) fun undivided => ?_
          exact undivided [character] found.1 found.2 (isDivided_cons_iff.mpr (Or.inl ⟨rfl, mark⟩))
      | none =>
          simp only [Option.map_eq_none_iff, inductionHypothesis, isDivided_cons_iff, mark,
            reduceCtorEq, and_false, false_or]
          constructor
          · rintro undivided _ digits rest ⟨front, rfl, divided⟩
            exact undivided front digits rest divided
          · intro undivided front digits rest divided
            exact undivided (character :: front) digits rest ⟨front, rfl, divided⟩

/-- The location that is found is the first one. -/
theorem locate?_eq_some {header file digits rest text : List Char}
    (first : IsFirstDivision header file digits rest) (without : WithoutColumn rest text) :
    locate? header = some ⟨file, digits, Text.trimStart text⟩ := by
  induction header generalizing file with
  | nil =>
      have empty := first.text
      simp at empty
  | cons character header inductionHypothesis =>
      rw [locate?]
      rcases isDivided_cons_iff.mp first.toIsDivided with ⟨rfl, mark⟩ | ⟨front, rfl, divided⟩
      · rw [mark]
        exact congrArg _ (congrArg _ (messageAfterMark_eq without))
      · -- A mark right after the first character would divide the header after a shorter file.
        have noMark : lineMark? header = none := by
          rw [Option.eq_none_iff_forall_ne_some]
          rintro ⟨numeral, later⟩ mark
          have shorter := first.shortest [character] numeral later
            (isDivided_cons_iff.mpr (Or.inl ⟨rfl, mark⟩))
          exact divided.named (by simpa using shorter)
        have shortest : ∀ other numeral later, IsDivided header other numeral later →
            front.length ≤ other.length := by
          intro other numeral later otherDivided
          have longer := first.shortest (character :: other) numeral later
            (isDivided_cons_iff.mpr (Or.inr ⟨other, rfl, otherDivided⟩))
          simpa using longer
        rw [noMark, inductionHypothesis ⟨divided, shortest⟩]
        rfl

theorem exists_firstDivision {header file digits rest : List Char}
    (divided : IsDivided header file digits rest) :
    ∃ first numeral later, IsFirstDivision header first numeral later := by
  classical
  have some : ∃ length first numeral later, IsDivided header first numeral later ∧
      first.length = length := ⟨_, file, digits, rest, divided, rfl⟩
  obtain ⟨first, numeral, later, firstDivided, isLength⟩ := Nat.find_spec some
  refine ⟨first, numeral, later, firstDivided, fun other digits rest otherDivided => ?_⟩
  rw [isLength]
  exact Nat.find_min' some ⟨other, digits, rest, otherDivided, rfl⟩

/-! ## The reading -/

/-- The texts that have characters. -/
def nonempty (texts : List (List Char)) : List (List Char) :=
  texts.filter (· ≠ [])

/-- The whole text of a block in one line. -/
def wholeText (block : Block) : List Char :=
  Text.trim (List.intercalate [' '] (block.header :: nonempty block.details))

/-- The message of a block whose header has some text after its location. -/
def messageText (block : Block) (text : List Char) : List Char :=
  List.intercalate [' '] (nonempty (Text.trimStart text :: block.details))

/-- What a block means: its whole text is the error, located where its header is first divided, if it
can be divided; the message is what comes after the location, or the whole text when nothing does. A
numeral with too many digits is no line number. -/
inductive Block.Means (block : Block) : Except OverlongNumeral Diagnostic → Prop
  | bare : (∀ file digits rest, ¬ IsDivided block.header file digits rest) →
      Block.Means block (.ok (.bare (String.ofList (wholeText block))))
  | located {file digits rest text : List Char} :
      IsFirstDivision block.header file digits rest →
      WithoutColumn rest text →
      digits.length ≤ Text.numeralDigitLimit →
      Block.Means block (.ok {
        message := String.ofList
          (if messageText block text = [] then wholeText block else messageText block text)
        file := some (String.ofList file)
        line := some (Text.numeralValue digits)
        raw := String.ofList (wholeText block) })
  | overlong {file digits rest : List Char} :
      IsFirstDivision block.header file digits rest →
      Text.numeralDigitLimit < digits.length →
      Block.Means block (.error ⟨digits.length⟩)

/-- What an output says: nothing without a line that reports an error, and otherwise what its first
block means. Nothing else in the output counts. -/
inductive Reading (output : String) : Except OverlongNumeral (Option Diagnostic) → Prop
  | silent : (∀ line ∈ Text.lines output.toList, ¬ errorMark <+: line) → Reading output (.ok none)
  | reports {block : Block} {meaning : Except OverlongNumeral Diagnostic} :
      IsFirstBlock (Text.lines output.toList) block → block.Means meaning →
      Reading output (meaning.map some)

/-- What a block means is what is read from it. -/
theorem Block.read_of_means {block : Block} {meaning : Except OverlongNumeral Diagnostic}
    (means : block.Means meaning) : block.read = meaning := by
  unfold Block.read
  cases means with
  | bare undivided =>
      rw [(locate?_eq_none_iff _).mpr undivided]
      rfl
  | located division without short =>
      rw [locate?_eq_some division without]
      dsimp only
      rw [if_neg (Nat.not_lt.mpr short)]
      rfl
  | @overlong _ _ rest division long =>
      obtain ⟨text, without⟩ := exists_withoutColumn rest
      rw [locate?_eq_some division without]
      exact if_pos long

theorem Block.exists_means (block : Block) : ∃ meaning, block.Means meaning := by
  by_cases divided : ∃ file digits rest, IsDivided block.header file digits rest
  · obtain ⟨_, _, _, isDivided⟩ := divided
    obtain ⟨file, digits, rest, division⟩ := exists_firstDivision isDivided
    obtain ⟨text, without⟩ := exists_withoutColumn rest
    by_cases short : digits.length ≤ Text.numeralDigitLimit
    · exact ⟨_, .located division without short⟩
    · exact ⟨_, .overlong division (Nat.not_le.mp short)⟩
  · refine ⟨_, .bare fun file digits rest isDivided => ?_⟩
    exact divided ⟨file, digits, rest, isDivided⟩

/-- What an output says is what is read from it. -/
theorem read_of_reading {output : String} {result : Except OverlongNumeral (Option Diagnostic)}
    (reading : Reading output result) : read output = result := by
  cases reading with
  | silent quiet => exact (read_eq_ok_none_iff output).mpr quiet
  | reports first means =>
      rw [read, blocks, head?_blocksOfLines first, ← Block.read_of_means means]

/-- Every output says something, if only that there is nothing to report. -/
theorem exists_reading (output : String) : ∃ result, Reading output result := by
  by_cases reports : ∃ line ∈ Text.lines output.toList, errorMark <+: line
  · obtain ⟨block, first⟩ := exists_firstBlock reports
    obtain ⟨meaning, means⟩ := block.exists_means
    exact ⟨_, .reports first means⟩
  · exact ⟨_, .silent fun line member marked => reports ⟨line, member, marked⟩⟩

/-- What is read from an output is exactly what it says: nothing when no line reports an error, and
otherwise the first block alone, divided at its first location. A numeral with too many digits, and
nothing else, stops the reading. -/
theorem read_eq_iff_reading (output : String)
    (result : Except OverlongNumeral (Option Diagnostic)) :
    read output = result ↔ Reading output result := by
  constructor
  · rintro rfl
    obtain ⟨result, reading⟩ := exists_reading output
    rwa [read_of_reading reading]
  · exact read_of_reading

end PrologImage.Diagnostic
