import PrologImage.Proofs.Diagnostic.Reading
import PrologImage.Proofs.Text.Blank
import PrologImage.Proofs.Text.Digit

/-!
Contract: the lines printed for an error can be read back, whatever the interpreter printed.

Owns: a reader of the three lines of a located error, what is printed exactly for such an error, the
fields of a diagnostic that was read from an output, and the theorem about its report.

Does not own: which diagnostic is read from an output (`Proofs.Diagnostic.Reading`).

The fields are pieces of lines of the output. A line has no boundary in it, and neither has a piece
of one, nor pieces joined by blanks.
-/

namespace PrologImage.Diagnostic

/-! ## A reader of reports -/

/-- What the first line of a report starts with. -/
def messageWord : String := "ERROR: "

def fileWord : String := "  in file "

def lineWord : String := "  detected on line "

/-- The text of a line after the words that it starts with. -/
def afterWord? (word line : String) : Option String :=
  (afterStart? word.toList line.toList).map String.ofList

/-- The number that a plain decimal text stands for. -/
def plainNumber? (text : String) : Option Nat :=
  if Text.IsPlainDecimal text.toList then some (Text.numeralValue text.toList) else none

/-- Reads the message, the file and the line number back from the lines of a located report. -/
def readReport? : List String → Option (String × String × Nat)
  | [first, second, third] => do
      let message ← afterWord? messageWord first
      let file ← afterWord? fileWord second
      let number ← (afterWord? lineWord third).bind plainNumber?
      return (message, file, number)
  | _ => none

theorem afterWord?_eq_some_iff (word line rest : String) :
    afterWord? word line = some rest ↔ line = word ++ rest := by
  rw [afterWord?, Option.map_eq_some_iff]
  constructor
  · rintro ⟨characters, found, rfl⟩
    rw [← String.toList_inj, String.toList_append, String.toList_ofList]
    exact (afterStart?_eq_some_iff _ _ _).mp found
  · rintro rfl
    exact ⟨rest.toList, (afterStart?_eq_some_iff _ _ _).mpr String.toList_append,
      String.ofList_toList⟩

theorem plainNumber?_eq_some_iff (text : String) (number : Nat) :
    plainNumber? text = some number ↔ text = toString number := by
  have digits : (toString number).toList = Nat.toDigits 10 number := by simp
  rw [plainNumber?, ← String.toList_inj, digits]
  constructor
  · intro found
    split at found
    · next plain =>
        cases found
        exact (Text.toDigits_numeralValue plain).symm
    · cases found
  · intro written
    rw [written, if_pos (Text.isPlainDecimal_toDigits number), Text.numeralValue_toDigits]

/-- The reader finds a message, a file and a number in exactly one list of lines. -/
theorem readReport?_eq_some_iff (lines : List String) (message file : String) (number : Nat) :
    readReport? lines = some (message, file, number) ↔
      lines = [messageWord ++ message, fileWord ++ file, lineWord ++ toString number] := by
  constructor
  · intro found
    unfold readReport? at found
    split at found
    · simp only [bind, Option.bind_eq_some_iff, afterWord?_eq_some_iff,
        plainNumber?_eq_some_iff, pure, Option.some.injEq, Prod.mk.injEq] at found
      obtain ⟨_, rfl, _, rfl, _, ⟨_, rfl, rfl⟩, rfl, rfl, rfl⟩ := found
      rfl
    · cases found
  · rintro rfl
    have first := (afterWord?_eq_some_iff messageWord _ message).mpr rfl
    have second := (afterWord?_eq_some_iff fileWord _ file).mpr rfl
    have third := (afterWord?_eq_some_iff lineWord _ (toString number)).mpr rfl
    have value := (plainNumber?_eq_some_iff _ number).mpr rfl
    simp only [readReport?, first, second, third, Option.bind_some, value, bind, pure]

/-! ## Reports -/

theorem report_of_located {diagnostic : Diagnostic} {file : String} {number : Nat}
    (isFile : diagnostic.file = some file) (isLine : diagnostic.line = some (number : Int)) :
    diagnostic.report =
      [messageWord ++ diagnostic.message, fileWord ++ file, lineWord ++ toString number] := by
  have place : diagnostic.place? = some (file, (number : Int)) := by rw [place?, isFile, isLine]
  rw [report, place]
  rfl

theorem report_of_bare {text : String} : (bare text).report = [messageWord ++ text] := by
  have same : (if text.isEmpty then text else text) = text := ite_self text
  exact congrArg (fun shown => [messageWord ++ shown]) same

theorem isOneLine_word_append {word text : String} (oneLine : Text.IsOneLine word.toList)
    (rest : Text.IsOneLine text.toList) : Text.IsOneLine (word ++ text).toList := by
  rw [String.toList_append, Text.isOneLine_append]
  exact ⟨oneLine, rest⟩

theorem not_messageWord_append {word : String} (indented : word.toList.head? = some ' ')
    (text : String) : ¬ messageWord.toList <+: (word ++ text).toList := by
  rintro ⟨rest, starts⟩
  rw [String.toList_append] at starts
  obtain ⟨others, isIndented⟩ := List.head?_eq_some_iff.mp indented
  rw [isIndented] at starts
  cases starts

/-! ## The texts of a block -/

theorem isOneLine_trim {text : List Char} (oneLine : Text.IsOneLine text) :
    Text.IsOneLine (Text.trim text) :=
  Text.isOneLine_of_subset oneLine (Text.trim_subset text)

/-- The texts of a block are pieces of lines. -/
theorem IsFirstBlock.isOneLine {lines : List (List Char)} {block : Block}
    (first : IsFirstBlock lines block) (oneLine : ∀ line ∈ lines, Text.IsOneLine line) :
    ∀ text ∈ block.texts, Text.IsOneLine text := by
  obtain @⟨before, after, continuing, body, _, _, _⟩ := first
  obtain ⟨_, marked⟩ := List.forall_mem_append.mp oneLine
  obtain ⟨header, rest⟩ := List.forall_mem_cons.mp marked
  obtain ⟨details, _⟩ := List.forall_mem_append.mp rest
  refine List.forall_mem_cons.mpr ⟨isOneLine_trim (Text.isOneLine_append.mp header).2, ?_⟩
  rw [List.forall_mem_map] at details ⊢
  exact fun text member => isOneLine_trim (Text.isOneLine_append.mp (details text member)).2

theorem isOneLine_joined {texts : List (List Char)} (all : ∀ text ∈ texts, Text.IsOneLine text) :
    Text.IsOneLine (List.intercalate [' '] (nonempty texts)) :=
  Text.isOneLine_intercalate (by decide) fun text member =>
    all text (List.mem_filter.mp member).1

variable {block : Block}

theorem isOneLine_wholeText (all : ∀ text ∈ block.texts, Text.IsOneLine text) :
    Text.IsOneLine (wholeText block) := by
  obtain ⟨header, details⟩ := List.forall_mem_cons.mp all
  refine isOneLine_trim (Text.isOneLine_intercalate (by decide) ?_)
  exact List.forall_mem_cons.mpr ⟨header, fun text member =>
    details text (List.mem_filter.mp member).1⟩

/-- The whole text of a block is not empty if its header has something that is not white space. -/
theorem wholeText_ne_nil {character : Char} (member : character ∈ block.header)
    (visible : ¬ Text.isBlank character) : wholeText block ≠ [] := by
  have joined : character ∈ List.intercalate [' '] (block.header :: nonempty block.details) := by
    cases nonempty block.details with
    | nil => simpa [List.intercalate] using member
    | cons next later =>
        rw [List.intercalate_cons_cons]
        exact List.mem_append_left _ (List.mem_append_left _ member)
  exact List.ne_nil_of_mem (Text.mem_trim joined visible)

theorem WithoutColumn.subset {rest text : List Char} (without : WithoutColumn rest text) :
    text ⊆ rest := by
  cases without with
  | column _ =>
      intro character member
      exact List.mem_append_right _ (List.mem_cons_of_mem _ member)
  | noColumn _ => exact fun _ member => member

section Divided

variable {file digits rest text : List Char}

theorem IsDivided.file_subset (divided : IsDivided block.header file digits rest) :
    file ⊆ block.header := by
  rw [divided.text]
  exact List.subset_append_left _ _

theorem IsDivided.rest_subset (divided : IsDivided block.header file digits rest) :
    rest ⊆ block.header := by
  rw [divided.text]
  intro character member
  simp [member]

/-- The message of a located block is one line, like the texts of the block. -/
theorem isOneLine_messageText (all : ∀ text ∈ block.texts, Text.IsOneLine text)
    (divided : IsDivided block.header file digits rest) (without : WithoutColumn rest text) :
    Text.IsOneLine (messageText block text) := by
  obtain ⟨header, details⟩ := List.forall_mem_cons.mp all
  have inHeader : Text.trimStart text ⊆ block.header := by
    intro character member
    exact divided.rest_subset (without.subset (Text.trimStart_subset text member))
  exact isOneLine_joined
    (List.forall_mem_cons.mpr ⟨Text.isOneLine_of_subset header inHeader, details⟩)

end Divided

/-! ## What was read -/

/-- A located error that was read from an output: its file and its message have some text, all in
one line, and its line number is the value of the numeral after the file. -/
structure IsLocatedIn (diagnostic : Diagnostic) (output file : String) (number : Nat) : Prop where
  isFile : diagnostic.file = some file
  isLine : diagnostic.line = some (number : Int)
  named : file ≠ ""
  telling : diagnostic.message ≠ ""
  oneLineFile : Text.IsOneLine file.toList
  oneLineMessage : Text.IsOneLine diagnostic.message.toList
  counted : ∃ block digits rest, IsFirstBlock (Text.lines output.toList) block ∧
    IsFirstDivision block.header file.toList digits rest ∧
    digits.length ≤ Text.numeralDigitLimit ∧ number = Text.numeralValue digits

theorem ofList_ne_empty {characters : List Char} (present : characters ≠ []) :
    String.ofList characters ≠ "" := by
  intro empty
  exact present (by simpa using congrArg String.toList empty)

/-- An error that was read from an output is a text in one line, or is located. -/
theorem bare_or_located_of_read {output : String} {diagnostic : Diagnostic}
    (found : read output = .ok (some diagnostic)) :
    (∃ text, diagnostic = .bare text ∧ Text.IsOneLine text.toList) ∨
      ∃ file number, diagnostic.IsLocatedIn output file number := by
  have reading := (read_eq_iff_reading output _).mp found
  generalize result : (Except.ok (some diagnostic) : Except OverlongNumeral _) = outcome at reading
  cases reading with
  | silent => simp at result
  | @reports block meaning first means =>
      have all := first.isOneLine (Text.isOneLine_of_mem_lines output.toList)
      have whole := isOneLine_wholeText all
      cases means with
      | bare =>
          cases result
          exact .inl ⟨_, rfl, by rwa [String.toList_ofList]⟩
      | overlong => cases result
      | @located file digits rest text division without short =>
          cases result
          have colon : ':' ∈ block.header := by simp [division.text]
          refine .inr ⟨String.ofList file, Text.numeralValue digits, rfl, rfl,
            ofList_ne_empty division.named, ofList_ne_empty ?_, ?_, ?_, block, digits, rest, first,
            ?_, short, rfl⟩
          · split
            · exact wholeText_ne_nil colon (by decide)
            · assumption
          · rw [String.toList_ofList]
            exact Text.isOneLine_of_subset (all block.header List.mem_cons_self)
              division.file_subset
          · rw [String.toList_ofList]
            split
            · exact whole
            · exact isOneLine_messageText all division.toIsDivided without
          · rwa [String.toList_ofList]

/-! ## The report of what was read -/

/-- Lines of a report of which only the first starts as an error does, and that no line boundary
cuts: written one below the other they read back as they are. -/
structure AreLegible (lines : List String) : Prop where
  starts : ∃ first later, lines = first :: later ∧ messageWord.toList <+: first.toList ∧
    ∀ line ∈ later, ¬ messageWord.toList <+: line.toList
  oneLine : ∀ line ∈ lines, Text.IsOneLine line.toList
  reread : Text.lines (Text.written (lines.map String.toList)) = lines.map String.toList

theorem reread_of_isOneLine {lines : List String}
    (oneLine : ∀ line ∈ lines, Text.IsOneLine line.toList) :
    Text.lines (Text.written (lines.map String.toList)) = lines.map String.toList := by
  have all := Text.lines_written (List.forall_mem_map.mpr oneLine) []
  rwa [List.append_nil, Text.lines, List.append_nil] at all

theorem areLegible_bare {text : String} (oneLine : Text.IsOneLine text.toList) :
    AreLegible (bare text).report := by
  have all : ∀ line ∈ (bare text).report, Text.IsOneLine line.toList := by
    rw [report_of_bare]
    exact List.forall_mem_singleton.mpr (isOneLine_word_append (by decide) oneLine)
  refine ⟨⟨_, [], report_of_bare, ?_, by simp⟩, all, reread_of_isOneLine all⟩
  rw [String.toList_append]
  exact List.prefix_append _ _

namespace IsLocatedIn

variable {diagnostic : Diagnostic} {output file : String} {number : Nat}
  (located : diagnostic.IsLocatedIn output file number)

include located

theorem areLegible : AreLegible diagnostic.report := by
  have lines := report_of_located located.isFile located.isLine
  have all : ∀ line ∈ diagnostic.report, Text.IsOneLine line.toList := by
    rw [lines]
    refine List.forall_mem_cons.mpr ⟨isOneLine_word_append (by decide) located.oneLineMessage, ?_⟩
    refine List.forall_mem_cons.mpr ⟨isOneLine_word_append (by decide) located.oneLineFile, ?_⟩
    exact List.forall_mem_singleton.mpr
      (isOneLine_word_append (by decide) (Text.isOneLine_toString number))
  refine ⟨⟨_, _, lines, ?_, ?_⟩, all, reread_of_isOneLine all⟩
  · rw [String.toList_append]
    exact List.prefix_append _ _
  · refine List.forall_mem_cons.mpr ⟨not_messageWord_append rfl _, ?_⟩
    exact List.forall_mem_singleton.mpr (not_messageWord_append rfl _)

/-- The number is printed with no more digits than a numeral may have. -/
theorem length_toString_le : (toString number).toList.length ≤ Text.numeralDigitLimit := by
  obtain ⟨block, digits, rest, _, division, short, rfl⟩ := located.counted
  have few := Text.length_toDigits_numeralValue division.numbered.1
  simpa using few.trans short

theorem readReport?_eq_some_iff (message otherFile : String) (other : Nat) :
    readReport? diagnostic.report = some (message, otherFile, other) ↔
      message = diagnostic.message ∧ otherFile = file ∧ other = number := by
  have back := (Diagnostic.readReport?_eq_some_iff _ _ _ _).mpr
    (report_of_located located.isFile located.isLine)
  rw [back]
  simp [eq_comm]

end IsLocatedIn

/-- Whatever text the interpreter printed, the report of the error that is read from it keeps to its
lines: three for a located error and one otherwise, of which only the first starts as an error does,
none with a line boundary in it. The three lines of a located error read back as its message, its
file and its line number, and as nothing else; the first two have some text, and the number is the
value of the digits that were printed, of whatever script, in plain decimal. -/
theorem report_of_read {output : String} {diagnostic : Diagnostic}
    (found : read output = .ok (some diagnostic)) :
    AreLegible diagnostic.report ∧
    diagnostic.report.length = (if diagnostic.isLocated then 3 else 1) ∧
    (diagnostic.isLocated = false → diagnostic.report = [messageWord ++ diagnostic.raw]) ∧
    (diagnostic.isLocated = true → ∃ file number,
      diagnostic.IsLocatedIn output file number ∧
      diagnostic.report = [messageWord ++ diagnostic.message, fileWord ++ file,
        lineWord ++ toString number] ∧
      Text.IsPlainDecimal (toString number).toList ∧
      (toString number).toList.length ≤ Text.numeralDigitLimit ∧
      ∀ message otherFile other,
        readReport? diagnostic.report = some (message, otherFile, other) ↔
          message = diagnostic.message ∧ otherFile = file ∧ other = number) := by
  rcases bare_or_located_of_read found with ⟨text, rfl, oneLine⟩ | ⟨file, number, located⟩
  · refine ⟨areLegible_bare oneLine, ?_, fun _ => report_of_bare, fun isLocated => ?_⟩
    · rw [report_of_bare]
      rfl
    · cases isLocated
  · have lines := report_of_located located.isFile located.isLine
    have isLocated : diagnostic.isLocated = true := by
      rw [Diagnostic.isLocated, place?, located.isFile, located.isLine]
      rfl
    have plain : Text.IsPlainDecimal (toString number).toList := by
      simpa using Text.isPlainDecimal_toDigits number
    refine ⟨located.areLegible, ?_, fun unlocated => ?_, fun _ => ⟨file, number, located, lines,
      plain, located.length_toString_le, located.readReport?_eq_some_iff⟩⟩
    · rw [lines, isLocated]
      rfl
    · rw [isLocated] at unlocated
      cases unlocated

/-- An output with a line number in other digits, and with a line of its own that looks like one of
a report. -/
def forgingOutput : String := "ERROR: a:\u0660\u0663:\u2028  detected on line 9\n"

theorem read_forgingOutput :
    read forgingOutput = .ok (some {
      message := "a:\u0660\u0663:", file := some "a", line := some 3,
      raw := "a:\u0660\u0663:" }) := by
  have lines : Text.lines forgingOutput.toList =
      [] ++ (errorMark ++ " a:\u0660\u0663:".toList) ::
        (([] : List (List Char)).map (errorMark ++ ·) ++ ["  detected on line 9".toList]) := by
    decide
  have first : IsFirstBlock (Text.lines forgingOutput.toList)
      ⟨Text.trim " a:\u0660\u0663:".toList, [].map Text.trim⟩ := by
    rw [lines]
    exact .intro (by simp) (by simp) (by decide)
  rw [read, blocks, head?_blocksOfLines first]
  decide

/-- The number is printed in plain decimal, and the line that looks like a part is none. -/
theorem report_of_read_forgingOutput :
    ∃ diagnostic, read forgingOutput = .ok (some diagnostic) ∧ diagnostic.isLocated = true ∧
      AreLegible diagnostic.report ∧
      diagnostic.report = ["ERROR: a:\u0660\u0663:", "  in file a", "  detected on line 3"] := by
  obtain ⟨legible, _⟩ := report_of_read read_forgingOutput
  exact ⟨_, read_forgingOutput, rfl, legible, by decide⟩

end PrologImage.Diagnostic
