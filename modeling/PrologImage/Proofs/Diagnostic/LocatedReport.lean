import PrologImage.Proofs.Diagnostic.Reading
import PrologImage.Proofs.Text.Blank
import PrologImage.Proofs.Text.Digit

/-!
Contract: located reports, as the interpreter writes them, and what is read from them.

Owns: a report as data, its lines, and the theorem that a report is read back from any output in
which it is the first error.

Does not own: what is read from outputs of any other form (`Proofs.Diagnostic.Reading`).
-/

namespace PrologImage

namespace Diagnostic

theorem isNumeral_toDigits (number : Nat) : IsNumeral (Nat.toDigits 10 number) := by
  refine ⟨Nat.toDigits_ne_nil, fun digit member => ?_⟩
  have decimal := Nat.isDigit_of_mem_toDigits (by decide) (by decide) member
  rw [Text.isDigit, Text.digitValue?_of_isDigit decimal]
  rfl

/-- Where a numeral ends with a colon, it does so at the first colon. -/
theorem numeral_prefix_of_eq {digits front rest later : List Char}
    (isNumeral : IsNumeral digits) (same : front ++ ':' :: rest = digits ++ ':' :: later) :
    digits ++ [':'] <+: front ++ [':'] := by
  rcases List.append_eq_append_iff.mp same with ⟨more, rfl, after⟩ | ⟨more, rfl, after⟩
  · cases more with
    | nil => simp
    | cons first others =>
        obtain ⟨rfl, _⟩ := List.cons.inj after
        have noDigit : ¬ Text.isDigit ':' := by decide
        exact absurd (isNumeral.2 ':' (by simp)) noDigit
  · cases more with
    | nil => simp
    | cons first others =>
        obtain ⟨rfl, _⟩ := List.cons.inj after
        exact ⟨others ++ [':'], by simp⟩

/-! ## Reports -/

/-- An error of a source at a line, and maybe a column, in the words of the interpreter: a message,
and details that go on with it. The name of the source does not look like a shorter name with a
line after it. -/
structure LocatedReport where
  file : List Char
  line : Nat
  column : Option Nat := none
  message : List Char
  details : List (List Char) := []
  named : file ≠ []
  visible : Text.StartsVisibly file
  undivided : ∀ front digits, front ≠ [] → front <+: file → front ≠ file → IsNumeral digits →
    ¬ front ++ ':' :: (digits ++ [':']) <+: file ++ [':']
  counted : (toString line).toList.length ≤ Text.numeralDigitLimit
  trimmed : ∀ text ∈ message :: details, Text.StartsVisibly text ∧ Text.EndsVisibly text
  detailed : ∀ detail ∈ details, detail ≠ []
  telling : message ≠ [] ∨ details ≠ []
  oneLine : ∀ text ∈ file :: message :: details, Text.IsOneLine text

namespace LocatedReport

/-- A column as it stands between the line and the message. -/
def columnText : Option Nat → List Char
  | none => []
  | some column => (toString column).toList ++ [':']

/-- The place of an error, as it is written before the message. -/
def placeText (report : LocatedReport) : List Char :=
  report.file ++ ':' :: ((toString report.line).toList ++ ':' :: columnText report.column)

/-- The lines of a report: one with the place and the message, and one for each detail. -/
def lines (report : LocatedReport) : List (List Char) :=
  (errorMark ++ ' ' :: (report.placeText ++ ' ' :: report.message)) ::
    report.details.map (errorMark ++ [' ', ' ', ' ', ' '] ++ ·)

/-- The message with its details. -/
def fullMessage (report : LocatedReport) : List Char :=
  List.intercalate [' '] (nonempty (report.message :: report.details))

/-- A report is what is read from an output. -/
def IsReadFrom (report : LocatedReport) (output : String) : Prop :=
  ∃ raw, read output = .ok (some {
    message := String.ofList report.fullMessage
    file := some (String.ofList report.file)
    line := some report.line
    raw })

/-- What is left of a message, and the blank before it, when the blanks at the end are removed. -/
def messageTail (report : LocatedReport) : List Char :=
  if report.message = [] then [] else ' ' :: report.message

/-- The block of a report. -/
def block (report : LocatedReport) : Block where
  header := report.placeText ++ report.messageTail
  details := report.details

variable {report : LocatedReport}

theorem endsVisibly_placeText (report : LocatedReport) : Text.EndsVisibly report.placeText := by
  have colon : ∃ front, report.placeText = front ++ [':'] := by
    unfold placeText columnText
    cases report.column with
    | none => exact ⟨report.file ++ ':' :: (toString report.line).toList, by simp⟩
    | some column =>
        exact ⟨report.file ++ ':' :: ((toString report.line).toList ++ ':' ::
          (toString column).toList), by simp⟩
  obtain ⟨front, isColon⟩ := colon
  intro character isLast
  rw [isColon, List.getLast?_concat, Option.mem_some_iff] at isLast
  rw [← isLast]
  decide

theorem startsVisibly_placeText (report : LocatedReport) (rest : List Char) :
    Text.StartsVisibly (report.placeText ++ rest) := by
  intro character isFirst
  refine report.visible character ?_
  obtain ⟨first, others, split⟩ := List.exists_cons_of_ne_nil report.named
  simpa [placeText, split] using isFirst

/-- The text after the first mark of a report, without the blanks around it. -/
theorem trim_header (report : LocatedReport) :
    Text.trim (' ' :: (report.placeText ++ ' ' :: report.message)) =
      report.placeText ++ report.messageTail := by
  have start : Text.trimStart ([' '] ++ (report.placeText ++ ' ' :: report.message)) =
      report.placeText ++ ' ' :: report.message :=
    Text.trimStart_append_of_blank (by decide) (report.startsVisibly_placeText _)
  rw [Text.trim, ← List.singleton_append, start, messageTail]
  by_cases silent : report.message = []
  · rw [silent, if_pos rfl, List.append_nil]
    exact Text.trimEnd_append_blank report.endsVisibly_placeText
  · rw [if_neg silent]
    apply Text.trimEnd_of_endsVisibly
    intro character isLast
    obtain ⟨_, ends⟩ := report.trimmed report.message List.mem_cons_self
    refine ends character ?_
    have present : ' ' :: report.message ≠ [] := by simp
    rwa [List.getLast?_append_of_ne_nil _ present, List.getLast?_cons_of_ne_nil silent] at isLast

theorem trim_detail {detail : List Char} (member : detail ∈ report.details) :
    Text.trim ([' ', ' ', ' ', ' '] ++ detail) = detail := by
  obtain ⟨starts, ends⟩ := report.trimmed detail (List.mem_cons_of_mem _ member)
  rw [Text.trim, Text.trimStart_append_of_blank (by decide) starts,
    Text.trimEnd_of_endsVisibly ends]

/-- A report that is the first error among lines is their first block. -/
theorem isFirstBlock (report : LocatedReport) {earlier later : List (List Char)}
    (quiet : ∀ line ∈ earlier, ¬ errorMark <+: line)
    (ended : ∀ line ∈ later.head?, ¬ continuationMark <+: line) :
    IsFirstBlock (earlier ++ (report.lines ++ later)) report.block := by
  let padded := report.details.map ([' ', ' ', ' ', ' '] ++ ·)
  have indented : ∀ text ∈ padded, [' ', ' '] <+: text := by
    intro text member
    obtain ⟨detail, _, rfl⟩ := List.mem_map.mp member
    exact ⟨' ' :: ' ' :: detail, rfl⟩
  have details : padded.map Text.trim = report.details := by
    rw [List.map_map]
    exact (List.map_congr_left fun detail member => trim_detail member).trans (List.map_id' _)
  have lines : report.lines =
      (errorMark ++ ' ' :: (report.placeText ++ ' ' :: report.message)) ::
        padded.map (errorMark ++ ·) := by
    simp [LocatedReport.lines, padded]
  rw [block, ← report.trim_header, ← details, lines]
  exact .intro quiet indented ended

/-- A report is divided after its file first. -/
theorem isFirstDivision (report : LocatedReport) :
    IsFirstDivision report.block.header report.file (toString report.line).toList
      (columnText report.column ++ report.messageTail) := by
  have text : report.block.header = report.file ++ ':' :: ((toString report.line).toList ++
      ':' :: (columnText report.column ++ report.messageTail)) := by
    simp [block, placeText]
  have isNumeral : IsNumeral (toString report.line).toList := by
    simpa using isNumeral_toDigits report.line
  refine ⟨⟨text, report.named, isNumeral⟩, ?_⟩
  rintro other numeral later ⟨same, named, numbered⟩
  by_contra shorter
  rw [text] at same
  rcases List.append_eq_append_iff.mp same with ⟨more, rfl, _⟩ | ⟨more, isFile, after⟩
  · simp at shorter
  · cases more with
    | nil => simp [isFile] at shorter
    | cons first others =>
        obtain ⟨rfl, inside⟩ := List.cons.inj after
        have marked := numeral_prefix_of_eq numbered inside.symm
        refine report.undivided other numeral named ⟨_, isFile.symm⟩ ?_ numbered ?_
        · rintro rfl
          simp at shorter
        · rw [isFile, List.append_assoc]
          exact (List.prefix_append_right_inj other).mpr ((List.prefix_cons_inj ':').mpr marked)

/-- The message of a report comes after its column, if it has one. -/
theorem withoutColumn (report : LocatedReport) :
    WithoutColumn (columnText report.column ++ report.messageTail) report.messageTail := by
  cases report.column with
  | some column =>
      have isNumeral : IsNumeral (toString column).toList := by
        simpa using isNumeral_toDigits column
      rw [columnText, List.append_assoc]
      exact .column isNumeral
  | none =>
      refine .noColumn ?_
      rintro digits later ⟨present, decimal⟩ same
      obtain ⟨digit, others, rfl⟩ := List.exists_cons_of_ne_nil present
      have isDigit := decimal digit List.mem_cons_self
      unfold messageTail at same
      split at same
      · simp [columnText] at same
      · obtain ⟨rfl, _⟩ := List.cons.inj same
        exact absurd isDigit (by decide)

theorem trimStart_messageTail (report : LocatedReport) :
    Text.trimStart report.messageTail = report.message := by
  unfold messageTail
  split
  · rename_i silent
    rw [silent]
    rfl
  · rw [← List.singleton_append]
    exact Text.trimStart_append_of_blank (by decide)
      (report.trimmed report.message List.mem_cons_self).1

theorem fullMessage_ne_nil (report : LocatedReport) : report.fullMessage ≠ [] := by
  obtain ⟨first, others, split⟩ : ∃ first others,
      nonempty (report.message :: report.details) = first :: others := by
    apply List.exists_cons_of_ne_nil
    intro none
    have allEmpty : ∀ text ∈ report.message :: report.details, text = [] := by
      simpa [nonempty, List.filter_eq_nil_iff] using none
    obtain ⟨silent, blank⟩ := List.forall_mem_cons.mp allEmpty
    refine report.telling.elim (absurd silent) fun present => ?_
    obtain ⟨detail, _, isDetails⟩ := List.exists_cons_of_ne_nil present
    have member : detail ∈ report.details := by simp [isDetails]
    exact report.detailed detail member (blank detail member)
  have full : first ≠ [] := by
    have member : first ∈ nonempty (report.message :: report.details) := by simp [split]
    simpa using (List.mem_filter.mp member).2
  rw [fullMessage, split]
  cases others <;> simp [List.intercalate, full]

/-- What the block of a report means is the report. -/
theorem means (report : LocatedReport) : report.block.Means (.ok {
    message := String.ofList report.fullMessage
    file := some (String.ofList report.file)
    line := some report.line
    raw := String.ofList (wholeText report.block) }) := by
  have located := Block.Means.located report.isFirstDivision report.withoutColumn report.counted
  have message : messageText report.block report.messageTail = report.fullMessage := by
    rw [messageText, report.trimStart_messageTail]
    rfl
  have value : Text.numeralValue (toString report.line).toList = report.line := by
    simpa using Text.numeralValue_toDigits report.line
  rwa [message, if_neg report.fullMessage_ne_nil, value] at located

theorem isOneLine_of_mem_lines (report : LocatedReport) :
    ∀ line ∈ report.lines, Text.IsOneLine line := by
  have file := report.oneLine report.file (by simp)
  have message := report.oneLine report.message (by simp)
  have number := Text.isOneLine_toString
  have place : Text.IsOneLine report.placeText := by
    unfold placeText columnText
    cases report.column <;>
      simp only [Text.isOneLine_append, Text.isOneLine_cons, file, number] <;>
      decide
  refine List.forall_mem_cons.mpr ⟨?_, ?_⟩
  · simp only [Text.isOneLine_append, Text.isOneLine_cons, place, message]
    decide
  · intro line member
    obtain ⟨detail, isDetail, rfl⟩ := List.mem_map.mp member
    have ofDetail := report.oneLine detail (by simp [isDetail])
    simp only [Text.isOneLine_append, ofDetail]
    decide

theorem isCleanCut_written (report : LocatedReport) (before after : List Char) :
    Text.IsCleanCut before (Text.written report.lines ++ after) := by
  intro _ isFeed
  simp [Text.written, lines, errorMark] at isFeed

end LocatedReport

/-- A located report is read from every output in which it is the first error: after lines that
report nothing and before any text that does not go on with it. So it is from any text whose lines
are these, and from such texts put together with line feeds. -/
theorem read_locatedReport (report : LocatedReport) :
    (∀ (output : String) (earlier later : List (List Char)),
      Text.lines output.toList = earlier ++ (report.lines ++ later) →
      (∀ line ∈ earlier, ¬ errorMark <+: line) →
      (∀ line ∈ later.head?, ¬ continuationMark <+: line) →
      report.IsReadFrom output) ∧
    ∀ before after : List Char, Text.IsEnded before →
      (∀ line ∈ Text.lines before, ¬ errorMark <+: line) →
      (∀ line ∈ (Text.lines after).head?, ¬ continuationMark <+: line) →
      report.IsReadFrom (String.ofList (before ++ (Text.written report.lines ++ after))) := by
  have readFromLines : ∀ (output : String) (earlier later : List (List Char)),
      Text.lines output.toList = earlier ++ (report.lines ++ later) →
      (∀ line ∈ earlier, ¬ errorMark <+: line) →
      (∀ line ∈ later.head?, ¬ continuationMark <+: line) →
      report.IsReadFrom output := by
    intro output earlier later split quiet ended
    have first := report.isFirstBlock quiet ended
    rw [← split] at first
    exact ⟨_, read_of_reading (.reports first report.means)⟩
  refine ⟨readFromLines, fun before after isEnded quiet ended => ?_⟩
  refine readFromLines _ (Text.lines before) (Text.lines after) ?_ quiet ended
  rw [String.toList_ofList, Text.lines_append isEnded (report.isCleanCut_written before after),
    Text.lines_written report.isOneLine_of_mem_lines]

/-- A source name with a colon, a message that starts with a number, and a detail. -/
def sampleReport : LocatedReport where
  file := "C:/a b.pl".toList
  line := 12
  column := some 5
  message := "7: bad".toList
  details := ["in t/0".toList]
  named := by decide
  visible := by decide
  undivided := by
    intro front digits named _ _ numbered
    rintro ⟨rest, split⟩
    have undivided : locate? ("C:/a b.pl".toList ++ [':']) = none := by decide
    refine (locate?_eq_none_iff _).mp undivided front digits rest ⟨?_, named, numbered⟩
    simpa using split.symm
  counted := by decide
  trimmed := by decide
  detailed := by decide
  telling := by decide
  oneLine := by decide

/-- The sample is read between a line that reports nothing and an error of its own. -/
theorem read_sampleReport :
    (∀ line ∈ Text.lines "% loading\r\n".toList, ¬ errorMark <+: line) ∧
    sampleReport.IsReadFrom (String.ofList ("% loading\r\n".toList ++
      (Text.written sampleReport.lines ++ "ERROR: b.pl:1: later\n".toList))) := by
  have quiet : ∀ line ∈ Text.lines "% loading\r\n".toList, ¬ errorMark <+: line := by decide
  exact ⟨quiet, (read_locatedReport sampleReport).2 _ _ (by decide) quiet (by decide)⟩

end Diagnostic

end PrologImage
