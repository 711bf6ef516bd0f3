import Mathlib.Tactic.SplitIfs
import PrologImage.Console.Printing

/-!
Contract: what printing literal texts leaves on a stream.

Owns: texts that consist of whole lines, streams with an error line, that printed lines are whole
and start with what was asked for, and what a styled console makes of the text that a plain one
prints.

Does not own: marked-up texts (`Proofs.Console.HarmlessMarkup`).
-/

namespace PrologImage.Console

/-- A text of whole lines: it is empty or ends with a line feed. -/
def IsWhole (text : String) : Prop :=
  text = "" ∨ ∃ lead, text = lead ++ "\n"

namespace IsWhole

theorem empty : IsWhole "" := Or.inl rfl

theorem line (lead : String) : IsWhole (lead ++ "\n") := Or.inr ⟨lead, rfl⟩

theorem append {first second : String} (wholeFirst : IsWhole first) (wholeSecond : IsWhole second) :
    IsWhole (first ++ second) := by
  rcases wholeSecond with rfl | ⟨lead, rfl⟩
  · rw [String.append_empty]
    exact wholeFirst
  · rw [← String.append_assoc]
    exact line (first ++ lead)

theorem join {texts : List String} (whole : ∀ text ∈ texts, IsWhole text) :
    IsWhole (String.join texts) := by
  induction texts with
  | nil => exact empty
  | cons text rest inductionHypothesis =>
      obtain ⟨wholeText, wholeRest⟩ := List.forall_mem_cons.mp whole
      rw [String.join_cons]
      exact wholeText.append (inductionHypothesis wholeRest)

end IsWhole

theorem isWhole_literalLine (mode : ConsoleMode) (texts : List String) :
    IsWhole (literalLine mode texts) := by
  cases mode with
  | plain => exact .line _
  | styledBy library =>
      have ended : ∀ characters : List Char, IsWhole (String.ofList (characters ++ ['\n'])) := by
        intro characters
        rw [String.ofList_append]
        exact .line _
      exact ended _

/-! ## The start of a line -/

/-- What a styled console neither drops nor replaces. -/
def IsShown (character : Char) : Prop :=
  isDropped character = false ∧ character ≠ '\n' ∧ character ≠ '\t'

theorem sanitize_append_shown {start : List Char} (shown : ∀ character ∈ start, IsShown character)
    (rest : List Char) : sanitize (start ++ rest) = start ++ sanitize rest := by
  unfold sanitize
  rw [List.filter_append, List.filter_eq_self.mpr]
  intro character member
  rw [(shown character member).1]
  rfl

theorem expandTabsFrom_append_shown {start : List Char}
    (shown : ∀ character ∈ start, IsShown character) (column : Nat) (rest : List Char) :
    ∃ next, Text.expandTabsFrom column (start ++ rest) = start ++ Text.expandTabsFrom next rest := by
  induction start generalizing column with
  | nil => exact ⟨column, rfl⟩
  | cons character start inductionHypothesis =>
      obtain ⟨⟨_, notFeed, notTab⟩, shownStart⟩ := List.forall_mem_cons.mp shown
      obtain ⟨next, expanded⟩ :=
        inductionHypothesis shownStart (column + Text.characterWidth character)
      refine ⟨next, ?_⟩
      rw [List.cons_append, Text.expandTabsFrom, if_neg notFeed, if_neg notTab, expanded]
      rfl

theorem styledLine_singleton (characters : List Char) :
    styledLine [characters] =
      String.ofList (Text.expandTabs (sanitize characters) ++ ['\n']) := by
  simp [styledLine, List.intercalate]

/-- A line keeps a start that has neither control characters nor tabs. -/
theorem literalLine_append_shown (mode : ConsoleMode) {start : String}
    (shown : ∀ character ∈ start.toList, IsShown character) (rest : String) :
    ∃ remainder, literalLine mode [start ++ rest] = start ++ remainder := by
  cases mode with
  | plain =>
      refine ⟨rest ++ "\n", ?_⟩
      simp only [literalLine, plainLine, String.intercalate_singleton, String.append_assoc]
  | styledBy library =>
      obtain ⟨next, expanded⟩ :=
        expandTabsFrom_append_shown shown 0 (sanitize rest.toList)
      refine ⟨String.ofList (Text.expandTabsFrom next (sanitize rest.toList) ++ ['\n']), ?_⟩
      rw [literalLine, List.map_singleton, styledLine_singleton, String.toList_append,
        sanitize_append_shown shown, Text.expandTabs, expanded, List.append_assoc,
        String.ofList_append, String.ofList_toList]

/-! ## The same text on both consoles -/

/-- What a styled console makes of a text: without a few control characters, and with blanks
instead of tabs. -/
def styledText (text : String) : String :=
  String.ofList (Text.expandTabs (sanitize text.toList))

/-- A text that a styled console prints as it is. -/
def IsUnchanged (text : String) : Prop :=
  ∀ character ∈ text.toList, isDropped character = false ∧ character ≠ '\t'

theorem sanitize_append (start rest : List Char) :
    sanitize (start ++ rest) = sanitize start ++ sanitize rest :=
  List.filter_append ..

/-- Each line is expanded by itself. -/
theorem expandTabsFrom_append_feed (start rest : List Char) (column : Nat) :
    Text.expandTabsFrom column (start ++ '\n' :: rest) =
      Text.expandTabsFrom column start ++ '\n' :: Text.expandTabs rest := by
  induction start generalizing column with
  | nil => rfl
  | cons character start inductionHypothesis =>
      simp only [List.cons_append, Text.expandTabsFrom, inductionHypothesis]
      split_ifs with feed tab
      · rfl
      · simp only [List.append_assoc]
      · rfl

theorem styledText_line_append (lead rest : String) :
    styledText (lead ++ "\n" ++ rest) = styledText (lead ++ "\n") ++ styledText rest := by
  have split : ∀ more, sanitize (lead ++ "\n" ++ more).toList =
      sanitize lead.toList ++ '\n' :: sanitize more.toList := by
    intro more
    rw [String.append_assoc, String.toList_append, String.toList_append, sanitize_append]
    rfl
  have whole := split ""
  rw [String.append_empty] at whole
  unfold styledText Text.expandTabs
  rw [split, whole, expandTabsFrom_append_feed, expandTabsFrom_append_feed, ← String.ofList_append,
    List.append_assoc]
  rfl

theorem styledText_append {first : String} (whole : IsWhole first) (second : String) :
    styledText (first ++ second) = styledText first ++ styledText second := by
  rcases whole with rfl | ⟨lead, rfl⟩
  · rw [String.empty_append]
    exact (String.empty_append).symm
  · exact styledText_line_append lead second

/-- A styled console prints what it makes of the line that a plain one prints. -/
theorem literalLine_styled (library : MarkupLibrary) (text : String) :
    literalLine (.styledBy library) [text] = styledText (literalLine .plain [text]) := by
  have printed : sanitize (literalLine .plain [text]).toList = sanitize text.toList ++ ['\n'] := by
    rw [literalLine, plainLine, String.intercalate_singleton, String.toList_append,
      sanitize_append]
    rfl
  unfold styledText Text.expandTabs
  rw [printed, expandTabsFrom_append_feed, literalLine, List.map_singleton, styledLine_singleton]
  rfl

/-- Expanding puts blanks in and nothing else. -/
theorem mem_expandTabsFrom {character : Char} {characters : List Char} {column : Nat}
    (member : character ∈ Text.expandTabsFrom column characters) :
    character = ' ' ∨ (character ∈ characters ∧ character ≠ '\t') := by
  induction characters generalizing column with
  | nil => cases member
  | cons head rest inductionHypothesis =>
      have later : ∀ {next : Nat}, character ∈ Text.expandTabsFrom next rest →
          character = ' ' ∨ (character ∈ head :: rest ∧ character ≠ '\t') := by
        intro next inRest
        rcases inductionHypothesis inRest with blank | ⟨inRest, notTab⟩
        · exact Or.inl blank
        · exact Or.inr ⟨List.mem_cons_of_mem _ inRest, notTab⟩
      rw [Text.expandTabsFrom] at member
      split_ifs at member with feed tab
      · rcases List.mem_cons.mp member with rfl | inRest
        · exact Or.inr ⟨by rw [feed]; exact List.mem_cons_self, by decide⟩
        · exact later inRest
      · rcases List.mem_append.mp member with inBlanks | inRest
        · exact Or.inl (List.eq_of_mem_replicate inBlanks)
        · exact later inRest
      · rcases List.mem_cons.mp member with rfl | inRest
        · exact Or.inr ⟨List.mem_cons_self, tab⟩
        · exact later inRest

theorem expandTabsFrom_of_no_tab {characters : List Char} (noTab : '\t' ∉ characters)
    (column : Nat) : Text.expandTabsFrom column characters = characters := by
  induction characters generalizing column with
  | nil => rfl
  | cons character rest inductionHypothesis =>
      rw [List.mem_cons, not_or] at noTab
      rw [Text.expandTabsFrom, if_neg (Ne.symm noTab.1), inductionHypothesis noTab.2,
        inductionHypothesis noTab.2]
      split_ifs with feed
      · rw [feed]
      · rfl

/-- A styled console changes exactly the texts with a tab or a dropped control character. -/
theorem styledText_eq_self_iff (text : String) : styledText text = text ↔ IsUnchanged text := by
  constructor
  · intro same character member
    rw [← same, styledText, String.toList_ofList] at member
    rcases mem_expandTabsFrom member with rfl | ⟨kept, notTab⟩
    · decide
    · have notDropped := (List.mem_filter.mp kept).2
      exact ⟨by simpa using notDropped, notTab⟩
  · intro unchanged
    have kept : sanitize text.toList = text.toList :=
      List.filter_eq_self.mpr fun character member => by rw [(unchanged character member).1]; rfl
    have noTab : '\t' ∉ text.toList := fun member => (unchanged _ member).2 rfl
    rw [styledText, kept, Text.expandTabs, expandTabsFrom_of_no_tab noTab, String.ofList_toList]

/-! ## Error lines -/

/-- The word that an error line starts with. -/
def errorWord : String := "ERROR: "

/-- A stream with a line that starts with the error word. -/
def HasErrorLine (stream : String) : Prop :=
  ∃ earlier rest, IsWhole earlier ∧ stream = earlier ++ (errorWord ++ rest)

theorem HasErrorLine.append {stream : String} (hasError : HasErrorLine stream) (more : String) :
    HasErrorLine (stream ++ more) := by
  obtain ⟨earlier, rest, whole, rfl⟩ := hasError
  exact ⟨earlier, rest ++ more, whole, by simp only [String.append_assoc]⟩

theorem hasErrorLine_literalLine {stream : String} (whole : IsWhole stream) (mode : ConsoleMode)
    (message : String) : HasErrorLine (stream ++ literalLine mode [errorWord ++ message]) := by
  have shown : ∀ character ∈ errorWord.toList, IsShown character := by
    simp [errorWord, IsShown, isDropped]
  obtain ⟨rest, printed⟩ := literalLine_append_shown mode shown message
  exact ⟨stream, rest, whole, by rw [printed]⟩

end PrologImage.Console
