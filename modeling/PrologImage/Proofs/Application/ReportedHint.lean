import PrologImage.Proofs.Application.Boundary
import PrologImage.Proofs.Console.ShownAsIs

/-!
Contract: what is told about a failure, and what is shown of the hint that comes with it.

Owns: what a console shows of a hint, which hints it shows as they are, the outcome of telling a
failure, and the theorem that the report is told in any case and the hint as the markup that it is.

Does not own: which failures the boundary is given (`Proofs.Application.Boundary`), and which
markup a library of styles refuses (`Console.MarkupLibrary`).

The hint stands in one marked-up text with the word before it. The word is a style of its own that
is closed again, so the hint is shown as it would be alone.
-/

namespace PrologImage.Console

/-! ## Hints printed as markup -/

/-- What a console shows of a hint. Nothing is shown by a styled console whose library refuses the
hint after its word. -/
def shownHint? (mode : ConsoleMode) (hint : String) : Option String :=
  match mode with
  | .plain => some (stripMarkup hint)
  | .styledBy library =>
      if library.refusal? .line [(hintMark ++ hint).toList] = none then
        some (String.ofList (library.visibleText hint.toList))
      else none

/-- A text without anything that a console takes for markup. -/
def IsLiteral (mode : ConsoleMode) (text : String) : Prop :=
  match mode with
  | .plain => ¬ Holds IsSimpleTagText text.toList
  | .styledBy library =>
      ¬ Holds IsTagText text.toList ∧ ¬ HoldsEscape text.toList ∧
        replaceCodes library.pictures text.toList = text.toList

variable (mode : ConsoleMode)

theorem refusal?_hint_of_paired (library : MarkupLibrary) {hint : String}
    (paired : IsPaired hint.toList) : library.refusal? .line [(hintMark ++ hint).toList] = none := by
  refine library.refusal?_of_paired .line fun text member => ?_
  rw [List.mem_singleton.mp member]
  exact isPaired_hint paired

theorem shownHint?_styledBy_eq_some_iff (library : MarkupLibrary) (hint shown : String) :
    shownHint? (.styledBy library) hint = some shown ↔
      library.refusal? .line [(hintMark ++ hint).toList] = none ∧
        library.visibleText hint.toList = shown.toList := by
  rw [shownHint?, Option.ite_none_right_eq_some, Option.some.injEq, ← String.toList_inj,
    String.toList_ofList]

/-- A hint is shown as it is exactly when there is no markup in it. -/
theorem shownHint?_eq_self_iff (hint : String) :
    shownHint? mode hint = some hint ↔ IsLiteral mode hint := by
  cases mode with
  | plain =>
      rw [shownHint?, IsLiteral, Option.some.injEq, stripMarkup, ← stripTags_eq_self_iff,
        ← String.toList_inj, String.toList_ofList]
  | styledBy library =>
      rw [shownHint?_styledBy_eq_some_iff, IsLiteral, visibleText_eq_self_iff]
      refine ⟨And.right, fun literal => ⟨?_, literal⟩⟩
      exact refusal?_hint_of_paired library (.of_no_tag literal.1)

/-- A hint without tags, escapes and codes that stand for pictures is no markup. -/
theorem isLiteral_of_no_code (library : MarkupLibrary) {text : String}
    (free : ¬ Holds IsTagText text.toList) (unescaped : ¬ HoldsEscape text.toList)
    (bare : ∀ code, colonned code <:+: text.toList → pictureOf? library.pictures code = none) :
    IsLiteral (.styledBy library) text :=
  ⟨free, unescaped, replaceCodes_eq_self bare⟩

theorem exists_shownHint? {hint : String} (paired : mode = .plain ∨ IsPaired hint.toList) :
    ∃ shown, shownHint? mode hint = some shown := by
  cases mode with
  | plain => exact ⟨_, rfl⟩
  | styledBy library =>
      have accepted := refusal?_hint_of_paired library (paired.resolve_left (by simp))
      exact ⟨_, if_pos accepted⟩

/-- A line without tabs and dropped control characters is printed as it is. -/
theorem literalLine_of_unchanged {text : String} (unchanged : mode ≠ .plain → IsUnchanged text) :
    literalLine mode [text] = text ++ "\n" := by
  have plain : literalLine .plain [text] = text ++ "\n" := by
    rw [literalLine, plainLine, String.intercalate_singleton]
  cases mode with
  | plain => exact plain
  | styledBy library =>
      rw [literalLine_styled, plain, styledText_eq_self_iff]
      intro character member
      rw [String.toList_append, List.mem_append] at member
      rcases member with inText | isFeed
      · exact unchanged (by simp) character inText
      · obtain rfl : character = '\n' := by simpa using isFeed
        decide

theorem stripTags_hint (hint : List Char) :
    stripTags (inStyle "yellow".toList "Hint:".toList ++ ([' '] ++ hint)) =
      "Hint: ".toList ++ stripTags hint := by
  have named : ∀ character ∈ "yellow".toList, isTagNameCharacter character = true :=
    List.all_eq_true.mp (by decide)
  have opening : IsSimpleTagText "yellow".toList := ⟨_, by decide, named, .inl rfl⟩
  have closing : IsSimpleTagText ('/' :: "yellow".toList) := ⟨_, by decide, named, .inr rfl⟩
  have whole : "Hint: ".toList = "Hint:".toList ++ [' '] := by decide
  simp only [inStyle, List.append_assoc]
  rw [stripTags_bracketed opening, stripTags_append (by decide), stripTags_bracketed closing,
    stripTags_append (by decide), whole, List.append_assoc]

/-- After its word, a hint is shown as it would be alone. -/
theorem visibleText_hint (library : MarkupLibrary) (hint : String) :
    library.visibleText (hintMark ++ hint).toList =
      "Hint: ".toList ++ library.visibleText hint.toList := by
  have word : replaceCodes library.pictures "Hint:".toList = "Hint:".toList := rfl
  rw [hintMark_append, visibleText_inStyle_append library (by decide) (by decide), word,
    visibleText_blank_append, ← List.append_assoc]
  rfl

/-- A hint is printed as what is shown of it, after its word. -/
theorem markedLine_of_shownHint? {hint shown : String}
    (isShown : shownHint? mode hint = some shown) :
    markedLine mode [hintMark ++ hint] = .ok (literalLine mode ["Hint: " ++ shown]) := by
  cases mode with
  | plain =>
      cases isShown
      have stripped : stripMarkup (hintMark ++ hint) = "Hint: " ++ stripMarkup hint := by
        rw [stripMarkup, hintMark_append, stripTags_hint, String.ofList_append,
          String.ofList_toList]
        rfl
      rw [markedLine, literalLine, List.map_singleton, stripped]
  | styledBy library =>
      obtain ⟨accepted, visible⟩ := (shownHint?_styledBy_eq_some_iff library hint shown).mp isShown
      refine (library.unlessRefused_eq_ok_iff _ _ _ _).mpr ⟨accepted, ?_⟩
      rw [literalLine, List.map_singleton, List.map_singleton, List.map_singleton,
        visibleText_hint, visible, String.toList_append]

end PrologImage.Console

namespace PrologImage.Report

/-! ## Failures that are told -/

/-- What is printed about a failure on the output. -/
def reportText (mode : ConsoleMode) (failure : Failure) : String :=
  String.join ((errorLines failure).map fun line => Console.literalLine mode [line])

theorem reportText_of_unchanged (mode : ConsoleMode) {failure : Failure}
    (unchanged : mode ≠ .plain → ∀ line ∈ errorLines failure, Console.IsUnchanged line) :
    reportText mode failure = String.join ((errorLines failure).map (· ++ "\n")) := by
  refine congrArg String.join (List.map_congr_left fun line member => ?_)
  exact Console.literalLine_of_unchanged mode fun styled => unchanged styled line member

theorem failure_outcome (mode : ConsoleMode) (failure : Failure) (session : Session) :
    (Report.failure mode failure).outcome session =
      (printHint mode failure.hint).outcome (session.writeOutput (reportText mode failure)) := by
  rw [Report.failure, Step.outcome_bind, Application.printLines_outcome]
  rfl

theorem printHint_of_nothing (mode : ConsoleMode) {hint : Option String}
    (nothing : hint = none ∨ hint = some "") (session : Session) :
    (printHint mode hint).outcome session = (.ok (), session) := by
  rcases nothing with rfl | rfl <;> rfl

theorem printHint_of_shown (mode : ConsoleMode) {hint shown : String} (present : hint ≠ "")
    (isShown : Console.shownHint? mode hint = some shown) (session : Session) :
    (printHint mode (some hint)).outcome session =
      (.ok (), session.writeErrors (Console.literalLine mode ["Hint: " ++ shown])) := by
  have notEmpty : ¬ hint.isEmpty = true := by simpa using present
  have marked := Console.markedLine_of_shownHint? mode isShown
  rw [printHint, if_neg notEmpty, Console.printMarked]
  change (Step.ofForeign (Console.markedLine mode [Console.hintMark ++ hint]) >>= _).outcome _ = _
  rw [marked, Step.outcome_bind, Step.outcome_ofForeign_ok]
  rfl

theorem failure_outcome_of_shown (mode : ConsoleMode) {failure : Failure} {hint shown : String}
    (isHint : failure.hint = some hint) (present : hint ≠ "")
    (isShown : Console.shownHint? mode hint = some shown) (session : Session) :
    (Report.failure mode failure).outcome session =
      (.ok (), (session.writeOutput (reportText mode failure)).writeErrors
        (Console.literalLine mode ["Hint: " ++ shown])) := by
  rw [failure_outcome, isHint, printHint_of_shown mode present isShown]

/-- Printing a hint leaves the output alone, also when nothing can be shown of it. -/
theorem output_printHint (mode : ConsoleMode) (hint : Option String) (session : Session) :
    ((printHint mode hint).outcome session).2.output = session.output := by
  unfold printHint
  split
  · rfl
  · next hint =>
      split
      · rfl
      · rw [Console.printMarked, Step.outcome_bind]
        cases Console.markedLine mode ["[yellow]Hint:[/yellow] " ++ hint] <;> rfl

/-- The outcome of telling a failure: the report stands on the output in any case, an error line
first. Without a hint that is all. A hint that is not refused as markup follows on the error stream
after its word, as what is shown of it. No hint is refused without styles, and none whose tags come
in pairs; it is shown as it is exactly when there is no markup in it, so at least when there are
neither tags nor escapes nor codes of pictures. A line is printed as it is unless a styled console
finds a tab or a dropped control character in it. -/
theorem failure_is_told (mode : ConsoleMode) (failure : Failure) (session : Session) :
    let told := session.writeOutput (reportText mode failure)
    ((Report.failure mode failure).outcome session).2.output =
        session.output ++ reportText mode failure ∧
    (∃ message rest, errorLines failure = (Console.errorWord ++ message) :: rest) ∧
    ((mode ≠ .plain → ∀ line ∈ errorLines failure, Console.IsUnchanged line) →
      reportText mode failure = String.join ((errorLines failure).map (· ++ "\n"))) ∧
    (failure.hint = none ∨ failure.hint = some "" →
      (Report.failure mode failure).outcome session = (.ok (), told)) ∧
    ∀ hint, failure.hint = some hint → hint ≠ "" →
      (∀ shown, Console.shownHint? mode hint = some shown →
        (Report.failure mode failure).outcome session =
            (.ok (), told.writeErrors (Console.literalLine mode ["Hint: " ++ shown])) ∧
        ((mode ≠ .plain → Console.IsUnchanged shown) →
          Console.literalLine mode ["Hint: " ++ shown] = "Hint: " ++ shown ++ "\n")) ∧
      (mode = .plain ∨ Console.IsPaired hint.toList →
        ∃ shown, Console.shownHint? mode hint = some shown) ∧
      (Console.shownHint? mode hint = some hint ↔ Console.IsLiteral mode hint) ∧
      ∀ library, mode = .styledBy library →
        ¬ Console.Holds Console.IsTagText hint.toList → ¬ Console.HoldsEscape hint.toList →
        (∀ code, Console.colonned code <:+: hint.toList →
          Console.pictureOf? library.pictures code = none) →
        Console.shownHint? mode hint = some hint := by
  intro told
  have outcome := failure_outcome mode failure session
  refine ⟨?_, Application.errorLines_eq failure, reportText_of_unchanged mode, ?_, ?_⟩
  · rw [outcome, output_printHint]
    rfl
  · intro nothing
    rw [outcome, printHint_of_nothing mode nothing]
  · intro hint isHint present
    refine ⟨fun shown isShown =>
      ⟨failure_outcome_of_shown mode isHint present isShown session, fun unchanged => ?_⟩,
      Console.exists_shownHint? mode, Console.shownHint?_eq_self_iff mode hint, ?_⟩
    · have word : Console.IsUnchanged "Hint: " := by
        simp [Console.IsUnchanged, Console.isDropped]
      refine Console.literalLine_of_unchanged mode fun styled character member => ?_
      rw [String.toList_append, List.mem_append] at member
      rcases member with inWord | inHint
      · exact word character inWord
      · exact unchanged styled character inHint
    · rintro library rfl free unescaped bare
      rw [Console.shownHint?_eq_self_iff]
      exact Console.isLiteral_of_no_code library free unescaped bare

/-- A failure whose hint has a bracket that is no tag, tags that are closed, and a code. -/
def markedFailure : Failure :=
  .plain .environment "boom" (some "try [1] [b]-o[/b] :warning:")

/-- A library that knows one picture. -/
def warningLibrary : Console.MarkupLibrary :=
  .written [("warning", "⚠")]

/-- With styles the brackets that are no tag are shown, the tags are not, and the code is replaced
by its picture. -/
theorem failure_is_told_with_markup :
    markedFailure.hint = some "try [1] [b]-o[/b] :warning:" ∧
    Console.shownHint? (.styledBy warningLibrary) "try [1] [b]-o[/b] :warning:" =
      some "try [1] -o ⚠" ∧
    (Report.failure (.styledBy warningLibrary) markedFailure).outcome { files := .bare } =
      (.ok (),
        { files := .bare, output := "ERROR: boom\n", errors := "Hint: try [1] -o ⚠\n" }) := by
  have shown : Console.shownHint? (.styledBy warningLibrary) "try [1] [b]-o[/b] :warning:" =
      some "try [1] -o ⚠" := by
    decide +kernel
  obtain ⟨_, _, _, _, hinted⟩ :=
    failure_is_told (.styledBy warningLibrary) markedFailure { files := .bare }
  obtain ⟨told, _⟩ := hinted "try [1] [b]-o[/b] :warning:" rfl (by decide)
  obtain ⟨outcome, _⟩ := told _ shown
  refine ⟨rfl, shown, outcome.trans ?_⟩
  have report : reportText (.styledBy warningLibrary) markedFailure = "ERROR: boom\n" := by
    decide +kernel
  have hint : Console.literalLine (.styledBy warningLibrary) ["Hint: " ++ "try [1] -o ⚠"] =
      "Hint: try [1] -o ⚠\n" := by
    decide +kernel
  rw [report, hint]
  rfl

/-- A failure whose hint names an option in a style. -/
def styledHintFailure : Failure :=
  .plain .general "boom" (some "use [bold]-o[/bold] here")

/-- A hint with a tag in it is not printed as it is, on either console. -/
theorem failure_drops_tags_of_hint :
    let after : Session :=
      { files := .bare, output := "ERROR: boom\n", errors := "Hint: use -o here\n" }
    (Report.failure .styled styledHintFailure).outcome { files := .bare } = (.ok (), after) ∧
    (Report.failure .plain styledHintFailure).outcome { files := .bare } = (.ok (), after) ∧
    after.errors ≠ "Hint: " ++ "use [bold]-o[/bold] here" ++ "\n" := by
  have isHint : styledHintFailure.hint = some "use [bold]-o[/bold] here" := rfl
  have shownStyled : Console.shownHint? .styled "use [bold]-o[/bold] here" =
      some "use -o here" := by decide +kernel
  have shownPlain : Console.shownHint? .plain "use [bold]-o[/bold] here" =
      some "use -o here" := by cbv
  have report : ∀ mode, mode = .styled ∨ mode = .plain →
      reportText mode styledHintFailure = "ERROR: boom\n" := by
    rintro _ (rfl | rfl) <;> decide +kernel
  have hint : ∀ mode, mode = .styled ∨ mode = .plain →
      Console.literalLine mode ["Hint: " ++ "use -o here"] = "Hint: use -o here\n" := by
    rintro _ (rfl | rfl) <;> decide +kernel
  refine ⟨?_, ?_, by decide⟩
  · rw [failure_outcome_of_shown .styled isHint (by decide) shownStyled, report _ (.inl rfl),
      hint _ (.inl rfl)]
    rfl
  · rw [failure_outcome_of_shown .plain isHint (by decide) shownPlain, report _ (.inr rfl),
      hint _ (.inr rfl)]
    rfl

end PrologImage.Report
