import Mathlib.Tactic.SplitIfs
import PrologImage.Proofs.Console.HarmlessMarkup
import PrologImage.Proofs.Health.ReportText

/-!
Contract: when the report on the surroundings can be told, and what its verdict says.

Owns: that the report is told whole, with a verdict that says whether an interpreter was found,
exactly when a found interpreter has an absolute form and the table of values is not refused.

Does not own: the text of the report (`Proofs.Health.ReportText`), the exit status that a verdict
becomes (`Application`), and which markup a library of styles refuses (`Console.MarkupLibrary`).

On a styled console a value is markup. The library takes values whose tags come in pairs and
refuses one with a closing tag that has nothing to close; then the report stops at the table.
-/

namespace PrologImage.Health

/-! ## When the report can be told -/

theorem exists_inOrder_iff (first second : Except ForeignError String) :
    (∃ text, inOrder first second = .ok text) ↔
      (∃ text, first = .ok text) ∧ ∃ text, second = .ok text := by
  unfold inOrder
  cases first <;> cases second <;> simp [bind, Except.bind, pure, Except.pure]

/-- The table can be shown unless the library of the console refuses the texts of its cells. -/
theorem exists_tableText_iff (mode : ConsoleMode) (checks : List Check) :
    (∃ table, tableText mode checks = .ok table) ↔
      ∀ library, mode = .styledBy library →
        library.refusal? .table (cellTexts checks) = none := by
  cases mode with
  | plain => simp [tableText]
  | styledBy library =>
      have framed : (∃ table, (framedTable library checks).map ("\n" ++ ·) = .ok table) ↔
          ∃ table, framedTable library checks = .ok table := by
        cases framedTable library checks <;> simp [Except.map]
      rw [tableText, framed, framedTable, Console.MarkupLibrary.exists_unlessRefused_iff]
      simp

theorem isPaired_verdictLine (passed : Bool) : Console.IsPaired (verdictLine passed).toList := by
  cases passed with
  | true =>
      exact .of_inStyle _ "bold green" "All checks passed." (by decide) (by decide) (by decide)
  | false =>
      exact .of_inStyle _ "bold red" "Some checks failed." (by decide) (by decide) (by decide)

theorem isPlain_installCommands (system : String) :
    ∀ command ∈ Interpreter.installCommands system, Console.IsPlain command.toList := by
  unfold Interpreter.installCommands
  dsimp only
  split_ifs
  · decide +kernel
  · decide +kernel
  · decide +kernel
  · decide +kernel

theorem isPaired_command {command : String} (plain : Console.IsPlain command.toList) :
    Console.IsPaired s!"  [bold]{command}[/bold]".toList := by
  have opening : "  [bold]".toList = "  ".toList ++ Console.bracketed "bold".toList := by decide
  have closing : "[/bold]".toList = Console.bracketed ('/' :: "bold".toList) := by decide
  have text : s!"  [bold]{command}[/bold]".toList =
      "  ".toList ++ Console.inStyle "bold".toList command.toList := by
    change ("  [bold]" ++ command ++ "[/bold]").toList = _
    rw [String.toList_append, String.toList_append, opening, closing, Console.inStyle]
    simp only [List.append_assoc]
  rw [text]
  exact .append (.of_plain (by decide)) (.of_nested (.inStyle (by decide) plain))

/-- The advice on installing has its tags in pairs on every system. -/
theorem isPaired_installAdvice (system : String) :
    ∀ texts ∈ installAdvice (.missing (Interpreter.installCommands system)),
      ∀ text ∈ texts, Console.IsPaired text.toList := by
  have missing : Console.IsPaired "[yellow]SWI-Prolog is not installed.[/yellow]".toList :=
    .of_inStyle _ "yellow" "SWI-Prolog is not installed." (by decide) (by decide) (by decide)
  have install : Console.IsPaired "Install using one of the following commands:\n".toList :=
    .of_nested (.of_plain (by decide))
  have plain := isPlain_installCommands system
  generalize Interpreter.installCommands system = commands at plain
  cases commands with
  | nil => exact fun _ member => absurd member List.not_mem_nil
  | cons command rest =>
      intro texts isLine text member
      rcases List.mem_append.mp isLine with isLine | isLast
      · rcases List.mem_append.mp isLine with isHead | isCommand
        · rcases List.mem_cons.mp isHead with rfl | isHead
          · rw [List.mem_singleton.mp member]
            exact missing
          · rw [List.mem_singleton.mp isHead] at member
            rw [List.mem_singleton.mp member]
            exact install
        · obtain ⟨other, isOther, rfl⟩ := List.mem_map.mp isCommand
          rw [List.mem_singleton.mp member]
          exact isPaired_command (plain other isOther)
      · rw [List.mem_singleton.mp isLast] at member
        cases member

section Rows

variable {site : Site} {explicit : Option String} {files : FileSystem} {ending : ProcessEnd}
  {detection : Interpreter.Detection} {checks : List Check}

theorem rows_eq_ok (made : rows site ending detection = .ok checks) :
    ∃ value status, (status = okStatus ∨ status = warnStatus) ∧
      checks = [programCheck, runtimeCheck site.platform, interpreterCheck detection,
        ⟨"version", value, status⟩, systemCheck site.platform] := by
  cases detection with
  | missing commands =>
      cases made
      exact ⟨"unknown", warnStatus, Or.inr rfl, rfl⟩
  | found path =>
      simp only [rows, versionRow] at made
      generalize Interpreter.versionOf ending = probed at made
      rcases probed with fault | (_ | version)
      · cases made
      · cases made
        exact ⟨"unknown", warnStatus, Or.inr rfl, rfl⟩
      · cases made
        exact ⟨version, okStatus, Or.inl rfl, rfl⟩

/-- The labels and the statuses are a few fixed words. -/
theorem words_of_rows (made : rows site ending detection = .ok checks) :
    ∀ check ∈ checks, check.label ∈ ["plbuild", "Python", "swipl", "version", "OS"] ∧
      check.status ∈ [okStatus, warnStatus, failStatus, "[red]FAIL (>=3.10 required)[/red]"] := by
  obtain ⟨value, status, known, rfl⟩ := rows_eq_ok made
  have runtime : (runtimeCheck site.platform).status = okStatus ∨
      (runtimeCheck site.platform).status = "[red]FAIL (>=3.10 required)[/red]" := by
    unfold runtimeCheck
    dsimp only
    split_ifs
    · exact Or.inl rfl
    · exact Or.inr rfl
  have interpreter : (interpreterCheck detection).label = "swipl" ∧
      ((interpreterCheck detection).status = okStatus ∨
        (interpreterCheck detection).status = failStatus) := by
    cases detection with
    | found path => exact ⟨rfl, Or.inl rfl⟩
    | missing commands => exact ⟨rfl, Or.inr rfl⟩
  intro check member
  simp only [List.mem_cons, List.not_mem_nil, or_false] at member ⊢
  rcases member with rfl | rfl | rfl | rfl | rfl
  · exact ⟨Or.inl rfl, Or.inl rfl⟩
  · exact ⟨Or.inr (Or.inl rfl), by rcases runtime with same | same <;> simp [same]⟩
  · exact ⟨by simp [interpreter.1], by rcases interpreter.2 with same | same <;> simp [same]⟩
  · exact ⟨by simp, by rcases known with same | same <;> simp [same]⟩
  · exact ⟨by simp [systemCheck], Or.inl rfl⟩

/-- The labels and the statuses have their tags in pairs. -/
theorem isPaired_of_rows (made : rows site ending detection = .ok checks) :
    ∀ check ∈ checks,
      Console.IsPaired check.label.toList ∧ Console.IsPaired check.status.toList := by
  have labels : ∀ label ∈ ["plbuild", "Python", "swipl", "version", "OS"],
      Console.IsPlain label.toList := by decide
  have statuses : ∀ status ∈ [okStatus, warnStatus, failStatus,
      "[red]FAIL (>=3.10 required)[/red]"], Console.IsPaired status.toList := by
    simp only [List.forall_mem_cons]
    exact ⟨.of_inStyle _ "green" "OK" (by decide) (by decide) (by decide),
      .of_inStyle _ "yellow" "WARN" (by decide) (by decide) (by decide),
      .of_inStyle _ "red" "FAIL" (by decide) (by decide) (by decide),
      .of_inStyle _ "red" "FAIL (>=3.10 required)" (by decide) (by decide) (by decide), by simp⟩
  intro check member
  obtain ⟨label, status⟩ := words_of_rows made check member
  exact ⟨.of_nested (.of_plain (labels _ label)), statuses _ status⟩

/-- The texts of all cells have their tags in pairs when those of the values have. -/
theorem isPaired_cellTexts (made : rows site ending detection = .ok checks)
    (values : ∀ check ∈ checks, Console.IsPaired check.value.toList) :
    ∀ text ∈ cellTexts checks, Console.IsPaired text := by
  intro text member
  obtain ⟨check, isCheck, inRow⟩ := List.mem_flatMap.mp member
  obtain ⟨label, status⟩ := isPaired_of_rows made check isCheck
  simp only [rowTexts, List.mem_cons, List.not_mem_nil, or_false] at inRow
  rcases inRow with rfl | rfl | rfl
  · exact label
  · exact values check isCheck
  · exact status

/-- With a runtime that is enough, a check fails exactly when no interpreter was found. -/
theorem any_fails_of_rows
    (enough : reaches (majorMinor site.platform.runtime) requiredRuntime = true)
    (made : rows site ending detection = .ok checks) :
    checks.any Check.fails = detection.path?.isNone := by
  have ok : Text.occursIn "FAIL".toList okStatus.toList = false := by decide +kernel
  have warn : Text.occursIn "FAIL".toList warnStatus.toList = false := by decide +kernel
  have fail : Text.occursIn "FAIL".toList failStatus.toList = true := by decide +kernel
  obtain ⟨value, status, known, rfl⟩ := rows_eq_ok made
  have version : Text.occursIn "FAIL".toList status.toList = false := by
    rcases known with rfl | rfl
    · exact ok
    · exact warn
  simp only [List.any_cons, List.any_nil, Check.fails, programCheck, runtimeCheck, if_pos enough,
    systemCheck, ok, version, Bool.false_or, Bool.or_false]
  cases detection with
  | found path => exact ok
  | missing commands => exact fail

/-- The report has a text unless the table is refused. -/
theorem exists_reportText_iff (mode : ConsoleMode)
    (searched : Interpreter.detected site explicit files = .ok detection) :
    (∃ text, reportText mode detection checks = .ok text) ↔
      ∀ library, mode = .styledBy library →
        library.refusal? .table (cellTexts checks) = none := by
  have advised : ∃ advice,
      ((installAdvice detection).mapM (Console.markedLine mode)).map String.join = .ok advice := by
    have paired : ∀ texts ∈ installAdvice detection, ∀ text ∈ texts,
        Console.IsPaired text.toList := by
      cases detection with
      | found path => simp [installAdvice]
      | missing commands =>
          obtain rfl := Interpreter.commands_of_detected_missing searched
          exact isPaired_installAdvice _
    obtain ⟨lines, marked⟩ := (Calculation.exists_mapM_eq_ok_iff _ _).mpr fun texts member =>
      Console.exists_markedLine mode (paired texts member)
    exact ⟨String.join lines, by rw [marked]; rfl⟩
  have judged : ∃ line, Console.markedLine mode [verdictLine !checks.any Check.fails] = .ok line := by
    refine Console.exists_markedLine mode fun text member => ?_
    rw [List.mem_singleton.mp member]
    exact isPaired_verdictLine _
  rw [reportText, exists_inOrder_iff, exists_inOrder_iff, exists_tableText_iff]
  exact ⟨fun ⟨table, _⟩ => table, fun table => ⟨table, advised, judged⟩⟩

end Rows

/-! ## The verdict -/

/-- The ends of a version probe that the report is prepared for: the process completes with an
output, exceeds its time, cannot be run by the system, or cannot be managed. -/
def IsProbed : ProcessEnd → Prop
  | .completed completion => completion.output.isSome = true
  | .timedOut | .failed (.system _) | .failed (.process _) => True
  | _ => False

theorem exists_rows_of_isProbed (site : Site) {ending : ProcessEnd} (probed : IsProbed ending)
    (detection : Interpreter.Detection) : ∃ checks, rows site ending detection = .ok checks := by
  have known : ∃ version, Interpreter.versionOf ending = .ok version := by
    cases ending with
    | completed completion =>
        obtain ⟨output, present⟩ := Option.isSome_iff_exists.mp probed
        exact ⟨Interpreter.firstLine? output, by simp [Interpreter.versionOf, present]⟩
    | timedOut => exact ⟨none, rfl⟩
    | interrupted => cases probed
    | failed error =>
        cases error with
        | system error => exact ⟨none, rfl⟩
        | process message => exact ⟨none, rfl⟩
        | _ => cases probed
  cases detection with
  | missing commands => exact ⟨_, rfl⟩
  | found path =>
      obtain ⟨version, isVersion⟩ := known
      exact ⟨_, by rw [rows, versionRow, isVersion]; rfl⟩

/-- What the report needs in order to be told: a found interpreter has an absolute form, and the
library of a styled console does not refuse the table. -/
structure CanBeTold (site : Site) (explicit : Option String) (session : Session) : Prop where
  place : ∀ text, Interpreter.find? site session.files (Interpreter.nameSought site explicit) =
    some text → ∃ path, session.files.resolve site.workingDirectory (Path.ofText text) = .ok path
  table : ∀ library, site.console = .styledBy library → ∀ detection checks,
    Interpreter.detected site explicit session.files = .ok detection →
    rows site (session.outcomeAt 0).ending detection = .ok checks →
    library.refusal? .table (cellTexts checks) = none

/-- The whole report was printed on the error stream and nothing on the output. -/
structure IsToldWhole (site : Site) (explicit : Option String) (before after : Session) : Prop where
  output : after.output = before.output
  errors : ∃ detection checks text,
    Interpreter.detected site explicit before.files = .ok detection ∧
    rows site (before.outcomeAt 0).ending detection = .ok checks ∧
    reportText site.console detection checks = .ok text ∧ after.errors = before.errors ++ text

theorem exists_detected_iff (site : Site) (explicit : Option String) (files : FileSystem) :
    (∃ detection, Interpreter.detected site explicit files = .ok detection) ↔
      ∀ text, Interpreter.find? site files (Interpreter.nameSought site explicit) = some text →
        ∃ path, files.resolve site.workingDirectory (Path.ofText text) = .ok path := by
  unfold Interpreter.detected
  cases Interpreter.find? site files (Interpreter.nameSought site explicit) with
  | none => simp
  | some text =>
      cases resolved : files.resolve site.workingDirectory (Path.ofText text) <;>
        simp [resolved, Except.map]

section Verdict

variable {site : Site} {explicit : Option String} {session : Session}
  {detection : Interpreter.Detection} {checks : List Check}

/-- After the search and the checks, only the text of the report can be missing. -/
theorem conclusion_of_rows
    (searched : Interpreter.detected site explicit session.files = .ok detection)
    (made : rows site (session.outcomeAt 0).ending detection = .ok checks) :
    conclusion site explicit session =
      ((reportText site.console detection checks).map fun _ =>
        !checks.any Check.fails).mapError .unexpected := by
  rw [conclusion, searched]
  simp only [Except.mapError, bind, Except.bind, made]
  cases reportText site.console detection checks <;> rfl

theorem canBeTold_iff_of_rows
    (searched : Interpreter.detected site explicit session.files = .ok detection)
    (made : rows site (session.outcomeAt 0).ending detection = .ok checks) :
    CanBeTold site explicit session ↔
      ∃ text, reportText site.console detection checks = .ok text := by
  rw [exists_reportText_iff site.console searched]
  constructor
  · intro canBeTold library styled
    exact canBeTold.table library styled detection checks searched made
  · intro accepted
    refine ⟨(exists_detected_iff _ _ _).mp ⟨detection, searched⟩, ?_⟩
    intro library styled otherDetection otherChecks otherSearched otherMade
    cases searched.symm.trans otherSearched
    cases made.symm.trans otherMade
    exact accepted library styled

/-- Values whose tags come in pairs can be told on every console. -/
theorem canBeTold_of_paired
    (searched : Interpreter.detected site explicit session.files = .ok detection)
    (made : rows site (session.outcomeAt 0).ending detection = .ok checks)
    (paired : site.console = .plain ∨ ∀ check ∈ checks, Console.IsPaired check.value.toList) :
    CanBeTold site explicit session := by
  rw [canBeTold_iff_of_rows searched made, exists_reportText_iff site.console searched]
  intro library styled
  rcases paired with plain | values
  · rw [plain] at styled
    cases styled
  · exact library.refusal?_of_paired .table (isPaired_cellTexts made values)

/-- A value with a closing tag that has nothing to close cannot be told with styles. -/
theorem not_canBeTold_of_stray {library : Console.MarkupLibrary} {check : Check}
    (styled : site.console = .styledBy library)
    (searched : Interpreter.detected site explicit session.files = .ok detection)
    (made : rows site (session.outcomeAt 0).ending detection = .ok checks)
    (member : check ∈ checks) (stray : Console.HasStrayClosing check.value.toList) :
    ¬ CanBeTold site explicit session := by
  intro canBeTold
  have inTable : check.value.toList ∈ cellTexts checks :=
    List.mem_flatMap.mpr ⟨check, member, by simp [rowTexts]⟩
  exact library.refusal?_of_stray .table inTable stray
    (canBeTold.table library styled detection checks searched made)

end Verdict

theorem report_of_canBeTold {site : Site} {explicit : Option String} {session : Session}
    (enough : reaches (majorMinor site.platform.runtime) requiredRuntime = true)
    (probed : IsProbed (session.outcomeAt 0).ending)
    (canBeTold : CanBeTold site explicit session) :
    ∃ after, (report site explicit).outcome session =
        (.ok (Interpreter.find? site session.files (Interpreter.nameSought site explicit)).isSome,
          after) ∧
      IsToldWhole site explicit session after := by
  obtain ⟨detection, searched⟩ := (exists_detected_iff _ _ _).mpr canBeTold.place
  obtain ⟨checks, made⟩ := exists_rows_of_isProbed site probed detection
  obtain ⟨text, isText⟩ := (canBeTold_iff_of_rows searched made).mp canBeTold
  obtain ⟨after, ended, output, told⟩ := report_outcome site explicit session
  have whole := told detection checks text searched made isText
  refine ⟨after, ?_, output, detection, checks, text, searched, made, isText, whole⟩
  rw [ended, conclusion_of_rows searched made, isText, any_fails_of_rows enough made,
    ← Interpreter.isSome_path_of_detected searched]
  cases detection.path? <;> rfl

theorem report_of_not_canBeTold {site : Site} {explicit : Option String} {session : Session}
    (probed : IsProbed (session.outcomeAt 0).ending)
    (cannot : ¬ CanBeTold site explicit session) :
    ∃ error after, (report site explicit).outcome session = (.error (.unexpected error), after) := by
  obtain ⟨after, ended, _⟩ := report_outcome site explicit session
  rw [ended]
  cases searched : Interpreter.detected site explicit session.files with
  | error error => exact ⟨error, after, by rw [conclusion, searched]; rfl⟩
  | ok detection =>
      obtain ⟨checks, made⟩ := exists_rows_of_isProbed site probed detection
      rw [canBeTold_iff_of_rows searched made] at cannot
      rw [conclusion_of_rows searched made]
      cases isText : reportText site.console detection checks with
      | error error => exact ⟨error, after, rfl⟩
      | ok text => exact absurd ⟨text, isText⟩ cannot

/-- The report is told whole, and its verdict is whether an interpreter was found, exactly when it
can be told; otherwise it stops with an unexpected error. It can be told on a plain console, and
with styles when the tags in its values come in pairs, but not when a closing tag in one of them
has nothing to close. -/
theorem report_verdict (site : Site) (explicit : Option String) (session : Session)
    (enough : reaches (majorMinor site.platform.runtime) requiredRuntime = true)
    (probed : IsProbed (session.outcomeAt 0).ending) :
    (CanBeTold site explicit session → ∃ after,
      (report site explicit).outcome session =
        (.ok (Interpreter.find? site session.files (Interpreter.nameSought site explicit)).isSome,
          after) ∧
      IsToldWhole site explicit session after) ∧
    (¬ CanBeTold site explicit session → ∃ error after,
      (report site explicit).outcome session = (.error (.unexpected error), after)) ∧
    ∀ detection checks, Interpreter.detected site explicit session.files = .ok detection →
      rows site (session.outcomeAt 0).ending detection = .ok checks →
      (site.console = .plain ∨ (∀ check ∈ checks, Console.IsPaired check.value.toList) →
        CanBeTold site explicit session) ∧
      ∀ library check, site.console = .styledBy library → check ∈ checks →
        Console.HasStrayClosing check.value.toList → ¬ CanBeTold site explicit session :=
  ⟨report_of_canBeTold enough probed, report_of_not_canBeTold probed,
    fun _ _ searched made => ⟨canBeTold_of_paired searched made,
      fun _ _ styled member stray => not_canBeTold_of_stray styled searched made member stray⟩⟩

/-! ## The sample machine with a styled console -/

def styledSample : Site :=
  { sampleSite with console := .styled }

/-- A session on the sample machine whose version probe prints a text. -/
def probedSession (printed : String) : Session :=
  { files := sampleFiles, outcomes := [{ ending := .completed { output := some printed } }] }

theorem find?_styledSample :
    Interpreter.find? styledSample sampleFiles
      (Interpreter.nameSought styledSample (some "./s")) = some "./s" := by
  cbv

theorem resolve_styledSample :
    sampleFiles.resolve styledSample.workingDirectory (Path.ofText "./s") =
      .ok (Path.ofText "/w/s") := by
  cbv

theorem detected_styledSample :
    Interpreter.detected styledSample (some "./s") sampleFiles =
      .ok (.found (Path.ofText "/w/s")) := by
  simp only [Interpreter.detected, find?_styledSample, resolve_styledSample]
  rfl

theorem rows_styledSample {printed version : String}
    (read : Interpreter.firstLine? printed = some version) :
    rows styledSample ((probedSession printed).outcomeAt 0).ending (.found (Path.ofText "/w/s")) =
      .ok [programCheck, runtimeCheck styledSample.platform,
        interpreterCheck (.found (Path.ofText "/w/s")), ⟨"version", version, okStatus⟩,
        systemCheck styledSample.platform] := by
  have probed : Interpreter.versionOf ((probedSession printed).outcomeAt 0).ending =
      .ok (some version) := congrArg Except.ok read
  simp only [rows, versionRow, probed]
  rfl

/-- The sample machine has an interpreter with a styled word in its version, and the report says
so. -/
theorem report_verdict_of_sample :
    ∃ after, (report styledSample (some "./s")).outcome (probedSession "9.1 [b]x86[/b] (a)\n") =
        (.ok true, after) ∧
      IsToldWhole styledSample (some "./s") (probedSession "9.1 [b]x86[/b] (a)\n") after := by
  have read : Interpreter.firstLine? "9.1 [b]x86[/b] (a)\n" = some "9.1 [b]x86[/b] (a)" := by
    decide +kernel
  have version : Console.IsPaired "9.1 [b]x86[/b] (a)".toList := by
    have text : "9.1 [b]x86[/b] (a)".toList =
        "9.1 ".toList ++ (Console.inStyle "b".toList "x86".toList ++ " (a)".toList) := by decide
    rw [text]
    exact .append (.of_plain (by decide)) (.append (.inStyle (by decide) (by decide))
      (.of_nested (.of_plain (by decide))))
  have others : ∀ value ∈ [programCheck.value, (runtimeCheck styledSample.platform).value,
      (interpreterCheck (.found (Path.ofText "/w/s"))).value,
      (systemCheck styledSample.platform).value], Console.IsBracketFree value := by decide +kernel
  simp only [List.forall_mem_cons] at others
  obtain ⟨program, runtime, interpreter, system, _⟩ := others
  have canBeTold := canBeTold_of_paired detected_styledSample (rows_styledSample read) (.inr (by
    simp only [List.forall_mem_cons]
    exact ⟨program.isPaired, runtime.isPaired, interpreter.isPaired, version, system.isPaired,
      by simp⟩))
  have verdict := (report_verdict styledSample (some "./s") (probedSession "9.1 [b]x86[/b] (a)\n")
    (by decide +kernel) rfl).1 canBeTold
  rw [show (probedSession "9.1 [b]x86[/b] (a)\n").files = sampleFiles from rfl,
    find?_styledSample] at verdict
  exact verdict

/-- A version with a closing tag in it stops the report on a styled console. -/
theorem report_stops_at_tagged_version :
    ∃ error after, (report styledSample (some "./s")).outcome (probedSession "9 [/b]\n") =
      (.error (.unexpected error), after) := by
  have read : Interpreter.firstLine? "9 [/b]\n" = some "9 [/b]" := by decide +kernel
  have stray : Console.HasStrayClosing "9 [/b]".toList := by
    refine ⟨"9 ".toList, "b".toList, [], .of_plain (by decide), ?_, by decide⟩
    exact ⟨'/', "b".toList, rfl, by decide, List.all_eq_true.mp (by decide)⟩
  have listed : ⟨"version", "9 [/b]", okStatus⟩ ∈ [programCheck,
      runtimeCheck styledSample.platform, interpreterCheck (.found (Path.ofText "/w/s")),
      ⟨"version", "9 [/b]", okStatus⟩, systemCheck styledSample.platform] := by simp
  exact report_of_not_canBeTold rfl (not_canBeTold_of_stray rfl detected_styledSample
    (rows_styledSample read) listed stray)

end PrologImage.Health
