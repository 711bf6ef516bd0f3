import PrologImage.Proofs.Interpreter.Question

/-!
Contract: a bad source is told before anything else is done.

Owns: what keeps a path from being a source and the complaint about it, the first bad source in a
list, and the theorem that loading and saving tell it and leave the workbench as it was.

Does not own: sources that the system refuses to look up (`Proofs.Interpreter.LetThrough`).

The check reads the files and nothing else: it does not matter whether an interpreter is kept,
could be found, or is nowhere.
-/

namespace PrologImage

/-! ## Defects -/

/-- What keeps a path from being a source: nothing is there, or something that is no regular
file. -/
inductive SourceDefect where
  | absent
  | irregular
deriving DecidableEq, Repr

/-- What is told about a source with a defect. -/
def SourceDefect.complaint (source : Path) : SourceDefect → String
  | .absent => s!"source file {source.text} does not exist"
  | .irregular => s!"source file {source.text} is not a regular file"

namespace FileSystem

/-- The defect of a path, links followed. Nothing is there when a name is missing or stands behind
something that is no directory, when links do not end, and when the text holds a character that no
path can hold. -/
inductive HasDefect (files : FileSystem) (base : Location) (path : Path) : SourceDefect → Prop
  | absent {cause : LookupError} :
      cause = .missing ∨ cause = .notDirectory ∨ cause = .tooManyLinks ∨ cause = .embeddedNul →
      files.status base path.text = .error cause → HasDefect files base path .absent
  | irregular {entry : Entry} :
      entry ≠ .file → entry ≠ .executable →
      files.status base path.text = .ok entry → HasDefect files base path .irregular

/-- A path that the system does not refuse to look up. -/
def Answers (files : FileSystem) (base : Location) (path : Path) : Prop :=
  ∃ found, files.entryOf? base path = .ok found

variable {files : FileSystem} {base : Location} {path : Path}

theorem entryOf?_eq_ok_none_iff :
    files.entryOf? base path = .ok none ↔ files.HasDefect base path .absent := by
  unfold entryOf?
  constructor
  · intro nothing
    cases looked : files.status base path.text with
    | ok entry => simp [looked] at nothing
    | error cause =>
        refine .absent ?_ looked
        cases cause <;> simp [looked] at nothing ⊢
  · rintro ⟨rfl | rfl | rfl | rfl, looked⟩ <;> rw [looked]

theorem HasDefect.not_isRegular {defect : SourceDefect}
    (hasDefect : files.HasDefect base path defect) : ¬ files.IsRegular base path := by
  unfold IsRegular
  cases hasDefect with
  | absent _ looked => simp [looked]
  | irregular notFile notExecutable looked => simp [looked, notFile, notExecutable]

theorem HasDefect.unique {defect other : SourceDefect} (first : files.HasDefect base path defect)
    (second : files.HasDefect base path other) : defect = other := by
  cases first with
  | absent _ refused =>
      cases second with
      | absent => rfl
      | irregular _ _ looked => simp [refused] at looked
  | irregular _ _ looked =>
      cases second with
      | absent _ refused => simp [looked] at refused
      | irregular => rfl

/-- A path that answers is a source or has a defect. -/
theorem exists_defect (answers : files.Answers base path)
    (notRegular : ¬ files.IsRegular base path) : ∃ defect, files.HasDefect base path defect := by
  obtain ⟨_ | entry, found⟩ := answers
  · exact ⟨.absent, entryOf?_eq_ok_none_iff.mp found⟩
  · have looked := (entryOf?_eq_ok_some_iff files base path entry).mp found
    rw [IsRegular, looked, Except.ok.injEq, Except.ok.injEq, not_or] at notRegular
    exact ⟨.irregular, .irregular notRegular.1 notRegular.2 looked⟩

end FileSystem

/-! ## The first bad source -/

namespace Interpreter

theorem firstMissing_of_regular {files : FileSystem} {base : Location} {before : List Path}
    (regular : ∀ source ∈ before, files.IsRegular base source) (rest : List Path) :
    firstMissing files base (before ++ rest) = firstMissing files base rest := by
  induction before with
  | nil => rfl
  | cons first before inductionHypothesis =>
      obtain ⟨isRegular, others⟩ := List.forall_mem_cons.mp regular
      rw [FileSystem.IsRegular, ← FileSystem.entryOf?_eq_ok_some_iff,
        ← FileSystem.entryOf?_eq_ok_some_iff] at isRegular
      rw [List.cons_append, firstMissing, ← inductionHypothesis others]
      rcases isRegular with found | found <;> rw [found] <;> simp

/-- The check stops at the first bad source and tells its defect. -/
theorem firstMissing_of_defect {files : FileSystem} {base : Location} {before : List Path}
    {source : Path} {defect : SourceDefect}
    (regular : ∀ earlier ∈ before, files.IsRegular base earlier)
    (hasDefect : files.HasDefect base source defect) (after : List Path) :
    firstMissing files base (before ++ source :: after) =
      .ok (some (.bare (defect.complaint source))) := by
  rw [firstMissing_of_regular regular, firstMissing]
  cases hasDefect with
  | absent cause looked =>
      rw [FileSystem.entryOf?_eq_ok_none_iff.mpr (.absent cause looked)]
      rfl
  | irregular notFile notExecutable looked =>
      rw [(FileSystem.entryOf?_eq_ok_some_iff _ _ _ _).mpr looked]
      simp [notFile, notExecutable, SourceDefect.complaint]

/-! ## Questions about bad sources -/

namespace Question

/-- The part of a question that needs the interpreter, once its sources are checked. -/
def askInterpreter (site : Site) (settings : Settings) (question : Question) :
    Step Workbench (Option Diagnostic) := do
  let command ← question.command site settings
  let completion ← runInterpreter site settings command
  Step.ofForeign (verdict completion)

variable (site : Site) (settings : Settings) {question : Question} {workbench : Workbench}

theorem ask_of_bad {diagnostic : Diagnostic}
    (bad : firstMissing workbench.session.files site.workingDirectory question.sources =
      .ok (some diagnostic)) :
    (question.ask site settings).outcome workbench = (.ok (some diagnostic), workbench) := by
  rw [ask, Step.outcome_bind, checkSources_outcome, bad]
  rfl

theorem ask_of_regular
    (regular : firstMissing workbench.session.files site.workingDirectory question.sources =
      .ok none) :
    (question.ask site settings).outcome workbench =
      (question.askInterpreter site settings).outcome workbench := by
  rw [ask, Step.outcome_bind, checkSources_outcome, regular]
  rfl

end Question

/-- The first source that is no regular file, if its look-up answers, is told for what it is, by
loading and by saving alike, and the workbench is the one before: nothing is started, searched for,
logged or kept. Without such a source the check passes, and the interpreter is asked. -/
theorem bad_source_is_told_first (site : Site) (settings : Settings) (sources : List Path)
    (output : Path) (options : SaveOptions) (verbose : Bool) (workbench : Workbench) :
    (∀ before source after, sources = before ++ source :: after →
      (∀ earlier ∈ before, workbench.session.files.IsRegular site.workingDirectory earlier) →
      workbench.session.files.Answers site.workingDirectory source →
      ¬ workbench.session.files.IsRegular site.workingDirectory source →
      ∃ defect, workbench.session.files.HasDefect site.workingDirectory source defect ∧
        (consult site settings sources verbose).outcome workbench =
          (.ok (some (.bare (defect.complaint source))), workbench) ∧
        (saveImage site settings sources output options verbose).outcome workbench =
          (.ok (some (.bare (defect.complaint source))), workbench)) ∧
    ((∀ source ∈ sources, workbench.session.files.IsRegular site.workingDirectory source) →
      (checkSources site sources).outcome workbench = (.ok none, workbench) ∧
      (consult site settings sources verbose).outcome workbench =
        (Question.askInterpreter site settings { sources, verbose }).outcome workbench ∧
      (saveImage site settings sources output options verbose).outcome workbench =
        (do
          match ← Question.askInterpreter site settings
              { sources, image := some (output, options), verbose } with
          | some diagnostic => return some diagnostic
          | none => lookForImage site output : Step Workbench (Option Diagnostic)).outcome
        workbench) := by
  constructor
  · rintro before source after rfl regular answers notRegular
    obtain ⟨defect, hasDefect⟩ := FileSystem.exists_defect answers notRegular
    have bad := firstMissing_of_defect regular hasDefect after
    refine ⟨defect, hasDefect, ?_, ?_⟩
    · rw [Question.consult_eq_ask]
      exact Question.ask_of_bad site settings bad
    · rw [saveImage_outcome_eq, Question.ask_of_bad site settings bad]
  · intro regular
    have noneMissing := (firstMissing_eq_ok_none_iff _ _ _).mpr regular
    refine ⟨?_, ?_, ?_⟩
    · rw [Question.checkSources_outcome, noneMissing]
      rfl
    · rw [Question.consult_eq_ask]
      exact Question.ask_of_regular site settings noneMissing
    · rw [saveImage_outcome_eq, Question.ask_of_regular site settings noneMissing,
        Step.outcome_bind]
      rcases (Question.askInterpreter site settings
        { sources, image := some (output, options), verbose }).outcome workbench with
        ⟨fault | (_ | diagnostic), after⟩ <;> rfl

/-- The sample machine with nowhere to search for the interpreter. -/
def bareSite : Site := { sampleSite with environment := [("PATH", "")] }

/-- The files of the sample machine, and a link back to their directory. -/
def foldedFiles : FileSystem := sampleFiles.replace ["w", "k"] (.link "../w/")

/-- Where no interpreter can be found, a link to a directory between a source and a missing file is
told for what it is. -/
theorem bad_source_is_told_first_of_link :
    let workbench : Workbench := ⟨{ files := foldedFiles }, none⟩
    workbench.interpreter bareSite {} =
      .error (.reported (notInstalled (installCommands "Linux"))) ∧
    foldedFiles.IsRegular ["w"] (Path.ofText "a") ∧
    foldedFiles.Answers ["w"] (Path.ofText "k") ∧
    ¬ foldedFiles.IsRegular ["w"] (Path.ofText "k") ∧
    (consult bareSite {} [Path.ofText "a", Path.ofText "k", Path.ofText "gone"] false).outcome
      workbench = (.ok (some (.bare "source file k is not a regular file")), workbench) := by
  intro workbench
  have looked : foldedFiles.status ["w"] (Path.ofText "k").text = .ok .directory := by cbv
  have regular : foldedFiles.IsRegular ["w"] (Path.ofText "a") := Or.inl (by cbv)
  have hasDefect : foldedFiles.HasDefect ["w"] (Path.ofText "k") .irregular :=
    .irregular (by decide) (by decide) looked
  have answers : foldedFiles.Answers ["w"] (Path.ofText "k") :=
    ⟨_, (FileSystem.entryOf?_eq_ok_some_iff _ _ _ _).mpr looked⟩
  have text : SourceDefect.irregular.complaint (Path.ofText "k") =
      "source file k is not a regular file" := by decide
  refine ⟨by rfl, regular, answers, hasDefect.not_isRegular, ?_⟩
  obtain ⟨told, _⟩ := bad_source_is_told_first bareSite {}
    [Path.ofText "a", Path.ofText "k", Path.ofText "gone"] (Path.ofText "o") {} false workbench
  obtain ⟨defect, isDefect, consulted, _⟩ := told [Path.ofText "a"] (Path.ofText "k")
    [Path.ofText "gone"] rfl (List.forall_mem_singleton.mpr regular) answers
    hasDefect.not_isRegular
  rw [consulted, isDefect.unique hasDefect, text]

end Interpreter

end PrologImage
