import PrologImage.Proofs.FileSystem.Agreement
import PrologImage.Proofs.Interpreter.CleanQuestion

/-!
Contract: the check of the image after a save.

Owns: that the check finds the image at every output that is looked up the way it is resolved, the
exact condition for all other outputs, and an output where the check misses the image.

Does not own: images that were there before (`Proofs.Application.SavedImage`).

The process is told the resolved form of the output, and the check looks the output up as it is
written.
-/

namespace PrologImage.Interpreter

section Check

variable {site : Site} {settings : Settings} {workbench : Workbench} {sources : List Path}
  {output image : Path} {options : SaveOptions} {verbose : Bool} {process : StartedProcess}

/-- A clean save ends with what the look for its output finds. -/
theorem saveImage_eq_of_cleanAt
    (clean : Question.CleanAt site settings workbench
      { sources, image := some (output, options), verbose } 0 process) :
    ((saveImage site settings sources output options verbose).outcome workbench).1 =
      match (workbench.session.filesAt 1).holds site.workingDirectory output with
      | .ok true => .ok none
      | .ok false => .error (.reported (imageMissing output))
      | .error refusal => .error (.unexpected (.system refusal)) := by
  obtain ⟨after, saved, _⟩ :=
    saveImage_outcome site settings sources output options verbose workbench
  rw [saved, saveAnswer, Question.answer_of_cleanAt clean]
  rcases (workbench.session.filesAt 1).holds site.workingDirectory output with refusal | _ | _ <;>
    rfl

/-- A regular file at the resolved form of a straightforward path is at the path itself. -/
theorem isRegular_of_straightforward {files : FileSystem} {base : Location}
    (resolved : files.resolve base output = .ok image)
    (straightforward : files.Straightforward base output)
    (written : files.IsRegular base image) :
    files.locate base true output.text = files.locate base true image.text ∧
      files.IsRegular base output := by
  cases found : files.locate base true image.text with
  | error error => simp [FileSystem.IsRegular, FileSystem.status, found] at written
  | ok location =>
      have same := straightforward.locate_eq resolved found
      refine ⟨same, ?_⟩
      rwa [FileSystem.IsRegular, FileSystem.status, same, ← found, ← FileSystem.status]

theorem leads_of_isRegular {files : FileSystem} {base : Location} {path : Path}
    (regular : files.IsRegular base path) : files.Leads base path :=
  regular.elim (fun file => ⟨_, file⟩) fun executable => ⟨_, executable⟩

/-- The process of a clean save is told to write the resolved output. When a regular file is there
afterwards, the save answers nothing exactly if the output, as it is written, leads somewhere, and
otherwise it fails. At a straightforward output that still resolves as before, the check finds the
very file, and the save answers nothing. -/
theorem saveImage_of_written_image
    (clean : Question.CleanAt site settings workbench
      { sources, image := some (output, options), verbose } 0 process)
    (place : workbench.session.files.resolve site.workingDirectory output = .ok image)
    (written : (workbench.session.filesAt 1).IsRegular site.workingDirectory image) :
    (∃ program targets, process.command =
      commandLine program verbose [consultGoal targets, saveGoal image options]) ∧
    (((saveImage site settings sources output options verbose).outcome workbench).1 = .ok none ↔
      (workbench.session.filesAt 1).Leads site.workingDirectory output) ∧
    (¬ (workbench.session.filesAt 1).Leads site.workingDirectory output →
      ((saveImage site settings sources output options verbose).outcome workbench).1 =
        .error (.reported (imageMissing output)) ∨
      ∃ refusal,
        (workbench.session.filesAt 1).entryOf? site.workingDirectory output = .error refusal ∧
        ((saveImage site settings sources output options verbose).outcome workbench).1 =
          .error (.unexpected (.system refusal))) ∧
    ((workbench.session.filesAt 1).resolve site.workingDirectory output = .ok image →
      (workbench.session.filesAt 1).Straightforward site.workingDirectory output →
        (workbench.session.filesAt 1).locate site.workingDirectory true output.text =
          (workbench.session.filesAt 1).locate site.workingDirectory true image.text ∧
        ((saveImage site settings sources output options verbose).outcome workbench).1 =
          .ok none) := by
  have ends := saveImage_eq_of_cleanAt clean
  have answers : ((saveImage site settings sources output options verbose).outcome workbench).1 =
      .ok none ↔ (workbench.session.filesAt 1).Leads site.workingDirectory output := by
    rw [ends, ← FileSystem.holds_eq_ok_true_iff]
    rcases (workbench.session.filesAt 1).holds site.workingDirectory output with
      refusal | _ | _ <;> simp
  refine ⟨?_, answers, ?_, ?_⟩
  · obtain ⟨program, targets, rfl⟩ := Question.command_of_cleanAt clean place
    exact ⟨program, targets, rfl⟩
  · intro nowhere
    rw [ends]
    rw [← FileSystem.holds_eq_ok_true_iff] at nowhere
    cases looked : (workbench.session.filesAt 1).holds site.workingDirectory output with
    | error refusal =>
        exact Or.inr ⟨refusal, (FileSystem.holds_eq_error_iff _ _ _ _).mp looked, rfl⟩
    | ok found =>
        cases found with
        | false => exact Or.inl rfl
        | true => exact absurd looked nowhere
  · intro resolved straightforward
    obtain ⟨same, regular⟩ := isRegular_of_straightforward resolved straightforward written
    exact ⟨same, answers.mpr (leads_of_isRegular regular)⟩

end Check

/-! ## Two saves on the sample machine -/

/-- A session in which the next process writes a file `n`. -/
def writingSession (files : FileSystem) : Session :=
  { files, outcomes := [{ writes := [["w", "n"]] }] }

/-- The sample machine with a link to a file that is not there. -/
def linkedFiles : FileSystem :=
  sampleFiles.replace ["w", "l"] (.link "n")

/-- The machine after this file was written. -/
def linkedFilesAfter : FileSystem :=
  ⟨(["w", "n"], .file) :: linkedFiles.entries⟩

theorem straightforward_linkedFilesAfter :
    linkedFilesAfter.Straightforward ["w"] (Path.ofText "l") := by
  have enterable : linkedFilesAfter.Enterable ["w"] := .down (.root rfl) (by decide) (by decide) rfl
  have parts : (Path.ofText "l").parts = ["l"] := by decide
  have located : linkedFilesAfter.locate ["w"] true (Path.ofText "l").text = .ok ["w", "n"] := by
    cbv
  refine ⟨enterable, ?_, ?_, by decide, by decide, by simp [located]⟩
  · intro location target isLink
    rw [FileSystem.entry?, List.lookup_eq_some_iff] at isLink
    obtain ⟨_, _, split, _⟩ := isLink
    have member : (location, .link target) ∈ linkedFilesAfter.entries := by simp [split]
    obtain ⟨_, rfl⟩ : location = ["w", "l"] ∧ target = "n" := by
      simpa [linkedFilesAfter, linkedFiles, FileSystem.replace, FileSystem.remove,
        sampleFiles] using member
    decide
  · intro front after _ split
    exact FileSystem.Straightforward.grounded_of_leading enterable (by simp [parts, IsDot]) front
      after split

/-- A save at a link to a file that is not there writes this file and answers nothing. -/
theorem saveImage_of_linked_image :
    ((writingSession linkedFiles).filesAt 1).IsRegular ["w"] (Path.ofText "/w/n") ∧
    ((saveImage sampleSite {} [] (Path.ofText "l") {} false).outcome
      ⟨writingSession linkedFiles, some (Path.ofText "/w/s")⟩).1 = .ok none := by
  have place : linkedFiles.resolve ["w"] (Path.ofText "l") = .ok (Path.ofText "/w/n") := by cbv
  have written : linkedFilesAfter.IsRegular ["w"] (Path.ofText "/w/n") := Or.inl (by cbv)
  have resolved : linkedFilesAfter.resolve ["w"] (Path.ofText "l") = .ok (Path.ofText "/w/n") := by
    cbv
  have clean : Question.CleanAt sampleSite {}
      ⟨writingSession linkedFiles, some (Path.ofText "/w/s")⟩
      { sources := [], image := some (Path.ofText "l", {}) } 0 _ :=
    Question.cleanAt_of_no_sources rfl place rfl
  refine ⟨written, ?_⟩
  exact ((saveImage_of_written_image clean place written).2.2.2 resolved
    straightforward_linkedFilesAfter).2

/-- A name that is not there and back stands for nothing in a resolved path. -/
theorem resolve_over_missing :
    sampleFiles.resolve ["w"] (Path.ofText "m/../n") = .ok (Path.ofText "/w/n") := by
  let start : Route := ⟨.relative, []⟩
  have parts : (Path.ofText "m/../n").parts = ["m", "..", "n"] := by decide
  have begins : start.startOf (Path.ofText "m/../n").text.toList = start := by decide
  have noLinkOver : sampleFiles.linkTarget? ["w"] (start.child "m") = .ok none := by cbv
  have back : (start.child "m").parent = start := by decide
  have noLinkAfter : sampleFiles.linkTarget? ["w"] (start.child "n") = .ok none := by cbv
  have followed : sampleFiles.follow ["w"] FileSystem.linkDepth [] start ["m", "..", "n"] =
      .ok ⟨start.child "n", true, []⟩ := by
    rw [FileSystem.follow_child (by decide) noLinkOver, FileSystem.follow_up, back,
      FileSystem.follow_child (by decide) noLinkAfter, FileSystem.follow]
  have missing : sampleFiles.locate ["w"] true (Path.ofText "/w/n").text = .error .missing := by
    cbv
  have absolute : (start.child "n").absolute ["w"] = Path.ofText "/w/n" := by decide
  refine FileSystem.resolve_eq_ok_iff.mpr ⟨⟨start.child "n", true, []⟩, ?_, absolute, ?_⟩
  · rw [FileSystem.follow_text, parts, begins, followed]
  · simp [missing]

/-- A save whose output goes over a name that is not there and back writes its image and reports it
as missing. -/
theorem saveImage_misses_written_image :
    (∃ process, Question.CleanAt sampleSite {}
      ⟨writingSession sampleFiles, some (Path.ofText "/w/s")⟩
      { sources := [], image := some (Path.ofText "m/../n", {}) } 0 process) ∧
    sampleFiles.resolve ["w"] (Path.ofText "m/../n") = .ok (Path.ofText "/w/n") ∧
    ((writingSession sampleFiles).filesAt 1).IsRegular ["w"] (Path.ofText "/w/n") ∧
    ((saveImage sampleSite {} [] (Path.ofText "m/../n") {} false).outcome
      ⟨writingSession sampleFiles, some (Path.ofText "/w/s")⟩).1 =
        .error (.reported (imageMissing (Path.ofText "m/../n"))) := by
  have place := resolve_over_missing
  have clean : Question.CleanAt sampleSite {}
      ⟨writingSession sampleFiles, some (Path.ofText "/w/s")⟩
      { sources := [], image := some (Path.ofText "m/../n", {}) } 0 _ :=
    Question.cleanAt_of_no_sources rfl place rfl
  have missing : ((writingSession sampleFiles).filesAt 1).holds sampleSite.workingDirectory
      (Path.ofText "m/../n") = .ok false := by
    have text : (Path.ofText "m/../n").text = "m/../n" := by decide +kernel
    rw [FileSystem.holds, FileSystem.entryOf?, text, FileSystem.status,
      FileSystem.locate_eq_walk (by decide) (by decide) (by decide)]
    cbv
  refine ⟨⟨_, clean⟩, place, Or.inl (by cbv), ?_⟩
  rw [saveImage_eq_of_cleanAt clean, missing]

end PrologImage.Interpreter
