import PrologImage.Proofs.Application.CleanBuild

/-!
Contract: what a successful build says about its image.

Owns: the image that the process of the save step was told to write and has written; the older
output that is taken for it; and the theorem that success promises the image except for such an
output.

The check after a save asks only whether anything is at the output. It does not ask whether the
save put it there.
-/

namespace PrologImage.Application

open Interpreter

section Image

variable (site : Site) (settings : Settings) (session : Session) (request : Request)
  (output : Path)

/-- The last process of a build was told to save an image at a place, has written a file there, and
the file is there at the end. -/
structure ImageSaved (after : Session) (image : Path) : Prop where
  place : (session.filesAt request.inputs.length).resolve site.workingDirectory output = .ok image
  named : ∃ earlier program targets limit, after.started = earlier ++
    [⟨commandLine program request.verbose [consultGoal targets, saveGoal image {}], limit⟩]
  written : Location.ofText image.text ∈ (session.outcomeAt request.inputs.length).writes
  present : after.files.entry? (Location.ofText image.text) = some .file

/-- The steps of a build get through to the check of the image, the last process did not write the
image, and something is at the output nevertheless. -/
structure StaleOutput : Prop where
  loads : ∀ step < request.inputs.length, ∃ process,
    LoadClean site settings session request step process
  asked : ∃ process, Question.CleanAt site settings ⟨session, none⟩
    { sources := request.inputs, image := some (output, {}), verbose := request.verbose }
    request.inputs.length process
  unwritten : ∀ image,
    (session.filesAt request.inputs.length).resolve site.workingDirectory output = .ok image →
      Location.ofText image.text ∉ (session.outcomeAt request.inputs.length).writes
  leads : (session.filesAt (request.inputs.length + 1)).Leads site.workingDirectory output

end Image

section Run

variable {site : Site} {arguments : List String} {session : Session}
  {options : CommandLine.Options} {request : Request} {output : Path}

/-- Without a write of the last process, what is at the output was there before it. -/
theorem staleOutput_iff_of_no_writes {settings : Settings}
    (idle : (session.outcomeAt request.inputs.length).writes = []) :
    StaleOutput site settings session request output ↔
      (∀ step < request.inputs.length, ∃ process,
        LoadClean site settings session request step process) ∧
      (∃ process, Question.CleanAt site settings ⟨session, none⟩
        { sources := request.inputs, image := some (output, {}), verbose := request.verbose }
        request.inputs.length process) ∧
      (session.filesAt request.inputs.length).Leads site.workingDirectory output := by
  have sameFiles : session.filesAt (request.inputs.length + 1) =
      session.filesAt request.inputs.length := by
    rw [Session.filesAt_succ, ProcessOutcome.applied, idle]
    rfl
  constructor
  · rintro ⟨loads, asked, _, leads⟩
    rw [sameFiles] at leads
    exact ⟨loads, asked, leads⟩
  · rintro ⟨loads, asked, leads⟩
    refine ⟨loads, asked, ?_, ?_⟩
    · intro image _ written
      rw [idle] at written
      cases written
    · rw [sameFiles]
      exact leads

/-- The image of a clean save step is saved when its process wrote it. -/
theorem imageSaved_of_cleanBuild {after : Session} {image : Path} {settings : Settings}
    {loads saves : List StartedProcess}
    (clean : CleanBuild site settings session request .precompile loads saves)
    (advances : session.Advances after (loads ++ saves))
    (asked : request.output = some output)
    (place : (session.filesAt request.inputs.length).resolve site.workingDirectory output =
      .ok image)
    (written : Location.ofText image.text ∈ (session.outcomeAt request.inputs.length).writes) :
    ImageSaved site session request output after image := by
  obtain ⟨other, process, askedOther, rfl, cleanSave⟩ := clean.saved
  obtain rfl : output = other := Option.some.inj (asked.symm.trans askedOther)
  obtain ⟨program, targets, rfl⟩ := Question.command_of_cleanAt cleanSave.asked place
  refine ⟨place, ⟨session.started ++ loads, program, targets, settings.limit, ?_⟩, written, ?_⟩
  · rw [advances.started, List.append_assoc]
  · rw [advances.files, List.length_append, clean.length, List.length_singleton,
      Session.filesAt_succ]
    exact ProcessOutcome.entry?_applied _ _ written

/-- A stale output does not keep a build from success. -/
theorem main_of_staleOutput
    (invoked : CommandLine.Invocation.ofArguments (splitArguments arguments).1 =
      .ok (.run options (.build .precompile)))
    (requested : Request.ofArguments arguments = .ok request)
    (asked : request.output = some output)
    (stale : StaleOutput site (settingsOf options) session request output) :
    ((main site arguments).outcome session).1 = .ok .success := by
  obtain ⟨process, cleanAsked⟩ := stale.asked
  have cleanSave : SaveClean site (settingsOf options) session request output process :=
    ⟨cleanAsked, stale.leads⟩
  apply main_of_cleanSteps invoked requested
  exact ⟨stale.loads, fun _ => ⟨output, process, asked, cleanSave⟩⟩

/-- A build that exits with success has saved its image, unless the output is a stale one: this is
the only way in which success can lack an image. A save that writes nothing is taken for a success
exactly when something was at the output before. -/
theorem main_saves_image_iff_not_staleOutput
    (invoked : CommandLine.Invocation.ofArguments (splitArguments arguments).1 =
      .ok (.run options (.build .precompile)))
    (requested : Request.ofArguments arguments = .ok request)
    (asked : request.output = some output) :
    ((((main site arguments).outcome session).1 = .ok .success →
        ∃ image, ImageSaved site session request output
          ((main site arguments).outcome session).2 image) ↔
      ¬ StaleOutput site (settingsOf options) session request output) ∧
    ((session.outcomeAt request.inputs.length).writes = [] →
      (StaleOutput site (settingsOf options) session request output ↔
        (∀ step < request.inputs.length, ∃ process,
          LoadClean site (settingsOf options) session request step process) ∧
        (∃ process, Question.CleanAt site (settingsOf options) ⟨session, none⟩
          { sources := request.inputs, image := some (output, {}), verbose := request.verbose }
          request.inputs.length process) ∧
        (session.filesAt request.inputs.length).Leads site.workingDirectory output)) := by
  refine ⟨⟨?_, ?_⟩, staleOutput_iff_of_no_writes⟩
  · intro promised stale
    obtain ⟨image, saved⟩ := promised (main_of_staleOutput invoked requested asked stale)
    exact stale.unwritten image saved.place saved.written
  · intro notStale succeeded
    obtain ⟨loads, saves, clean, advances, _⟩ :=
      cleanBuild_of_main invoked requested succeeded
    -- If the image were not among the writes, the output would be a stale one.
    by_contra unsaved
    obtain ⟨other, process, askedOther, _, cleanSave⟩ := clean.saved
    obtain rfl : output = other := Option.some.inj (asked.symm.trans askedOther)
    apply notStale
    refine ⟨(cleanSteps_iff.mpr ⟨loads, saves, clean⟩).loads, ⟨process, cleanSave.asked⟩, ?_,
      cleanSave.leads⟩
    intro image place written
    exact unsaved ⟨image, imageSaved_of_cleanBuild clean advances asked place written⟩

end Run

/-! ## Two saves on the sample machine -/

/-- The sample machine finds the interpreter that is named on its command lines. -/
theorem sample_interpreter (outcomes : List ProcessOutcome) :
    Workbench.interpreter sampleSite { explicit := some "./s" }
      ⟨{ files := sampleFiles, outcomes }, none⟩ = .ok (Path.ofText "/w/s") := by
  cbv

/-- The output of the sample machine is an older file, and the save step writes nothing. -/
theorem sample_staleOutput :
    StaleOutput sampleSite { explicit := some "./s" } { files := sampleFiles }
      { output := some (Path.ofText "o") } (Path.ofText "o") := by
  have place : sampleFiles.resolve ["w"] (Path.ofText "o") = .ok (Path.ofText "/w/o") := by cbv
  exact (staleOutput_iff_of_no_writes rfl).mpr
    ⟨by simp, ⟨_, Question.cleanAt_of_no_sources (sample_interpreter []) place rfl⟩, .file, by cbv⟩

/-- A build that saves nothing exits with success when an older file is at its output. -/
theorem main_succeeds_without_image :
    ((main sampleSite ["--swipl", "./s", "precompile", "--", "-o", "o"]).outcome
        { files := sampleFiles }).1 = .ok .success ∧
      ∀ image, ¬ ImageSaved sampleSite { files := sampleFiles }
        { output := some (Path.ofText "o") } (Path.ofText "o")
        ((main sampleSite ["--swipl", "./s", "precompile", "--", "-o", "o"]).outcome
          { files := sampleFiles }).2 image := by
  have invoked : CommandLine.Invocation.ofArguments
      (splitArguments ["--swipl", "./s", "precompile", "--", "-o", "o"]).1 =
        .ok (.run { interpreter := some "./s" } (.build .precompile)) := by decide +kernel
  have requested : Request.ofArguments ["--swipl", "./s", "precompile", "--", "-o", "o"] =
      .ok { output := some (Path.ofText "o") } := by decide +kernel
  constructor
  · exact main_of_staleOutput invoked requested rfl sample_staleOutput
  · intro image saved
    have written := saved.written
    cases written

/-- A build on the sample machine that writes a new image succeeds and has saved it. -/
theorem main_saves_new_image :
    ((main sampleSite ["--swipl", "./s", "precompile", "--", "-o", "n"]).outcome
        { files := sampleFiles, outcomes := [{ writes := [["w", "n"]] }] }).1 = .ok .success ∧
      ∃ image, ImageSaved sampleSite
        { files := sampleFiles, outcomes := [{ writes := [["w", "n"]] }] }
        { output := some (Path.ofText "n") } (Path.ofText "n")
        ((main sampleSite ["--swipl", "./s", "precompile", "--", "-o", "n"]).outcome
          { files := sampleFiles, outcomes := [{ writes := [["w", "n"]] }] }).2 image := by
  have invoked : CommandLine.Invocation.ofArguments
      (splitArguments ["--swipl", "./s", "precompile", "--", "-o", "n"]).1 =
        .ok (.run { interpreter := some "./s" } (.build .precompile)) := by decide +kernel
  have requested : Request.ofArguments ["--swipl", "./s", "precompile", "--", "-o", "n"] =
      .ok { output := some (Path.ofText "n") } := by decide +kernel
  have place : sampleFiles.resolve ["w"] (Path.ofText "n") = .ok (Path.ofText "/w/n") := by cbv
  have cleanSteps : CleanSteps sampleSite { explicit := some "./s" }
      { files := sampleFiles, outcomes := [{ writes := [["w", "n"]] }] }
      { output := some (Path.ofText "n") } .precompile :=
    ⟨by simp, fun _ => ⟨Path.ofText "n", _, rfl,
      Question.cleanAt_of_no_sources (sample_interpreter _) place rfl, .file, by cbv⟩⟩
  have succeeded := main_of_cleanSteps invoked requested cleanSteps
  refine ⟨succeeded, (main_saves_image_iff_not_staleOutput invoked requested rfl).1.mpr ?_
    succeeded⟩
  intro stale
  refine stale.unwritten (Path.ofText "/w/n") place ?_
  decide +kernel

end PrologImage.Application
