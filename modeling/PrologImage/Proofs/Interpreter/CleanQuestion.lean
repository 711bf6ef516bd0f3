import PrologImage.Proofs.Interpreter.Question

/-!
Contract: questions that are answered without an error, seen from an earlier moment.

Owns: a workbench reached from another one by a number of processes; the condition that a question
asked after a number of processes is clean, said about the files and outcomes of the start; that
this condition is exactly an answer without an error; and what a clean save is told to do.

Does not own: how many questions are asked (`Proofs.Application.CleanBuild`).
-/

namespace PrologImage.Interpreter

/-- A workbench reached from another one: the processes started in between, the text printed on
the output in between, and the interpreter that is kept. -/
structure Workbench.Reaches (site : Site) (settings : Settings) (start now : Workbench)
    (processes : List StartedProcess) (text : String) : Prop where
  advances : start.session.Advances now.session processes
  output : now.session.output = start.session.output ++ text
  interpreter : now.interpreter site settings = start.interpreter site settings

namespace Workbench.Reaches

variable {site : Site} {settings : Settings} {start middle now : Workbench}
  {first second : List StartedProcess} {before after : String}

theorem refl (workbench : Workbench) : workbench.Reaches site settings workbench [] "" where
  advances := .refl _
  output := String.append_empty.symm
  interpreter := rfl

theorem trans (left : start.Reaches site settings middle first before)
    (right : middle.Reaches site settings now second after) :
    start.Reaches site settings now (first ++ second) (before ++ after) where
  advances := left.advances.trans right.advances
  output := by rw [right.output, left.output, String.append_assoc]
  interpreter := right.interpreter.trans left.interpreter

/-- Printing on the output starts nothing. -/
theorem print (workbench : Workbench) (text : String) :
    workbench.Reaches site settings
      { workbench with session := workbench.session.writeOutput text } [] text where
  advances := .of_same rfl rfl rfl
  output := rfl
  interpreter := rfl

/-- A process that asks a question leaves the interpreter that it used. -/
theorem of_silent {process : StartedProcess} {program : Path}
    (silent : start.session.Silent now.session [process])
    (found : start.interpreter site settings = .ok program)
    (kept : now.executable = some program) : start.Reaches site settings now [process] "" where
  advances := silent.toAdvances
  output := by rw [silent.output, String.append_empty]
  interpreter := by
    rw [found]
    unfold Workbench.interpreter
    rw [kept]

end Workbench.Reaches

/-- A question that is asked after a number of processes is clean: its sources are regular files
then, the command line of a process can be made, and this process ends well. -/
structure Question.CleanAt (site : Site) (settings : Settings) (start : Workbench)
    (question : Question) (count : Nat) (process : StartedProcess) : Prop where
  regular : ∀ source ∈ question.sources,
    (start.session.filesAt count).IsRegular site.workingDirectory source
  started : ∃ program targets saving,
    start.interpreter site settings = .ok program ∧
    List.Forall₂ (fun source target =>
      (start.session.filesAt count).resolve site.workingDirectory source = .ok target)
      question.sources targets ∧
    question.saveGoals site (start.session.filesAt count) = .ok saving ∧
    process = ⟨commandLine program question.verbose (consultGoal targets :: saving),
      settings.limit⟩
  ended : ∃ completion,
    (start.session.outcomeAt count).ending = .completed completion ∧ IsClean completion

namespace Question

variable {site : Site} {settings : Settings} {start now : Workbench} {question : Question}
  {processes : List StartedProcess} {process : StartedProcess} {text : String}

/-- The same question seen from an earlier moment comes after more processes. -/
theorem cleanAt_iff_of_reaches (reached : start.Reaches site settings now processes text)
    (count : Nat) :
    question.CleanAt site settings now count process ↔
      question.CleanAt site settings start (processes.length + count) process := by
  have sameFiles := reached.advances.filesAt_eq count
  have sameOutcome := reached.advances.outcomeAt_eq count
  constructor
  · rintro ⟨regular, started, ended⟩
    rw [sameFiles] at regular started
    rw [reached.interpreter] at started
    rw [sameOutcome] at ended
    exact ⟨regular, started, ended⟩
  · rintro ⟨regular, started, ended⟩
    rw [← sameFiles] at regular started
    rw [← reached.interpreter] at started
    rw [← sameOutcome] at ended
    exact ⟨regular, started, ended⟩

/-- Seen from the moment it is asked, a clean question has a preparation and a clean end. -/
theorem cleanAt_zero_iff :
    question.CleanAt site settings now 0 process ↔
      firstMissing now.session.files site.workingDirectory question.sources = .ok none ∧
      ∃ prepared, question.preparation site settings now = .ok prepared ∧
        process = ⟨question.arguments prepared, settings.limit⟩ ∧
        ∃ completion, (now.session.outcomeAt 0).ending = .completed completion ∧
          IsClean completion := by
  rw [firstMissing_eq_ok_none_iff]
  constructor
  · rintro ⟨regular, ⟨program, targets, saving, found, resolved, places, same⟩, ended⟩
    refine ⟨regular, ⟨program, consultGoal targets :: saving⟩, ?_, same, ended⟩
    rw [preparation_eq_ok_iff]
    exact ⟨saving, targets, places, found, resolved, rfl⟩
  · rintro ⟨regular, prepared, isPrepared, same, ended⟩
    obtain ⟨saving, targets, places, found, resolved, goals⟩ :=
      (preparation_eq_ok_iff _ _ _ _ _).mp isPrepared
    refine ⟨regular, ⟨prepared.program, targets, saving, found, resolved, places, ?_⟩, ended⟩
    rw [same, arguments, goals]

theorem answer_of_cleanAt (clean : question.CleanAt site settings now 0 process) :
    question.answer site settings now = .ok none := by
  obtain ⟨noneMissing, prepared, isPrepared, _, completion, ended, isClean⟩ :=
    cleanAt_zero_iff.mp clean
  rw [answer_eq_ok_none_iff, ← firstMissing_eq_ok_none_iff]
  exact ⟨noneMissing, prepared, completion, isPrepared, ended, isClean⟩

theorem cleanAt_of_answer (answered : question.answer site settings now = .ok none) :
    ∃ process, question.CleanAt site settings now 0 process := by
  rw [answer_eq_ok_none_iff, ← firstMissing_eq_ok_none_iff] at answered
  obtain ⟨noneMissing, prepared, completion, isPrepared, ended, isClean⟩ := answered
  exact ⟨_, cleanAt_zero_iff.mpr
    ⟨noneMissing, prepared, isPrepared, rfl, completion, ended, isClean⟩⟩

/-- The process of a clean question is the one that a step starts which starts one for every
prepared question. -/
theorem reaches_of_cleanAt {after : Workbench}
    (clean : question.CleanAt site settings now 0 process)
    (ran : ∀ prepared,
      firstMissing now.session.files site.workingDirectory question.sources = .ok none →
      question.preparation site settings now = .ok prepared →
        now.session.Silent after.session [⟨question.arguments prepared, settings.limit⟩] ∧
          after.executable = some prepared.program) :
    now.Reaches site settings after [process] "" := by
  obtain ⟨noneMissing, prepared, isPrepared, same, _⟩ := cleanAt_zero_iff.mp clean
  obtain ⟨silent, kept⟩ := ran prepared noneMissing isPrepared
  rw [← same] at silent
  exact .of_silent silent (interpreter_of_preparation isPrepared) kept

/-! ### Questions that save an image -/

section Save

variable {count : Nat} {sources : List Path} {output image program : Path} {options : SaveOptions}
  {verbose : Bool}

/-- The process of a clean save is told to save at the resolved output. -/
theorem command_of_cleanAt
    (clean : CleanAt site settings start
      { sources, image := some (output, options), verbose } count process)
    (place : (start.session.filesAt count).resolve site.workingDirectory output = .ok image) :
    ∃ program targets, process =
      ⟨commandLine program verbose [consultGoal targets, saveGoal image options],
        settings.limit⟩ := by
  obtain ⟨program, targets, saving, _, _, places, rfl⟩ := clean.started
  obtain ⟨sameImage, placeAgain, rfl⟩ := (saveGoals_eq_ok_iff _ _ _ _ _ _ _).mp places
  obtain rfl : image = sameImage := Except.ok.inj (place.symm.trans placeAgain)
  exact ⟨program, targets, rfl⟩

/-- A save without sources asks a clean question once the interpreter is there, the output resolves
and the process ends with status zero and no errors. -/
theorem cleanAt_of_no_sources
    (found : start.interpreter site settings = .ok program)
    (place : (start.session.filesAt count).resolve site.workingDirectory output = .ok image)
    (ended : (start.session.outcomeAt count).ending = .completed {}) :
    CleanAt site settings start { sources := [], image := some (output, options), verbose } count
      ⟨commandLine program verbose [consultGoal [], saveGoal image options], settings.limit⟩ where
  regular := by simp
  started := ⟨program, [], [saveGoal image options], found, .nil,
    (saveGoals_eq_ok_iff _ _ _ _ _ _ _).mpr ⟨image, place, rfl⟩, rfl⟩
  ended := ⟨{}, ended, rfl, by decide⟩

end Save

end Question

/-! ## The two questions of a build -/

section Steps

variable {site : Site} {settings : Settings} {now : Workbench} {sources : List Path}
  {output : Path} {options : SaveOptions} {verbose : Bool} {process : StartedProcess}

theorem consult_of_cleanAt
    (clean : Question.CleanAt site settings now { sources, verbose } 0 process) :
    ∃ after, (consult site settings sources verbose).outcome now = (.ok none, after) ∧
      now.Reaches site settings after [process] "" := by
  obtain ⟨after, asked, ran⟩ :=
    Question.ask_outcome site settings { sources, verbose } now
  refine ⟨after, ?_, Question.reaches_of_cleanAt clean ran⟩
  rw [Question.consult_eq_ask, asked, Question.answer_of_cleanAt clean]

theorem cleanAt_of_consult {after : Workbench}
    (loaded : (consult site settings sources verbose).outcome now = (.ok none, after)) :
    ∃ process, Question.CleanAt site settings now { sources, verbose } 0 process := by
  obtain ⟨_, asked, _⟩ := Question.ask_outcome site settings { sources, verbose } now
  rw [Question.consult_eq_ask, asked] at loaded
  exact Question.cleanAt_of_answer (Prod.mk.inj loaded).1

theorem saveImage_of_cleanAt
    (clean : Question.CleanAt site settings now
      { sources, image := some (output, options), verbose } 0 process)
    (leads : (now.session.filesAt 1).Leads site.workingDirectory output) :
    ∃ after, (saveImage site settings sources output options verbose).outcome now =
        (.ok none, after) ∧ now.Reaches site settings after [process] "" := by
  obtain ⟨after, saved, ran⟩ :=
    saveImage_outcome site settings sources output options verbose now
  refine ⟨after, ?_, Question.reaches_of_cleanAt clean ran⟩
  have accepted := (saveAnswer_eq_ok_none_iff site settings
    { sources, image := some (output, options), verbose } output now).mpr
    ⟨Question.answer_of_cleanAt clean, leads⟩
  rw [saved, accepted]

theorem cleanAt_of_saveImage {after : Workbench}
    (saved : (saveImage site settings sources output options verbose).outcome now =
      (.ok none, after)) :
    (∃ process, Question.CleanAt site settings now
      { sources, image := some (output, options), verbose } 0 process) ∧
      (now.session.filesAt 1).Leads site.workingDirectory output := by
  obtain ⟨_, answered, _⟩ :=
    saveImage_outcome site settings sources output options verbose now
  rw [answered] at saved
  obtain ⟨clean, leads⟩ :=
    (saveAnswer_eq_ok_none_iff _ _ _ _ _).mp (Prod.mk.inj saved).1
  exact ⟨Question.cleanAt_of_answer clean, leads⟩

end Steps

end PrologImage.Interpreter
