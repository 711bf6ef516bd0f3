import PrologImage.Proofs.FileSystem.PhysicalForm
import PrologImage.Proofs.Interpreter.GoalReader

/-!
Contract: the file that was checked is the file that the interpreter is given.

Owns: the physical form of sources that pass the check and of an interpreter that a search finds,
and the theorem that processes are started with these forms.

Does not own: how a resolution finds them (`Proofs.FileSystem.PhysicalForm`).
-/

namespace PrologImage

namespace FileSystem

variable {files : FileSystem} {base : Location} {text : String} {entry : Entry}
  {path source : Path} {sources : List Path}

/-- A path is the physical form of the regular file that another path leads to. -/
structure IsPhysicalFile (files : FileSystem) (base : Location) (source target : Path) : Prop
    extends files.IsPhysicalForm base source.text target where
  regular : files.entry? target.parts = some .file ∨ files.entry? target.parts = some .executable

theorem located_of_status (found : files.status base text = .ok entry) :
    ∃ place, files.locate base true text = .ok place ∧ files.entry? place = some entry := by
  unfold status at found
  split at found
  · cases found
  · rename_i place located
    split at found
    · rename_i present
      cases found
      exact ⟨place, located, present⟩
    · cases found

section Resolving

variable (physical : files.IsPhysical base) (nulFree : files.NulFree)

include physical nulFree

/-- What a text leads to is found again at the resolved form of a path with the same steps. -/
theorem resolve_of_status (found : files.status base text = .ok entry)
    (notLink : ∀ target, entry ≠ .link target)
    (sameStart : path.text.toList.head? = some '/' ↔ text.toList.head? = some '/')
    (sameSteps : steps (namesOf path.text.toList) = steps (namesOf text.toList))
    (short : files.LooksUpShort base path) :
    ∃ target, files.resolve base path = .ok target ∧ files.IsPhysicalForm base text target ∧
      files.entry? target.parts = some entry := by
  obtain ⟨place, located, present⟩ := located_of_status found
  have noLink : ∀ target, files.entry? place ≠ some (.link target) := by
    intro target isLink
    rw [present, Option.some.injEq] at isLink
    exact notLink target isLink
  obtain ⟨target, resolved, form⟩ :=
    resolve_of_located physical nulFree located noLink sameStart sameSteps short
  have same : target.parts = place := Except.ok.inj (form.located.symm.trans located)
  exact ⟨target, resolved, form, by rw [same, present]⟩

theorem resolve_of_isRegular (regular : files.IsRegular base source)
    (short : files.LooksUpShort base source) :
    ∃ target, files.resolve base source = .ok target ∧
      files.IsPhysicalFile base source target := by
  rcases regular with found | found
  · obtain ⟨target, resolved, form, present⟩ :=
      resolve_of_status physical nulFree found (by simp) Iff.rfl rfl short
    exact ⟨target, resolved, form, Or.inl present⟩
  · obtain ⟨target, resolved, form, present⟩ :=
      resolve_of_status physical nulFree found (by simp) Iff.rfl rfl short
    exact ⟨target, resolved, form, Or.inr present⟩

theorem resolve_of_all_isRegular (regular : ∀ source ∈ sources, files.IsRegular base source)
    (short : ∀ source ∈ sources, files.LooksUpShort base source) :
    ∃ targets,
      List.Forall₂ (fun source target => files.resolve base source = .ok target) sources targets ∧
      List.Forall₂ (files.IsPhysicalFile base) sources targets := by
  induction sources with
  | nil => exact ⟨[], .nil, .nil⟩
  | cons source rest inductionHypothesis =>
      obtain ⟨regularFirst, regularRest⟩ := List.forall_mem_cons.mp regular
      obtain ⟨shortFirst, shortRest⟩ := List.forall_mem_cons.mp short
      obtain ⟨target, resolved, isFile⟩ :=
        resolve_of_isRegular physical nulFree regularFirst shortFirst
      obtain ⟨targets, resolvedRest, areFiles⟩ := inductionHypothesis regularRest shortRest
      exact ⟨target :: targets, .cons resolved resolvedRest, .cons isFile areFiles⟩

end Resolving

end FileSystem

namespace Interpreter

variable {site : Site} {workbench : Workbench}

theorem status_of_find? {files : FileSystem} {name text : String}
    (found : find? site files name = some text) :
    files.status site.workingDirectory text = .ok .executable := by
  have runs : isExecutable files site.workingDirectory text = true := List.find?_some found
  unfold isExecutable at runs
  split at runs
  · assumption
  · cases runs

/-- The file that was checked is the file that is handed to the interpreter.

Seen from a physical working directory, on a machine whose file names hold no character that ends a
text for the system, and as long as no text that a resolution looks up is too long: a source that is
checked to be a regular file resolves to the place of that file, which is absolute and free of dots
and links, whatever links and double dots the source leads through. Once all sources pass the check
and the interpreter is there, loading them and saving an image of them each start one process, whose
first goal reads back as exactly these places. An interpreter that the search finds resolves in the
same way to the place of the executable that was found. -/
theorem checked_file_is_handed_over
    (physical : workbench.session.files.IsPhysical site.workingDirectory)
    (nulFree : workbench.session.files.NulFree) :
    let files := workbench.session.files
    let base := site.workingDirectory
    (∀ source, files.IsRegular base source → files.LooksUpShort base source →
      ∃ target, files.resolve base source = .ok target ∧
        files.IsPhysicalFile base source target) ∧
    (∀ sources settings program, firstMissing files base sources = .ok none →
      (∀ source ∈ sources, files.LooksUpShort base source) →
      workbench.interpreter site settings = .ok program →
      ∃ targets, List.Forall₂ (files.IsPhysicalFile base) sources targets ∧
        readConsultGoal (consultGoal targets) = some (targets.map Path.text) ∧
        (∀ verbose,
          ((consult site settings sources verbose).outcome workbench).2.session.started =
            workbench.session.started ++
              [⟨commandLine program verbose [consultGoal targets], settings.limit⟩]) ∧
        ∀ output options image verbose, files.resolve base output = .ok image →
          ((saveImage site settings sources output options verbose).outcome
              workbench).2.session.started =
            workbench.session.started ++
              [⟨commandLine program verbose [consultGoal targets, saveGoal image options],
                settings.limit⟩]) ∧
    ∀ explicit text, find? site files (nameSought site explicit) = some text →
      files.LooksUpShort base (Path.ofText text) →
      ∃ target,
        ((detect site explicit).outcome workbench.session).1 = .ok (.found target) ∧
        files.IsPhysicalForm base text target ∧
        files.entry? target.parts = some .executable := by
  intro files base
  refine ⟨fun source => FileSystem.resolve_of_isRegular physical nulFree, ?_, ?_⟩
  · intro sources settings program noneMissing short found
    have regular := (firstMissing_eq_ok_none_iff files base sources).mp noneMissing
    obtain ⟨targets, resolved, areFiles⟩ :=
      FileSystem.resolve_of_all_isRegular physical nulFree regular short
    refine ⟨targets, areFiles, read_consultGoal targets, ?_, ?_⟩
    · intro verbose
      obtain ⟨after, asked, ran⟩ :=
        Question.ask_outcome site settings { sources, verbose } workbench
      rw [Question.consult_eq_ask, asked]
      exact (ran _ noneMissing (Question.preparation_to_load found resolved)).1.started
    · intro output options image verbose place
      obtain ⟨after, saved, ran⟩ :=
        saveImage_outcome site settings sources output options verbose workbench
      rw [saved]
      exact (ran _ noneMissing (Question.preparation_to_save found resolved place)).1.started
  · intro explicit text found short
    have sameSteps : steps (namesOf (Path.ofText text).text.toList) = steps (namesOf text.toList) :=
      (Path.steps_namesOf_text _).trans (Path.parts_ofText text)
    obtain ⟨target, resolved, form, present⟩ :=
      FileSystem.resolve_of_status physical nulFree (status_of_find? found) (by simp)
        (Path.head?_text_ofText text) sameSteps short
    refine ⟨target, ?_, form, present⟩
    rw [detect_outcome, detected, found]
    dsimp only
    rw [resolved]
    rfl

/-! ## A source behind two links -/

/-- A source that is a link to a file behind another link and up again, and an interpreter behind
the same link. -/
def crossedFiles : FileSystem :=
  ⟨[([], .directory), (["w"], .directory), (["w", "l"], .link "/s/d/"),
    (["w", "m"], .link "l/..//f"), (["s"], .directory), (["s", "d"], .directory),
    (["s", "f"], .file), (["s", "x"], .executable)]⟩

theorem isPhysical_crossedFiles : crossedFiles.IsPhysical sampleSite.workingDirectory where
  named := by decide
  within := by
    intro front beginning shorter
    have split : sampleSite.workingDirectory = [] ++ ["w"] := rfl
    rw [split, List.prefix_concat_iff, List.prefix_nil] at beginning
    rcases beginning with whole | atRoot
    · exact absurd whole shorter
    · rw [atRoot]
      rfl

theorem nulFree_crossedFiles : crossedFiles.NulFree :=
  .of_entries (by decide)

theorem looksUpShort_source : crossedFiles.LooksUpShort ["w"] (Path.ofText "m") := by
  have start : Route.startOf ⟨.relative, []⟩ (Path.ofText "m").text.toList = ⟨.relative, []⟩ := by
    decide +kernel
  have names : namesOf (Path.ofText "m").text.toList = ["m"] := by decide +kernel
  have texts : crossedFiles.lookups ["w"] FileSystem.linkDepth [] ⟨.relative, []⟩ ["m"] =
      ["m", "l", "/s", "/s/d", "/s/f"] := by cbv
  unfold FileSystem.LooksUpShort
  rw [start, names, texts]
  decide

theorem looksUpShort_interpreter : crossedFiles.LooksUpShort ["w"] (Path.ofText "l/../x") := by
  have start : Route.startOf ⟨.relative, []⟩ (Path.ofText "l/../x").text.toList =
      ⟨.relative, []⟩ := by decide +kernel
  have names : namesOf (Path.ofText "l/../x").text.toList = ["l", "..", "x"] := by decide +kernel
  have texts : crossedFiles.lookups ["w"] FileSystem.linkDepth [] ⟨.relative, []⟩
      ["l", "..", "x"] = ["l", "/s", "/s/d", "/s/x"] := by cbv
  unfold FileSystem.LooksUpShort
  rw [start, names, texts]
  decide

theorem locate_crossedFiles : crossedFiles.locate ["w"] true "l/../x" = .ok ["s", "x"] := by
  have names : FileSystem.walkNames "l/../x".toList = ["l", "..", "x"] := by decide
  have start : FileSystem.walkStart ["w"] "l/../x".toList = ["w"] := by decide
  rw [FileSystem.locate_eq_walk (by decide) (by decide) (by decide), names, start]
  cbv

theorem find?_crossedFiles :
    find? sampleSite crossedFiles (nameSought sampleSite (some "l/../x")) = some "l/../x" := by
  have name : nameSought sampleSite (some "l/../x") = "l/../x" := by decide
  have searchPath : (sampleSite.valueOf? "PATH").getD defaultSearchPath = defaultSearchPath := rfl
  have candidates : candidateTexts defaultSearchPath "l/../x" = ["l/../x"] := by decide
  have runs : isExecutable crossedFiles sampleSite.workingDirectory "l/../x" = true := by
    change isExecutable crossedFiles ["w"] "l/../x" = true
    rw [isExecutable, FileSystem.status, locate_crossedFiles]
    rfl
  simp only [find?, name, searchPath, candidates]
  exact List.find?_cons_of_pos runs

/-- Seen from the working directory, the source is handed over as the file behind both links, and
the interpreter is found behind the first one. -/
theorem checked_file_of_crossedFiles :
    let workbench : Workbench := ⟨{ files := crossedFiles }, some (Path.ofText "/s/x")⟩
    crossedFiles.IsPhysical sampleSite.workingDirectory ∧ crossedFiles.NulFree ∧
    (∃ goal,
      ((consult sampleSite {} [Path.ofText "m"] false).outcome workbench).2.session.started =
        [⟨["/s/x", "--on-error=halt", "-q", "-g", goal, "-t", "halt"], none⟩] ∧
      readConsultGoal goal = some ["/s/f"]) ∧
    ∃ target,
      ((detect sampleSite (some "l/../x")).outcome workbench.session).1 = .ok (.found target) ∧
      target.text = "/s/x" := by
  intro workbench
  obtain ⟨_, loads, detects⟩ := @checked_file_is_handed_over sampleSite workbench
    isPhysical_crossedFiles nulFree_crossedFiles
  refine ⟨isPhysical_crossedFiles, nulFree_crossedFiles, ?_, ?_⟩
  · have noneMissing : firstMissing crossedFiles ["w"] [Path.ofText "m"] = .ok none :=
      (firstMissing_eq_ok_none_iff _ _ _).mpr (List.forall_mem_singleton.mpr (Or.inl (by cbv)))
    obtain ⟨targets, areFiles, read, started, _⟩ := loads [Path.ofText "m"] {} _ noneMissing
      (List.forall_mem_singleton.mpr looksUpShort_source) rfl
    have located : crossedFiles.locate ["w"] true (Path.ofText "m").text = .ok ["s", "f"] := by cbv
    have texts : targets.map Path.text = ["/s/f"] := by
      obtain ⟨target, rest, isFile, isLast, rfl⟩ := List.forall₂_cons_left_iff.mp areFiles
      obtain rfl := List.forall₂_nil_left_iff.mp isLast
      have parts : target.parts = ["s", "f"] := Except.ok.inj (isFile.located.symm.trans located)
      rw [List.map_singleton, isFile.written, parts]
      decide
    rw [texts] at read
    refine ⟨consultGoal targets, ?_, read⟩
    have program : (Path.ofText "/s/x").text = "/s/x" := by decide +kernel
    rw [started false]
    simp [commandLine, leadingArguments, program, workbench]
  · obtain ⟨target, detected, form, _⟩ := detects _ _ find?_crossedFiles looksUpShort_interpreter
    have parts : target.parts = ["s", "x"] :=
      Except.ok.inj (form.located.symm.trans locate_crossedFiles)
    refine ⟨target, detected, ?_⟩
    rw [form.written, parts]
    decide

end Interpreter

end PrologImage
