import PrologImage.Interpreter.Backend
import PrologImage.Proofs.Interpreter.Search
import PrologImage.Proofs.Session.Conduct

/-!
Contract: the interpreter backend keeps good order.

Owns: that the search for the interpreter, each interpreter process, loading sources, saving an
image and the question for the version are steps in good order, and that the hints of the failures
they report can be printed.
-/

namespace PrologImage.Interpreter

/-! ## Hints -/

theorem isBracketFree_installCommands (system : String) :
    ∀ command ∈ installCommands system, Console.IsBracketFree command := by
  unfold installCommands
  dsimp only
  split_ifs <;> decide +kernel

theorem isTellable_notInstalled {commands : List String}
    (free : ∀ command ∈ commands, Console.IsBracketFree command) :
    (notInstalled commands).IsTellable := by
  intro hint same
  cases same
  apply Console.IsBracketFree.intercalate (by decide)
  intro line member
  simp only [List.mem_append, List.mem_singleton] at member
  rcases member with advice | rfl
  · split at advice
    · cases advice
    · rcases List.mem_cons.mp advice with rfl | indented
      · decide +kernel
      · obtain ⟨command, present, rfl⟩ := List.mem_map.mp indented
        have blanks : Console.IsBracketFree "  " := by decide
        exact blanks.append (free command present)
  · decide +kernel

theorem isTellable_timeExceeded (limit : Option TimeLimit) : (timeExceeded limit).IsTellable := by
  intro hint same
  cases same
  decide +kernel

theorem isTellable_imageMissing (output : Path) : (imageMissing output).IsTellable := by
  intro hint same
  cases same
  decide +kernel

/-! ## The search -/

theorem wellConducted_detect (site : Site) (explicit : Option String) :
    WellConducted id (detect site explicit) := by
  refine .of_bind .of_get ?_
  intro session
  refine .of_bind (Session.wellConducted_debug _) ?_
  intro _
  cases find? site session.files (nameSought site explicit) with
  | none => exact .of_pure _
  | some text =>
      refine .of_bind (.of_ofForeign _) ?_
      intro path
      exact .of_pure _

theorem wellConducted_require (site : Site) (explicit : Option String) :
    WellConducted id (require site explicit) := by
  refine .of_bind_of (wellConducted_detect site explicit) ?_
  intro before detection after searched
  cases detection with
  | found path => exact .of_pure path
  | missing commands =>
      rw [detect_outcome, Prod.mk.injEq, Calculation.mapError_eq_ok_iff] at searched
      rw [commands_of_detected_missing searched.1]
      exact .of_throw_reported (isTellable_notInstalled (isBracketFree_installCommands _))

/-! ## The question for the version -/

theorem wellConducted_versionUnknown (error : ForeignError) :
    WellConducted id (versionUnknown error) := by
  refine .of_bind (Session.wellConducted_debug _) ?_
  intro _
  exact .of_pure none

theorem wellConducted_probeVersion (executable : Path) :
    WellConducted id (probeVersion executable) := by
  refine .of_process (Session.startsProcess_run _) rfl ?_
  intro ending goesOn
  cases ending with
  | completed completion =>
      dsimp only
      cases completion.output with
      | some output => exact .of_pure _
      | none => exact .of_throw_unexpected _
  | timedOut => exact wellConducted_versionUnknown _
  | interrupted => exact absurd rfl goesOn
  | failed error =>
      cases error with
      | system error => exact wellConducted_versionUnknown _
      | process message => exact wellConducted_versionUnknown _
      | _ => exact .of_throw_unexpected _

/-! ## Steps on a workbench -/

variable {site : Site} {settings : Settings}

theorem Workbench.wellConducted_ofSession {α : Type} {step : Step Session α}
    (conducted : WellConducted id step) :
    WellConducted Workbench.session (ofSession step) :=
  .of_within (fun _ => rfl) (fun _ _ => rfl) conducted

theorem Workbench.startsProcess_run (process : StartedProcess) :
    StartsProcess Workbench.session (ofSession (Session.run process)) := by
  intro workbench
  obtain ⟨_, after, started, advances, silent⟩ :=
    Session.startsProcess_run process workbench.session
  refine ⟨_, { workbench with session := after }, ?_, advances, silent⟩
  rw [ofSession, Step.outcome_within, started]
  rfl

theorem wellConducted_executable (site : Site) (settings : Settings) :
    WellConducted Workbench.session (executable site settings) := by
  refine .of_bind .of_get ?_
  intro workbench
  cases workbench.executable with
  | some path => exact .of_pure path
  | none =>
      refine .of_bind (Workbench.wellConducted_ofSession (wellConducted_require _ _)) ?_
      intro path
      refine .of_bind (.of_modify ?_ ?_) fun _ => .of_pure path
      · intro other
        exact .refl other.session
      · intro other
        exact ⟨"", String.append_empty.symm, .empty⟩

theorem wellConducted_resolved (site : Site) (path : Path) :
    WellConducted Workbench.session (resolved site path) :=
  .of_bind .of_get fun _ => .of_ofForeign _

theorem wellConducted_resolvedAll (site : Site) (paths : List Path) :
    WellConducted Workbench.session (resolvedAll site paths) := by
  induction paths with
  | nil => exact .of_pure []
  | cons path rest inductionHypothesis =>
      refine .of_bind (wellConducted_resolved site path) ?_
      intro first
      refine .of_bind inductionHypothesis ?_
      intro others
      exact .of_pure _

theorem wellConducted_consultCommand (sources : List Path) (verbose : Bool) :
    WellConducted Workbench.session (consultCommand site settings sources verbose) := by
  refine .of_bind (wellConducted_executable site settings) ?_
  intro program
  refine .of_bind (wellConducted_resolvedAll site sources) ?_
  intro targets
  exact .of_pure _

theorem wellConducted_saveCommand (sources : List Path) (output : Path) (options : SaveOptions)
    (verbose : Bool) :
    WellConducted Workbench.session
      (saveCommand site settings sources output options verbose) := by
  refine .of_bind (wellConducted_resolved site output) ?_
  intro image
  exact .of_bind (wellConducted_executable site settings) fun program =>
    .of_bind (wellConducted_resolvedAll site sources) fun targets => .of_pure _

theorem wellConducted_debug (message : String) :
    WellConducted Workbench.session (Workbench.ofSession (Session.debug message)) :=
  Workbench.wellConducted_ofSession (Session.wellConducted_debug message)

theorem wellConducted_logCompletion (completion : Completion) :
    WellConducted Workbench.session (logCompletion completion) := by
  refine .of_bind (wellConducted_debug _) ?_
  intro _
  dsimp only
  split
  · exact wellConducted_debug _
  · exact .of_pure _

theorem wellConducted_runInterpreter (command : List String) :
    WellConducted Workbench.session (runInterpreter site settings command) := by
  refine .of_bind (wellConducted_debug _) ?_
  intro _
  refine .of_process (Workbench.startsProcess_run _) rfl ?_
  intro ending goesOn
  cases ending with
  | completed completion =>
      exact .of_bind (wellConducted_logCompletion completion) fun _ => .of_pure _
  | timedOut => exact .of_throw_reported (isTellable_timeExceeded _)
  | interrupted => exact absurd rfl goesOn
  | failed error =>
      cases error with
      | system error =>
          refine .of_bind (wellConducted_executable site settings) ?_
          intro program
          exact .of_throw_reported (Failure.isTellable_of_no_hint rfl)
      | _ => exact .of_throw_unexpected _

theorem wellConducted_ofSystem {α : Type} (result : Except SystemError α) :
    WellConducted Workbench.session (ofSystem result) := by
  cases result with
  | ok value => exact .of_pure value
  | error error => exact .of_throw_unexpected _

theorem wellConducted_checkSources (sources : List Path) :
    WellConducted Workbench.session (checkSources site sources) :=
  .of_bind .of_get fun _ => wellConducted_ofSystem _

theorem wellConducted_consult (sources : List Path) (verbose : Bool) :
    WellConducted Workbench.session (consult site settings sources verbose) := by
  refine .of_bind (wellConducted_checkSources sources) ?_
  intro missing
  cases missing with
  | some diagnostic => exact .of_pure _
  | none =>
      refine .of_bind (wellConducted_consultCommand sources verbose) ?_
      intro command
      exact .of_bind (wellConducted_runInterpreter command) fun _ => .of_ofForeign _

theorem wellConducted_saveImage (sources : List Path) (output : Path) (options : SaveOptions)
    (verbose : Bool) :
    WellConducted Workbench.session
      (saveImage site settings sources output options verbose) := by
  refine .of_bind (wellConducted_checkSources sources) ?_
  intro missing
  cases missing with
  | some diagnostic => exact .of_pure _
  | none =>
      refine .of_bind (wellConducted_saveCommand sources output options verbose) ?_
      intro command
      refine .of_bind (wellConducted_runInterpreter command) ?_
      intro completion
      refine .of_bind (.of_ofForeign _) ?_
      intro verdict
      cases verdict with
      | some diagnostic => exact .of_pure _
      | none =>
          refine .of_bind .of_get ?_
          intro workbench
          refine .of_bind (wellConducted_ofSystem _) ?_
          intro written
          cases written with
          | true => exact .of_pure none
          | false => exact .of_throw_reported (isTellable_imageMissing output)

end PrologImage.Interpreter
