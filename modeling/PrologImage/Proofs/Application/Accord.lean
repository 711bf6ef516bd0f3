import PrologImage.Proofs.Application.Boundary
import PrologImage.Proofs.Interpreter.Accord
import PrologImage.Proofs.Request.Payload

/-!
Contract: two builds seen side by side, from their arguments to their exit statuses.

Owns: that two builds on the same machine, whose requests differ only in verbosity and which may
print on different consoles, are steps in accord up to the exit status.

Does not own: what two builds print and start (the relations between outputs and between processes
are given), and which payloads have such requests (`Proofs.Request.Payload`).

All that is asked of the relation between outputs is that it is kept when both consoles print the
same literal text.
-/

namespace PrologImage

namespace Application

open Interpreter

section Beside

variable {processes : StartedProcess → StartedProcess → Prop} {outputs : String → String → Prop}
  {site : Site} {settings : Settings} {leftMode rightMode : ConsoleMode}
  {leftVerbose rightVerbose : Bool}
  (prints : ∀ text left right, outputs left right →
    outputs (left ++ Console.literalLine leftMode [text])
      (right ++ Console.literalLine rightMode [text]))
include prints

/-! ## Printing -/

theorem beside_writeOutput {left right : Session} (beside : left.Beside processes outputs right)
    (text : String) :
    Session.Beside processes outputs (left.writeOutput (Console.literalLine leftMode [text]))
      (right.writeOutput (Console.literalLine rightMode [text])) where
  files := beside.files
  outcomes := beside.outcomes
  started := beside.started
  output := prints text _ _ beside.output

theorem accord_printLiteral (text : String) :
    Accord (Session.Beside processes outputs) Eq (Console.printLiteral leftMode [text])
      (Console.printLiteral rightMode [text]) :=
  .of_modify fun _ _ beside => beside_writeOutput prints beside text

theorem accord_printLines (lines : List String) :
    Accord (Session.Beside processes outputs) Eq (Report.printLines leftMode lines)
      (Report.printLines rightMode lines) := by
  induction lines with
  | nil => exact .of_pure rfl
  | cons line rest inductionHypothesis =>
      exact (accord_printLiteral prints line).of_bind_same fun _ => inductionHypothesis

omit prints in
/-- Marked-up text goes to the error stream, which is not compared. -/
theorem accord_printMarked {texts : List String} {leftLine rightLine : String}
    (leftMarked : Console.markedLine leftMode texts = .ok leftLine)
    (rightMarked : Console.markedLine rightMode texts = .ok rightLine) :
    Accord (Session.Beside processes outputs) Eq (Console.printMarked leftMode texts)
      (Console.printMarked rightMode texts) := by
  unfold Console.printMarked
  rw [leftMarked, rightMarked]
  intro left right beside
  exact ⟨.value rfl, beside.files, beside.outcomes, beside.started, beside.output⟩

omit prints in
theorem accord_printHint {hint : Option String}
    (free : ∀ text, hint = some text → Console.IsBracketFree text) :
    Accord (Session.Beside processes outputs) Eq (Report.printHint leftMode hint)
      (Report.printHint rightMode hint) := by
  cases hint with
  | none => exact .of_pure rfl
  | some text =>
      obtain ⟨leftLine, leftMarked⟩ := Console.markedLine_hint leftMode (free text rfl)
      obtain ⟨rightLine, rightMarked⟩ := Console.markedLine_hint rightMode (free text rfl)
      unfold Report.printHint
      dsimp only
      split
      · exact .of_pure rfl
      · exact accord_printMarked leftMarked rightMarked

/-! ## The boundary -/

theorem accord_settle {fault : Fault}
    (tellable : ∀ failure, fault = .reported failure → failure.IsTellable) :
    Accord (Session.Beside processes outputs) Eq (settle (site.onConsole leftMode) fault)
      (settle (site.onConsole rightMode) fault) := by
  cases fault with
  | reported failure =>
      apply Accord.of_bind_same
      · apply (accord_printLines prints (Report.errorLines failure)).of_bind_same
        intro _
        exact accord_printHint (tellable failure rfl)
      · intro _
        exact .of_pure rfl
  | interrupted =>
      obtain ⟨leftLine, leftMarked⟩ := Console.markedLine_aborted leftMode
      obtain ⟨rightLine, rightMarked⟩ := Console.markedLine_aborted rightMode
      exact (accord_printMarked leftMarked rightMarked).of_bind_same fun _ => .of_pure rfl
  | unexpected error => exact (accord_printLiteral prints _).of_bind_same fun _ => .of_pure rfl

/-- Runs in accord are told in accord. -/
theorem accord_main {left right : List String}
    (accord : Accord (Session.Beside processes outputs) Eq (run (site.onConsole leftMode) left)
      (run (site.onConsole rightMode) right)) :
    Accord (Session.Beside processes outputs) Eq (main (site.onConsole leftMode) left)
      (main (site.onConsole rightMode) right) := by
  apply accord.of_tryCatch
  rintro fault ⟨session, stopped⟩
  apply accord_settle prints
  rintro failure rfl
  exact (wellConducted_run (site.onConsole leftMode) left session).tellable failure stopped

/-! ## Builds -/

omit prints in
theorem accord_onFreshLoader {α : Type} {first second : Step (Loading Workbench) α}
    (accord : Accord (Loading.Beside (Workbench.Beside processes outputs)) Eq first second) :
    Accord (Session.Beside processes outputs) Eq (onFreshLoader first) (onFreshLoader second) :=
  .of_within (fun _ _ beside => ⟨rfl, beside, rfl⟩)
    (fun _ _ _ _ _ loading => loading.backend.session) accord

theorem inAccord_loader (alike : ∀ program goals, processes
      ⟨commandLine program leftVerbose goals, settings.limit⟩
      ⟨commandLine program rightVerbose goals, settings.limit⟩) :
    Loader.InAccord (Workbench.Beside processes outputs) leftVerbose rightVerbose
      (loader (site.onConsole leftMode) settings)
      (loader (site.onConsole rightMode) settings) where
  announce path _ _ beside := ⟨beside_writeOutput prints beside.session _, beside.executable⟩
  consult sources := by
    rw [loader, loader, backend_onConsole, backend_onConsole]
    exact accord_consult alike sources
  saveImage sources output options := by
    rw [loader, loader, backend_onConsole, backend_onConsole]
    exact accord_saveImage alike sources output options

theorem accord_build (alike : ∀ program goals, processes
      ⟨commandLine program leftVerbose goals, settings.limit⟩
      ⟨commandLine program rightVerbose goals, settings.limit⟩)
    (action : Action) (inputs : List Path) (output : Option Path) :
    Accord (Session.Beside processes outputs) Eq
      (build (site.onConsole leftMode) settings action ⟨leftVerbose, inputs, output⟩)
      (build (site.onConsole rightMode) settings action ⟨rightVerbose, inputs, output⟩) := by
  have loaders : Loader.InAccord (Workbench.Beside processes outputs) leftVerbose rightVerbose
      (loader (site.onConsole leftMode) settings) (loader (site.onConsole rightMode) settings) :=
    inAccord_loader prints alike
  cases action with
  | syntaxCheck =>
      apply (accord_onFreshLoader (loaders.loadInputs inputs output output)).of_bind_same
      intro _
      exact accord_printLiteral prints _
  | precompile =>
      apply (accord_onFreshLoader (loaders.precompile inputs output {})).of_bind_same
      intro image
      exact accord_printLiteral prints _

/-- Build commands whose requests differ only in verbosity are in accord. -/
theorem accord_runCommand (options : CommandLine.Options) (action : Action)
    {left right : List String}
    (sameRequest : (Request.ofArguments left).map Request.withoutVerbosity =
      (Request.ofArguments right).map Request.withoutVerbosity)
    (alike : ∀ leftRequest rightRequest, Request.ofArguments left = .ok leftRequest →
      Request.ofArguments right = .ok rightRequest → ∀ program goals limit, processes
        ⟨commandLine program leftRequest.verbose goals, limit⟩
        ⟨commandLine program rightRequest.verbose goals, limit⟩) :
    Accord (Session.Beside processes outputs) Eq
      (runCommand (site.onConsole leftMode) options (.build action) left)
      (runCommand (site.onConsole rightMode) options (.build action) right) := by
  refine (Accord.of_modify ?_).of_bind_same fun _ => ?_
  · intro before after beside
    exact ⟨beside.files, beside.outcomes, beside.started, beside.output⟩
  dsimp only
  cases leftRead : Request.ofArguments left with
  | error leftError =>
      cases rightRead : Request.ofArguments right with
      | error rightError => cases leftError; cases rightError; exact .of_throw _
      | ok rightRequest => rw [leftRead, rightRead] at sameRequest; cases sameRequest
  | ok leftRequest =>
      cases rightRead : Request.ofArguments right with
      | error rightError => rw [leftRead, rightRead] at sameRequest; cases sameRequest
      | ok rightRequest =>
          rw [leftRead, rightRead] at sameRequest
          have same := Request.eq_of_withoutVerbosity (Except.ok.inj sameRequest)
          have alikeHere := alike leftRequest rightRequest leftRead rightRead
          rw [same]
          refine (accord_build prints (fun program goals => alikeHere program goals _) action
            rightRequest.inputs rightRequest.output).of_bind_same fun _ => ?_
          exact .of_pure rfl

end Beside

end Application

end PrologImage
