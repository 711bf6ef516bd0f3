import PrologImage.Interpreter.Locate
import PrologImage.Proofs.Calculation

/-!
Contract: what a search for the interpreter finds.

Owns: the result of a search as a calculation from the files, the line that it notes in the log, and
that it does nothing else; what is advised when nothing is found, and when something is.

Does not own: an interpreter that is kept from an earlier search (`Proofs.Interpreter.Question`).
-/

namespace PrologImage.Interpreter

/-- What a search finds among the files. -/
def detected (site : Site) (explicit : Option String) (files : FileSystem) :
    Except ForeignError Detection :=
  match find? site files (nameSought site explicit) with
  | none => .ok (.missing (installCommands site.platform.system))
  | some text => (files.resolve site.workingDirectory (Path.ofText text)).map .found

/-- What a search notes in the log. -/
def searchMessage (site : Site) (explicit : Option String) (files : FileSystem) : String :=
  let name := nameSought site explicit
  s!"Resolved interpreter {Text.Literal.quoted name} to {quotedOrNone (find? site files name)}"

theorem detect_outcome (site : Site) (explicit : Option String) (session : Session) :
    (detect site explicit).outcome session =
      ((detected site explicit session.files).mapError .unexpected,
        session.addRecord .debug (searchMessage site explicit session.files)) := by
  let name := nameSought site explicit
  let found := find? site session.files name
  have message : (s!"Resolved interpreter {Text.Literal.quoted name} to {quotedOrNone found}" :
      String) = searchMessage site explicit session.files := rfl
  simp only [detect, detected, Session.debug, Step.outcome_bind, Step.outcome_get,
    Step.outcome_modify, name, found, message]
  cases find? site session.files (nameSought site explicit) with
  | none => rfl
  | some text =>
      simp only [Step.outcome_bind, Step.outcome_ofForeign]
      cases session.files.resolve site.workingDirectory (Path.ofText text) <;> rfl

variable {site : Site} {explicit : Option String} {files : FileSystem} {detection : Detection}

/-- What is missing is advised on with the commands of this system. -/
theorem commands_of_detected_missing {commands : List String}
    (searched : detected site explicit files = .ok (.missing commands)) :
    commands = installCommands site.platform.system := by
  unfold detected at searched
  split at searched
  · cases searched
    rfl
  · rename_i text _
    cases resolved : files.resolve site.workingDirectory (Path.ofText text) <;>
      rw [resolved] at searched <;> cases searched

/-- A search that gets to its end has found an interpreter exactly when a name leads to one. -/
theorem isSome_path_of_detected (searched : detected site explicit files = .ok detection) :
    detection.path?.isSome = (find? site files (nameSought site explicit)).isSome := by
  unfold detected at searched
  split at searched
  · rename_i nothing
    cases searched
    rw [nothing]
    rfl
  · rename_i text found
    cases resolved : files.resolve site.workingDirectory (Path.ofText text) with
    | error error =>
        rw [resolved] at searched
        cases searched
    | ok path =>
        rw [resolved] at searched
        cases searched
        rw [found]
        rfl

end PrologImage.Interpreter
