import PrologImage.Failure
import PrologImage.Text.Literal

/-!
Contract: everything that can stop a step.

Owns: errors of the surrounding system as causes, the name and the text that a report gives them,
and the three ways in which a step can stop: a reported failure, an interruption by the user, and
an unexpected error.

Does not own: steps themselves (`Step`).
-/

namespace PrologImage

/-- An error that the operating system reports: a number and a file name may be missing. -/
structure SystemError where
  number : Option Int := none
  text : String
  subject : Option String := none
deriving DecidableEq, Repr

/-- The number, the text and the quoted file name; the text alone when there is no number. -/
def SystemError.message (error : SystemError) : String :=
  match error.number with
  | none => error.text
  | some number =>
      let head := s!"[Errno {number}] {error.text}"
      match error.subject with
      | none => head
      | some subject => head ++ ": " ++ Text.Literal.quoted subject

/-- The class that a report names for a number. -/
def SystemError.className (error : SystemError) : String :=
  if error.number = some 13 ∨ error.number = some 1 then "PermissionError"
  else if error.number = some 2 then "FileNotFoundError"
  else if error.number = some 20 then "NotADirectoryError"
  else if error.number = some 21 then "IsADirectoryError"
  else if error.number = some 17 then "FileExistsError"
  else "OSError"

/-- Errors that come from outside the program. -/
inductive ForeignError where
  /-- The operating system refuses. -/
  | system (error : SystemError)
  /-- A process exceeded its time. -/
  | timeLimit (command : List String) (seconds : String)
  /-- A process could not be managed. -/
  | process (message : String)
  /-- A path text holds a character that no path can hold. -/
  | embeddedNul
  /-- Links that lead back to themselves, found at a partly resolved path. -/
  | linkLoop (path : String)
  /-- A numeral with too many digits. -/
  | overlongNumeral (digits : Nat)
  /-- A word that names no action. -/
  | unknownAction (word : String)
  /-- Console markup whose closing tag closes nothing. -/
  | markup (message : String)
  /-- Output was read from a process that gave none. -/
  | missingOutput
  /-- A look-up without a result. -/
  | missingKey (key : String)
  /-- Any other error, under its own name. -/
  | other (name message : String)
deriving DecidableEq, Repr

namespace ForeignError

def name : ForeignError → String
  | .system error => error.className
  | .timeLimit .. => "TimeoutExpired"
  | .process _ => "SubprocessError"
  | .embeddedNul | .overlongNumeral _ | .unknownAction _ => "ValueError"
  | .linkLoop _ => "RuntimeError"
  | .markup _ => "MarkupError"
  | .missingOutput => "AttributeError"
  | .missingKey _ => "KeyError"
  | .other name _ => name

def message : ForeignError → String
  | .system error => error.message
  | .timeLimit command seconds =>
      s!"Command '{Text.Literal.quotedList command}' timed out after {seconds} seconds"
  | .process message => message
  | .embeddedNul => "embedded null byte"
  | .linkLoop path => "Symlink loop from " ++ Text.Literal.quoted path
  | .overlongNumeral digits =>
      "Exceeds the limit (4300 digits) for integer string conversion: value has " ++
        s!"{digits} digits; use sys.set_int_max_str_digits() to increase the limit"
  | .unknownAction word => Text.Literal.quoted word ++ " is not a valid Action"
  | .markup message => message
  | .missingOutput => "'NoneType' object has no attribute 'strip'"
  | .missingKey key => Text.Literal.quoted key
  | .other _ message => message

end ForeignError

/-- What stops a step. -/
inductive Fault where
  | reported (failure : Failure)
  | interrupted
  | unexpected (error : ForeignError)
deriving DecidableEq, Repr

end PrologImage
