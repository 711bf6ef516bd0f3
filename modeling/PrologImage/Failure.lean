import PrologImage.Diagnostic.Basic

/-!
Contract: failures that the program reports under a name of its own.

Owns: the kinds of failure and their order from special to general, and what a failure says.

Does not own: errors of the surrounding system (`Fault`), and how a report is printed (`Report`).
-/

namespace PrologImage

inductive FailureKind where
  | general
  | usage
  | compile
  | interpreter
  | environment
  | interpreterMissing
deriving DecidableEq, Repr

/-- A kind and the more general ones, the most special first. -/
def FailureKind.lineage : FailureKind → List FailureKind
  | .general => [.general]
  | .interpreterMissing => [.interpreterMissing, .environment, .general]
  | kind => [kind, .general]

/-- A failure that is reported to the user: a source that does not load, with its diagnostic, or
any other kind, with its message and advice on what to do. -/
inductive Failure where
  | notLoaded (diagnostic : Diagnostic)
  | plain (kind : FailureKind) (message : String) (hint : Option String)
deriving DecidableEq, Repr

namespace Failure

def kind : Failure → FailureKind
  | .notLoaded _ => .compile
  | .plain kind _ _ => kind

def message : Failure → String
  | .notLoaded diagnostic => diagnostic.message
  | .plain _ message _ => message

def hint : Failure → Option String
  | .notLoaded _ => none
  | .plain _ _ hint => hint

def diagnostic? : Failure → Option Diagnostic
  | .notLoaded diagnostic => some diagnostic
  | .plain .. => none

end Failure

end PrologImage
