import PrologImage.Interpreter.Locate
import PrologImage.Text.Digit
import PrologImage.Text.Occurrence

/-!
Contract: the checks of the surroundings.

Owns: the five checks, their order, and which of them makes the report a failure.

Does not own: how the checks are shown (`Console.Table`).
-/

namespace PrologImage

def programVersion : String := "1.0.0"

namespace Health

/-- One row of the report. The status carries markup. -/
structure Check where
  label : String
  value : String
  status : String
deriving DecidableEq, Repr

def okStatus : String := "[green]OK[/green]"

def warnStatus : String := "[yellow]WARN[/yellow]"

def failStatus : String := "[red]FAIL[/red]"

/-- The least runtime version that is enough. -/
def requiredRuntime : Nat × Nat := (3, 10)

def majorMinor (version : String) : Nat × Nat :=
  let numbers := (Text.fields '.' version.toList).map fun field =>
    Text.numeralValue (field.takeWhile Text.isDigit)
  (numbers.headD 0, numbers.tail.headD 0)

/-- Whether one version is at least another. -/
def reaches (version required : Nat × Nat) : Bool :=
  required.1 < version.1 || (required.1 = version.1 && required.2 ≤ version.2)

def programCheck : Check := ⟨"plbuild", programVersion, okStatus⟩

def runtimeCheck (platform : Platform) : Check :=
  ⟨"Python", platform.runtime,
    if reaches (majorMinor platform.runtime) requiredRuntime then okStatus
    else "[red]FAIL (>=3.10 required)[/red]"⟩

def interpreterCheck : Interpreter.Detection → Check
  | .found path => ⟨"swipl", path.text, okStatus⟩
  | .missing _ => ⟨"swipl", "not found", failStatus⟩

/-- The version of the interpreter, which is asked for it. -/
def versionCheck : Interpreter.Detection → Step Session Check
  | .missing _ => return ⟨"version", "unknown", warnStatus⟩
  | .found path => do
      match ← Interpreter.probeVersion path with
      | some version => return ⟨"version", version, okStatus⟩
      | none => return ⟨"version", "unknown", warnStatus⟩

def systemCheck (platform : Platform) : Check :=
  let name := if platform.system = "Darwin" then "macOS" else platform.system
  ⟨"OS", s!"{name} {platform.release} ({platform.machine})", okStatus⟩

/-- All checks, in the order of the report. -/
def checks (site : Site) (detection : Interpreter.Detection) : Step Session (List Check) := do
  let version ← versionCheck detection
  return [programCheck, runtimeCheck site.platform, interpreterCheck detection, version,
    systemCheck site.platform]

def Check.fails (check : Check) : Bool :=
  Text.occursIn "FAIL".toList check.status.toList

/-- The plain word for a status: the first of three words that it contains, or itself. -/
def plainStatus (status : String) : String :=
  (["FAIL", "WARN", "OK"].find? fun word => Text.occursIn word.toList status.toList).getD status

end Health

end PrologImage
