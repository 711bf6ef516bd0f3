import PrologImage.Application

/-!
Contract: the program as a command of a shell.

Owns: handing over the arguments and the environment, and writing what the program printed.

The machine that the program sees from here has no files but its root directory, so it answers
questions about itself and reports what is missing, and starts nothing.
-/

open PrologImage

/-- The environment variables that the program reads. -/
def environmentNames : List String := ["PATH", Interpreter.variableName]

/-- The value of an environment variable with its name, when it is set. -/
def environmentEntry (name : String) : IO (List (String × String)) := do
  match ← IO.getEnv name with
  | some value => return [(name, value)]
  | none => return []

/-- What the program sees of this machine. -/
def localSite : IO Site := do
  let entries ← environmentNames.mapM environmentEntry
  return {
    workingDirectory := []
    environment := entries.flatten
    platform := { system := "Linux", release := "", machine := "", runtime := "3.11.2" }
    console := .plain }

def main (arguments : List String) : IO UInt32 := do
  let site ← localSite
  let (result, session) :=
    (Application.main site arguments).outcome { files := FileSystem.bare }
  (← IO.getStdout).putStr session.output
  (← IO.getStderr).putStr session.errors
  match result with
  | .ok status => return status.code.toUInt32
  | .error _ => return 1
