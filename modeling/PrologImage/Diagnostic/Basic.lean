/-!
Contract: one error that the interpreter reported about a source.

Owns: the error as data, and the lines that a build prints for it.

Does not own: how it is found in the interpreter's output (`Diagnostic.Reader`).
-/

namespace PrologImage

/-- One reported error. `raw` is the text as the interpreter gave it. -/
structure Diagnostic where
  message : String
  file : Option String := none
  line : Option Int := none
  raw : String := ""
deriving DecidableEq, Repr

namespace Diagnostic

/-- The file and the line, when both are known. -/
def place? (diagnostic : Diagnostic) : Option (String × Int) :=
  match diagnostic.file, diagnostic.line with
  | some file, some line => some (file, line)
  | _, _ => none

def isLocated (diagnostic : Diagnostic) : Bool :=
  diagnostic.place?.isSome

/-- An error that is only a text. -/
def bare (text : String) : Diagnostic :=
  { message := text, raw := text }

/-- The lines printed for an error: three for a located one, one otherwise. -/
def report (diagnostic : Diagnostic) : List String :=
  match diagnostic.place? with
  | some (file, line) =>
      [s!"ERROR: {diagnostic.message}", s!"  in file {file}", s!"  detected on line {line}"]
  | none =>
      ["ERROR: " ++ if diagnostic.raw.isEmpty then diagnostic.message else diagnostic.raw]

end Diagnostic

end PrologImage
