import PrologImage.Loader

/-!
Contract: a backend without an interpreter, whose answers are read from two tables.

Owns: the tables, the error that they give for a list of sources, the record that the backend
keeps of what it was asked, and the image that it writes.

Does not own: how a file is written (a parameter here).

Sources are looked at in order and by their names only. A name in the first table has the error
given there. A name in the second table has an error unless the name given there came earlier.
-/

namespace PrologImage

/-- The last part of a path, or the empty text when it has none. -/
def Path.name (path : Path) : String :=
  path.parts.getLast?.getD ""

/-- What the answers are read from: the errors of sources, and the sources they need before them,
both by name. -/
structure Tables where
  failures : List (String × Diagnostic) := []
  requires : List (String × String) := []

/-- What a table backend has been asked, what it has saved, and the world it writes to. -/
structure Ledger (ω : Type) where
  consulted : List (List Path) := []
  verboseFlags : List Bool := []
  saved : List (List Path × Path × SaveOptions) := []
  world : ω

namespace Tables

/-- The name of a source without its usual ending. -/
def stem (name : String) : String :=
  if ".pl".toList.isSuffixOf name.toList then String.ofList (name.toList.dropLast.dropLast.dropLast)
  else name

/-- The error of a source that comes before one it needs. -/
def outOfOrder (source : Path) (needed : String) : Diagnostic where
  message := s!"catch/3: Unknown procedure: {stem needed}/0"
  file := some source.text
  line := some 1
  raw := s!"{source.text}:1: catch/3: Unknown procedure"

/-- The error of one source after sources with the given names. -/
def errorAfter (tables : Tables) (seen : List String) (source : Path) : Option Diagnostic :=
  match tables.failures.lookup source.name with
  | some diagnostic => some diagnostic
  | none =>
      match tables.requires.lookup source.name with
      | some needed => if needed ∈ seen then none else some (outOfOrder source needed)
      | none => none

/-- The first error of sources that are looked at after those with the given names. -/
def check (tables : Tables) (seen : List String) : List Path → Option Diagnostic
  | [] => none
  | source :: rest =>
      match tables.errorAfter seen source with
      | some diagnostic => some diagnostic
      | none => tables.check (source.name :: seen) rest

/-- The first error of a list of sources. -/
def verdict (tables : Tables) (sources : List Path) : Option Diagnostic :=
  tables.check [] sources

/-- The content of every image. -/
def image : ByteArray :=
  "#!swipl saved state\n".toUTF8

/-- The backend that answers from the tables. -/
def backend {ω : Type} (tables : Tables) (write : Path → ByteArray → Step ω Unit) :
    Backend (Ledger ω) where
  consult sources verbose := do
    modify fun ledger =>
      { ledger with
        consulted := ledger.consulted ++ [sources]
        verboseFlags := ledger.verboseFlags ++ [verbose] }
    return tables.verdict sources
  saveImage sources output options _ := do
    match tables.verdict sources with
    | some diagnostic => return some diagnostic
    | none =>
        modify fun ledger => { ledger with saved := ledger.saved ++ [(sources, output, options)] }
        (write output image).within Ledger.world fun world ledger => { ledger with world }
        return none

end Tables

end PrologImage
