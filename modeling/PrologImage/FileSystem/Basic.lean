import PrologImage.Text.Split

/-!
Contract: the files of a machine, as a finite table from locations to entries.

Owns: locations, the kinds of entry, and reading, placing and removing an entry.

Does not own: path names, which may lead through links (`FileSystem.Lookup`).
-/

namespace PrologImage

/-- A physical place: the names from the root down. -/
abbrev Location := List String

def Location.text (location : Location) : String :=
  "/" ++ String.intercalate "/" location

/-- The location that an absolute path text names when nothing on the way is a link. -/
def Location.ofText (text : String) : Location :=
  ((Text.fields '/' text.toList).map String.ofList).filter fun name => name ≠ "" && name ≠ "."

def Location.ancestors (location : Location) : List Location :=
  (List.range location.length).map location.take

/-- What can be at a location. A sealed directory exists but cannot be entered. -/
inductive Entry where
  | file
  | executable
  | directory
  | sealedDirectory
  | pipe
  | link (target : String)
deriving DecidableEq, Repr

/-- The entries of a machine; of two entries for one location the first counts. -/
structure FileSystem where
  entries : List (Location × Entry)

namespace FileSystem

/-- A machine with nothing but the root directory. -/
def bare : FileSystem := ⟨[([], .directory)]⟩

def entry? (files : FileSystem) (location : Location) : Option Entry :=
  files.entries.lookup location

def remove (files : FileSystem) (location : Location) : FileSystem :=
  ⟨files.entries.filter fun held => held.1 ≠ location⟩

/-- Puts an entry at a location, in place of what was there. -/
def replace (files : FileSystem) (location : Location) (entry : Entry) : FileSystem :=
  ⟨(location, entry) :: (files.remove location).entries⟩

/-- Makes a location a directory when nothing is there. -/
def ensureDirectory (files : FileSystem) (location : Location) : FileSystem :=
  match files.entry? location with
  | some _ => files
  | none => files.replace location .directory

/-- Puts an entry at a location and directories above it where nothing is. -/
def place (files : FileSystem) (location : Location) (entry : Entry) : FileSystem :=
  (location.ancestors.foldl ensureDirectory files).replace location entry

/-- The path texts of all regular files, in order. -/
def fileTexts (files : FileSystem) : List String :=
  ((files.entries.filter (·.2 = .file)).map (·.1.text)).mergeSort fun left right => left ≤ right

end FileSystem

end PrologImage
