import PrologImage.Fault
import PrologImage.FileSystem.Basic
import PrologImage.Path

/-!
Contract: what a path name leads to.

Owns: the walk from a directory along the names of a path, the ways in which it fails, and the
questions whether something exists and whether it is a regular file.

Each name is looked up in the directory reached so far, which has to be a directory that can be
entered; a trailing slash only asks for a directory. A double dot is the physical parent. A link is
replaced by its target, at the end of the path only if asked; a walk follows at most forty links.
-/

namespace PrologImage

/-- Why a path leads nowhere. -/
inductive LookupError where
  | missing
  | notDirectory
  | denied
  | tooManyLinks
  | nameTooLong
  | embeddedNul
deriving DecidableEq, Repr

namespace FileSystem

def linkLimit : Nat := 40

def nameLimit : Nat := 255

/-- A path text has to be shorter than this number of bytes. -/
def pathLimit : Nat := 4096

/-- The names of a path text. Empty names are left out, but for one at the end when the text has a
trailing slash: it asks for a directory. -/
def walkNames (text : List Char) : List String :=
  ((Text.fields '/' text).filter (· ≠ [])).map String.ofList ++
    if text.getLast? = some '/' then [""] else []

/-- Where the walk of a path text starts. -/
def walkStart (base : Location) (text : List Char) : Location :=
  if text.head? = some '/' then [] else base

/-- Whether names can be looked up at a location. -/
def enter (files : FileSystem) (location : Location) : Except LookupError Unit :=
  match files.entry? location with
  | some .directory => .ok ()
  | some .sealedDirectory => .error .denied
  | some _ => .error .notDirectory
  | none => .error .missing

/-- Whether a location is a directory, which need not be one that can be entered. -/
def requireDirectory (files : FileSystem) (location : Location) : Except LookupError Unit :=
  match files.entry? location with
  | some .directory | some .sealedDirectory => .ok ()
  | some _ => .error .notDirectory
  | none => .error .missing

/-- What has to hold at a location before a name is looked up from it. -/
def allow (files : FileSystem) (location : Location) (name : String) : Except LookupError Unit :=
  if name = "" then files.requireDirectory location else files.enter location

/-- The location reached from another one along the names of a path, with a number of links left
to follow. -/
def walk (files : FileSystem) (followLast : Bool) (links : Nat) (current : Location) :
    List String → Except LookupError Location
  | [] => .ok current
  | name :: rest =>
      match files.allow current name with
      | .error error => .error error
      | .ok () =>
          if name = "" ∨ name = "." then files.walk followLast links current rest
          else if name = ".." then files.walk followLast links current.dropLast rest
          else if name.utf8ByteSize > nameLimit then .error .nameTooLong
          else
            match files.entry? (current ++ [name]) with
            | none => .error .missing
            | some (.link target) =>
                if rest = [] ∧ followLast = false then .ok (current ++ [name])
                else
                  match links with
                  | 0 => .error .tooManyLinks
                  | links + 1 =>
                      files.walk followLast links (walkStart current target.toList)
                        (walkNames target.toList ++ rest)
            | some _ => files.walk followLast links (current ++ [name]) rest
termination_by names => (links, names.length)

/-- The location that a path text names, seen from a working directory. -/
def locate (files : FileSystem) (base : Location) (followLast : Bool) (text : String) :
    Except LookupError Location :=
  if text.toList.contains '\x00' then .error .embeddedNul
  else if text.utf8ByteSize ≥ pathLimit then .error .nameTooLong
  else if text.isEmpty then .error .missing
  else files.walk followLast linkLimit (walkStart base text.toList) (walkNames text.toList)

/-- The entry that a path text names, links followed. -/
def status (files : FileSystem) (base : Location) (text : String) : Except LookupError Entry :=
  match files.locate base true text with
  | .error error => .error error
  | .ok location =>
      match files.entry? location with
      | some entry => .ok entry
      | none => .error .missing

/-- The entry that a path names; nothing for a path that leads nowhere, an error for one that the
system refuses to look up. -/
def entryOf? (files : FileSystem) (base : Location) (path : Path) :
    Except SystemError (Option Entry) :=
  match files.status base path.text with
  | .ok entry => .ok (some entry)
  | .error .missing | .error .notDirectory | .error .tooManyLinks | .error .embeddedNul =>
      .ok none
  | .error .denied =>
      .error { number := some 13, text := "Permission denied", subject := some path.text }
  | .error .nameTooLong =>
      .error { number := some 36, text := "File name too long", subject := some path.text }

def holds (files : FileSystem) (base : Location) (path : Path) : Except SystemError Bool :=
  (files.entryOf? base path).map Option.isSome

end FileSystem

end PrologImage
