import PrologImage.FileSystem.Lookup

/-!
Contract: the absolute, link-free form of a path.

Owns: following the names of a path one by one, with links replaced by what they lead to, also
where nothing is.

A name is looked up without following it. A name that is a link is replaced by the resolution of
its target, which is remembered; any other name, also one that cannot be looked up, stands for
itself. A double dot takes back the last name. A link met again while it is being resolved stops
the resolution: the rest of the path is kept as written. A result that still loops is an error.

A file system is taken to nest links at most as deep as `FileSystem.linkDepth`; what a resolution
does with deeper ones is left open. The working directory that a relative path starts at is taken to
be there.
-/

namespace PrologImage

/-- A path on the way to its resolved form. The names of a relative route start at the working
directory and may begin with double dots. -/
structure Route where
  anchor : Anchor
  names : List String
deriving DecidableEq, Repr

namespace Route

def ofText (text : List Char) : Route where
  anchor := Anchor.ofText text
  names := (Text.fields '/' text).map String.ofList

def text (route : Route) : String :=
  route.anchor.text ++ String.intercalate "/" route.names

def child (route : Route) (name : String) : Route :=
  { route with names := route.names ++ [name] }

/-- The route of the directory above. Above a relative route without names, or one that ends in a
double dot, is one more double dot. -/
def parent (route : Route) : Route :=
  match route.names.getLast? with
  | none => if route.anchor = .relative then route.child ".." else route
  | some name =>
      if name = ".." then route.child ".."
      else { route with names := route.names.dropLast }

/-- The route with the rest of a path text after it, unless the rest is absolute. -/
def followedBy (route : Route) (rest : List String) : Route :=
  let text := (String.intercalate "/" rest).toList
  if text.head? = some '/' then ofText text
  else { route with names := route.names ++ rest }

/-- Takes double dots literally: each takes back the name before it, if there is one. -/
def collapse (names : List String) : List String :=
  names.foldl (fun kept name =>
    if name = "" ∨ name = "." then kept
    else if name = ".." then kept.dropLast
    else kept ++ [name]) []

/-- The absolute path of a route, without single and double dots. -/
def absolute (base : Location) (route : Route) : Path :=
  match route.anchor with
  | .relative => Path.ofText (Location.text (collapse (base ++ route.names)))
  | anchor => Path.ofText (anchor.text ++ String.intercalate "/" (collapse route.names))

end Route

/-- The links met by a resolution: the route of each, and what it resolved to; nothing while it is
being resolved. -/
abbrev MetLinks := List (Route × Option Route)

/-- Where a resolution has got to. A resolution that is not settled stopped at a loop. -/
structure Resolution where
  route : Route
  settled : Bool
  met : MetLinks

namespace FileSystem

/-- The target of the link that a route names, if it names one. -/
def linkTarget? (files : FileSystem) (base : Location) (route : Route) :
    Except ForeignError (Option String) :=
  match files.locate base false route.text with
  | .error .embeddedNul => .error .embeddedNul
  | .error _ => .ok none
  | .ok location =>
      match files.entry? location with
      | some (.link target) => .ok (some target)
      | _ => .ok none

/-- How deep links are taken to lead through links. -/
def linkDepth : Nat := 1000

/-- Follows the names of a path from a route. -/
def follow (files : FileSystem) (base : Location) (depth : Nat) (met : MetLinks) (route : Route) :
    List String → Except ForeignError Resolution
  | [] => .ok ⟨route, true, met⟩
  | name :: rest =>
      if name = "" ∨ name = "." then files.follow base depth met route rest
      else if name = ".." then files.follow base depth met route.parent rest
      else
        match files.linkTarget? base (route.child name) with
        | .error error => .error error
        | .ok none => files.follow base depth met (route.child name) rest
        | .ok (some target) =>
            match met.lookup (route.child name) with
            | some (some resolved) => files.follow base depth met resolved rest
            | some none => .ok ⟨(route.child name).followedBy rest, false, met⟩
            | none =>
                match depth with
                | 0 => .ok ⟨(route.child name).followedBy rest, false, met⟩
                | depth + 1 =>
                    let start := if target.toList.head? = some '/' then ⟨.root, []⟩ else route
                    let names := (Text.fields '/' target.toList).map String.ofList
                    match files.follow base depth ((route.child name, none) :: met) start names with
                    | .error error => .error error
                    | .ok inner =>
                        if inner.settled then
                          files.follow base (depth + 1)
                            ((route.child name, some inner.route) :: inner.met) inner.route rest
                        else .ok ⟨inner.route.followedBy rest, false, inner.met⟩
termination_by names => (depth, names.length)

/-- The absolute, link-free form of a path, seen from a working directory. -/
def resolve (files : FileSystem) (base : Location) (path : Path) : Except ForeignError Path :=
  let text := path.text.toList
  let start : Route := if text.head? = some '/' then ⟨.root, []⟩ else ⟨.relative, []⟩
  let names := (Text.fields '/' text).map String.ofList
  match files.follow base linkDepth [] start names with
  | .error error => .error error
  | .ok resolution =>
      let resolved := resolution.route.absolute base
      match files.locate base true resolved.text with
      | .error .tooManyLinks => .error (.linkLoop resolved.text)
      | _ => .ok resolved

end FileSystem

end PrologImage
