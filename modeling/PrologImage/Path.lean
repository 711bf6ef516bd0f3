import PrologImage.Text.Split

/-!
Contract: path names, as they are written and compared, without regard to any file system.

Owns: the anchor and the parts of a path, reading a path from text and writing it.

Does not own: what a path denotes (`FileSystem`).

Reading drops empty parts, single dots and a trailing slash, keeps double dots, and keeps exactly
two leading slashes apart from one; three or more are one. The empty text is the path `.`.
-/

namespace PrologImage

/-- Where a path starts. -/
inductive Anchor where
  | relative
  | root
  | doubleRoot
deriving DecidableEq, Repr

def Anchor.text : Anchor → String
  | .relative => ""
  | .root => "/"
  | .doubleRoot => "//"

/-- The anchor of a path text: exactly two leading slashes are an anchor of their own. -/
def Anchor.ofText (text : List Char) : Anchor :=
  match (text.takeWhile (· = '/')).length with
  | 0 => .relative
  | 2 => .doubleRoot
  | _ => .root

/-- A part of a path: a name that is not empty, is not a single dot, and has no slash. -/
def IsPathPart (part : String) : Prop :=
  part ≠ "" ∧ part ≠ "." ∧ '/' ∉ part.toList

instance (part : String) : Decidable (IsPathPart part) := by
  unfold IsPathPart
  infer_instance

/-- A path: an anchor and the parts after it. -/
structure Path where
  anchor : Anchor
  parts : List String
  proper : ∀ part ∈ parts, IsPathPart part
deriving DecidableEq

namespace Path

def ofText (text : String) : Path where
  anchor := Anchor.ofText text.toList
  parts := ((Text.fields '/' text.toList).map String.ofList).filter (decide <| IsPathPart ·)
  proper := by
    intro part member
    simpa using (List.mem_filter.mp member).2

def text (path : Path) : String :=
  if path.anchor = .relative ∧ path.parts = [] then "."
  else path.anchor.text ++ String.intercalate "/" path.parts

end Path

end PrologImage
