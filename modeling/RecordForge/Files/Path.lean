import RecordForge.Text.Cut

/-!
# Paths

A path is a root, if it has one, and components. Empty components and those of a single point vanish
when a path is read; two points stay, as what they lead to depends on the files. Exactly two slashes
in front make a root of their own, any other number of them is one.
-/

namespace RecordForge

/-- Where a path starts. -/
inductive PathRoot where
  /-- The working directory. -/
  | none
  | single
  | double
deriving DecidableEq, Repr, Inhabited

/-- A path. -/
structure Path where
  root : PathRoot := .none
  components : List String := []
deriving DecidableEq, Repr, Inhabited

namespace Path

/-- The root that slashes in front of a path make. -/
def rootOf : List Char → PathRoot
  | '/' :: '/' :: '/' :: _ => .single
  | '/' :: '/' :: _ => .double
  | '/' :: _ => .single
  | _ => .none

/-- Whether a part of a text is a component of the path. -/
def isComponent (part : String) : Bool :=
  part ≠ "" && part ≠ "."

/-- The path that a text denotes. -/
def ofString (s : String) : Path :=
  ⟨rootOf s.toList, (Text.parts '/' s).filter isComponent⟩

/-- Goes on from a path; a path with a root starts anew. -/
def append (p q : Path) : Path :=
  match q.root with
  | .none => ⟨p.root, p.components ++ q.components⟩
  | _ => q

/-- Goes on from a path by the paths that texts denote. -/
def appendAll (p : Path) (texts : List String) : Path :=
  texts.foldl (fun p t => p.append (ofString t)) p

/-- The text of a root. -/
def rootText : PathRoot → String
  | .none => ""
  | .single => "/"
  | .double => "//"

/-- The text of a path; the empty path is a single point. -/
def toString (p : Path) : String :=
  if p.root = .none ∧ p.components = [] then "."
  else rootText p.root ++ Text.joined '/' p.components

/-- The directory that holds a path. -/
def parent (p : Path) : Path :=
  { p with components := p.components.dropLast }

/-- The components of a package: the parts between its points that are not empty. -/
def packageParts (package : String) : List String :=
  (Text.parts '.' package).filter (· ≠ "")

/-- The file of a module below a directory. -/
def ofModule (directory : Path) (package module : String) : Path :=
  directory.appendAll (packageParts package ++ [module ++ ".py"])

end Path

end RecordForge
