import RecordForge.Entries
import RecordForge.Files.Path

/-!
# File trees

Files and directories below a working directory, with the operations that make directories and write
files. A path is followed component by component, each through a directory that is there; the first
component that cannot be followed decides the error. The directories above the working directory are
there as well, but nothing is known of what they hold.
-/

namespace RecordForge

/-- Where a path leads: from the root, or from the directory a number of levels above the working
directory, down through named entries. -/
structure Place where
  fromRoot : Bool := false
  up : Nat := 0
  down : List String := []
deriving DecidableEq, Repr, Inhabited

/-- What a place holds. -/
inductive Node where
  | directory
  | file (text : String)
deriving DecidableEq, Repr, Inhabited

/-- Why an operation on files fails. -/
inductive FileError where
  | missing
  | exists
  | notDirectory
  | isDirectory
  | nameTooLong
deriving DecidableEq, Repr, Inhabited

namespace FileError

/-- The number of the error. -/
def number : FileError → Nat
  | missing => 2
  | .exists => 17
  | notDirectory => 20
  | isDirectory => 21
  | nameTooLong => 36

/-- The wording of the error. -/
def text : FileError → String
  | missing => "No such file or directory"
  | .exists => "File exists"
  | notDirectory => "Not a directory"
  | isDirectory => "Is a directory"
  | nameTooLong => "File name too long"

end FileError

/-- The known files and directories. -/
structure FileTree where
  entries : List (Place × Node) := []
deriving Inhabited

namespace FileTree

/-- The longest name of an entry, in bytes. -/
def maxName : Nat := 255

/-- The longest path, in bytes. -/
def maxPath : Nat := 4095

/-! ## Looking up -/

/-- What a place holds; the root, the working directory and those above it are always there. -/
def node? (t : FileTree) (p : Place) : Option Node :=
  if p.down = [] then some .directory else contentAt? t.entries p

/-- The place above. -/
def above (p : Place) : Place :=
  if p.down = [] then (if p.fromRoot then p else { p with up := p.up + 1 })
  else { p with down := p.down.dropLast }

/-- The place of an entry, whether it is there or not. -/
def below (p : Place) (name : String) : Place :=
  { p with down := p.down ++ [name] }

/-- Checks that an entry can be looked for in a place. -/
def enter (t : FileTree) (p : Place) (name : String) : Except FileError Unit :=
  match t.node? p with
  | some .directory => if maxName < name.utf8ByteSize then .error .nameTooLong else .ok ()
  | some (.file _) => .error .notDirectory
  | none => .error .missing

/-- Follows one component of a path. -/
def step (t : FileTree) (p : Place) (name : String) : Except FileError Place := do
  t.enter p name
  if name = ".." then return above p else return below p name

/-- Follows components, the last of which may lead to a place that holds nothing. -/
def follow (t : FileTree) (p : Place) : List String → Except FileError Place
  | [] => .ok p
  | name :: rest => do t.follow (← t.step p name) rest

/-- Where a path starts. -/
def start (p : Path) : Place :=
  { fromRoot := p.root ≠ .none }

/-- The place of a path, which may hold nothing. -/
def place (t : FileTree) (p : Path) : Except FileError Place :=
  if maxPath < p.toString.utf8ByteSize then .error .nameTooLong
  else t.follow (start p) p.components

/-- Whether a path leads to a directory. -/
def isDirectory (t : FileTree) (p : Path) : Bool :=
  match t.place p with
  | .ok place => t.node? place = some .directory
  | .error _ => false

/-! ## Changes -/

/-- Puts something in a place. -/
def put (t : FileTree) (p : Place) (n : Node) : FileTree :=
  ⟨putEntry t.entries p n⟩

/-- Makes one directory. -/
def makeDirectory (t : FileTree) (p : Path) : Except FileError FileTree := do
  let place ← t.place p
  match t.node? place with
  | some _ => .error .exists
  | none => return t.put place .directory

/-- Makes one directory, unless it is there. -/
def ensureDirectory (t : FileTree) (p : Path) : FileTree × Option FileError :=
  match t.makeDirectory p with
  | .ok t => (t, none)
  | .error e => if t.isDirectory p then (t, none) else (t, some e)

/-- Makes the directory with the given components, the last of them first, and those that lead to
it. What was made before a failure stays; the error comes with the path that failed. -/
def makeAll (t : FileTree) (root : PathRoot) :
    (reversed : List String) → FileTree × Option (FileError × Path)
  | [] =>
    let (t, e) := t.ensureDirectory ⟨root, []⟩
    (t, e.map (·, ⟨root, []⟩))
  | name :: rest =>
    let p : Path := ⟨root, (name :: rest).reverse⟩
    match t.ensureDirectory p with
    | (t, none) => (t, none)
    | (t, some .missing) =>
      match t.makeAll root rest with
      | (t, some e) => (t, some e)
      | (t, none) =>
        let (t, e) := t.ensureDirectory p
        (t, e.map (·, p))
    | (t, some e) => (t, some (e, p))

/-- Makes a directory and all that lead to it. -/
def makeDirectories (t : FileTree) (p : Path) : FileTree × Option (FileError × Path) :=
  t.makeAll p.root p.components.reverse

/-- Writes a file whose directory is there. -/
def writeFile (t : FileTree) (p : Path) (text : String) : Except FileError FileTree := do
  let place ← t.place p
  match t.node? place with
  | some .directory => .error .isDirectory
  | _ => return t.put place (.file text)

/-! ## Listing -/

/-- Whether a place is below the working directory. -/
def isBelow (p : Place) : Bool :=
  !p.fromRoot && p.up = 0

/-- The files below the working directory, by path in ascending order. -/
def files (t : FileTree) : List (String × String) :=
  (t.entries.filterMap fun (p, n) => match n with
    | .file text => if isBelow p then some (Text.joined '/' p.down, text) else none
    | .directory => none).mergeSort fun a b => a.1 ≤ b.1

/-- The content of a file. -/
def text? (t : FileTree) (p : Place) : Option String :=
  match t.node? p with
  | some (.file text) => some text
  | _ => none

end FileTree

end RecordForge
