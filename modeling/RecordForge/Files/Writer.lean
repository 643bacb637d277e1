import RecordForge.Files.Tree
import RecordForge.Value.Text

/-!
# Writers

Where generated sources go: into memory under the names of their modules, into files below a
directory, or through a writer that refuses some modules. What has been written so far is a value
that every write takes and gives back; a run asks no more of a writer than that (`Write`).
-/

namespace RecordForge

/-- What writers have written so far. -/
structure Outputs where
  /-- Sources in memory, by the qualified names of their modules. -/
  memory : List (String × String) := []
  files : FileTree := {}
deriving Inhabited

/-- Why a source cannot be written. -/
inductive WriteError where
  /-- An operation on `failed` went wrong while writing to `path`. -/
  | cannotWrite (path : Path) (cause : FileError) (failed : Path)
  /-- The path holds a null character. -/
  | nullCharacter
  /-- A writer refuses the module for a reason of its own, which is any value. -/
  | refused (kind : String) (reason : Value)
deriving Repr, Inhabited

namespace WriteError

/-- What the error says. -/
def content : WriteError → Value
  | .cannotWrite path cause failed =>
    .text ("Cannot write " ++ path.toString ++ ": [Errno " ++ toString cause.number ++ "] "
      ++ cause.text ++ ": " ++ Text.quoted failed.toString)
  | .nullCharacter => .text "embedded null byte"
  | .refused _ reason => reason

/-- The wording of the error as it would be if every value had a text. -/
def message (e : WriteError) : String :=
  e.content.plain

end WriteError

/-- What a writer does with the source of a module: it takes what has been written so far and gives
that back, with the path of a file if it wrote one. -/
abbrev Write (σ : Type) :=
  σ → (package module source : String) → σ × Except WriteError (Option Path)

/-- The writers that there are. -/
inductive Writer where
  | memory
  | directory (path : Path)
  /-- Refuses the modules that `refusal?` has an error for. -/
  | refusing (refusal? : String → Option WriteError) (otherwise : Writer)
deriving Inhabited

namespace Writer

/-- The name of a module in its package. -/
def qualifiedModule (package module : String) : String :=
  if package = "" then module else package ++ "." ++ module

/-- Whether a path holds a null character. -/
def holdsNull (p : Path) : Bool :=
  p.components.any fun c => c.toList.contains '\x00'

/-- Writes a file and makes the directories that lead to it. -/
def writeBelow (directory : Path) (t : FileTree) (package module source : String) :
    FileTree × Except WriteError Path :=
  let path := Path.ofModule directory package module
  if holdsNull path.parent then (t, .error .nullCharacter)
  else
    match t.makeDirectories path.parent with
    | (t, some (e, failed)) => (t, .error (.cannotWrite path e failed))
    | (t, none) =>
      if holdsNull path then (t, .error .nullCharacter)
      else
        match t.writeFile path source with
        | .ok t => (t, .ok path)
        | .error e => (t, .error (.cannotWrite path e path))

/-- Writes the source of a module; a file gives back its path. -/
def write (w : Writer) : Write Outputs := fun out package module source =>
  match w with
  | .memory =>
    ({ out with memory := putEntry out.memory (qualifiedModule package module) source }, .ok none)
  | .directory path =>
    let (files, r) := writeBelow path out.files package module source
    ({ out with files }, r.map some)
  | .refusing refusal? otherwise =>
    match refusal? module with
    | some error => (out, .error error)
    | none => otherwise.write out package module source

end Writer

end RecordForge
