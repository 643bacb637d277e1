import RecordForge.CommandLine.Program
import RecordForge.Schema.SchemaText

/-!
# The executable

Reads the schema modules that the arguments name from files beside the working directory, runs the
program on them and on the output files that are there, and puts what it wrote on disk.
-/

open RecordForge

/-- The usage of the program. -/
def usageText : String :=
  "usage: generate [--output DIR] [--accessors | --no-accessors] [--runtime-module MODULE]\n"
    ++ "                [--suffix SUFFIX] [--verbose] MODULES..."

/-- What a path holds on disk. -/
def probe (path : String) : IO (Option Node) := do
  try
    return some (.file (← IO.FS.readFile path))
  catch
    | .noFileOrDirectory _ _ _ => return none
    | .inappropriateType _ _ _ => return some .directory
    | _ => return none

/-- The modules of the given names that have files. -/
def loadModules (names : List String) : IO (List SchemaModule) := do
  let mut modules := []
  for name in names do
    if let some (.file text) ← probe (SchemaText.moduleFile name) then
      match SchemaText.readModule name text with
      | .ok m => modules := modules ++ [m]
      | .error e => throw (IO.userError (SchemaText.moduleFile name ++ ": " ++ e.message))
  return modules

/-- What there is on disk of the places that a tree holds. -/
def loadTree (wanted : FileTree) : IO FileTree := do
  let mut tree : FileTree := {}
  for (place, _) in wanted.entries do
    if FileTree.isBelow place then
      if let some node ← probe (Text.joined '/' place.down) then
        tree := tree.put place node
  return tree

/-- Puts the directories and files of a tree on disk that were not there before. -/
def storeTree (before after : FileTree) : IO Unit := do
  for (place, node) in after.entries do
    if FileTree.isBelow place && contentAt? before.entries place != some node then
      match node with
      | .directory => IO.FS.createDirAll (Text.joined '/' place.down)
      | .file text => IO.FS.writeFile (Text.joined '/' place.down) text

/-- The modules that a request names. -/
def requestedModules : CommandLine.Request → List String
  | .generate o => o.modules
  | _ => []

def main (args : List String) : IO UInt32 := do
  let request := CommandLine.Request.ofArguments args
  let modules ← loadModules (requestedModules request)
  let wanted := (CommandLine.runRequest modules {} request).outputs.files
  let before ← loadTree wanted
  let outcome := CommandLine.runRequest modules before request
  storeTree before outcome.outputs.files
  if outcome.usage then IO.println usageText
  for line in outcome.logged do IO.eprintln line
  for line in outcome.shown do IO.println line
  if let some (kind, message) := outcome.failure then IO.eprintln (kind ++ ": " ++ message)
  return UInt32.ofNat outcome.exitCode
