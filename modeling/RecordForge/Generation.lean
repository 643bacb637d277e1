import RecordForge.Files.Writer
import RecordForge.Schema.Describe
import RecordForge.Source.Text

/-!
# Generation

Generating the classes of a list of items: each item is read, modelled, rendered and written on its
own, and gives exactly one result. An item that cannot be read and a source that cannot be written
are reported and do not stop the others. Only two failures stop the run, and what was done before
them stands: one of a kind that is not expected of a class, and that of writing a text that shows a
value without one.
-/

namespace RecordForge

/-- The result for one item. There is no source if nothing was generated, and a path only if the
source went to a file. -/
structure GenerationResult where
  typeName : String
  className : String := ""
  moduleName : String := ""
  source : Option String := none
  path : Option Path := none
  error : Option String := none
deriving DecidableEq, Repr, Inhabited

/-- A failure that stops a run. -/
inductive GenerationFailure where
  /-- An item cannot be read for a reason that is not expected of a class. -/
  | read (e : ReadError)
  /-- A version in the source, or the reason for which it was not written, has no text. -/
  | unwritable (e : Unwritable)
deriving DecidableEq, Repr, Inhabited

namespace GenerationFailure

/-- The kind of the failure. -/
def kind : GenerationFailure → String
  | .read e => e.kind
  | .unwritable e => e.kind

/-- The wording of the failure. -/
def message : GenerationFailure → String
  | .read e => e.message
  | .unwritable e => e.message

end GenerationFailure

/-- The results so far, what was written, and the failure that stopped the run if one did. -/
structure Batch (σ : Type) where
  results : List GenerationResult := []
  outputs : σ
  stoppedBy : Option GenerationFailure := none
deriving Inhabited

namespace Generation

variable {σ : Type}

/-- The logger of generated classes. -/
def logger : String := "dbobjgen.generator"

/-- The declaration of an item; a declaration stands for itself. -/
def declare (config : Config) : Item → Except ReadError TypeDeclaration
  | .declaration d => .ok d
  | item => item.describe (.int config.defaultVersion)

/-- An item as the value of a diagnostic. -/
def itemValue : Item → Value
  | .value v => v
  | item => .text item.plain

/-- The name that an unreadable item goes by. -/
def itemName : Item → String
  | .schema c => c.own.name
  | item => item.shown

/-- Reports an item that cannot be read. -/
def unreadable (item : Item) (e : ReadError) : Reported GenerationResult := do
  Reported.error "cannot read %s: %s" [itemValue item, .text e.message]
  return { typeName := itemName item, error := some e.message }

/-- The source of the class of a declared type, if the type has a model. -/
def sourceOf (config : Config) (d : TypeDeclaration) :
    Reported (Except Unwritable (Option String)) := do
  Reported.note "dbobject: package = %s" [.text d.package]
  Reported.note "dbobject: class = %s" [.text d.name]
  Reported.note "dbobject: fields = %s"
    [.list (d.fields.map fun f => Value.ofText? f.identifier)]
  Reported.proceed (← ClassModel.build config d) fun model =>
    return model.mapM ClassModel.render

/-- The result of a declared type before anything is written. -/
def resultOf (config : Config) (d : TypeDeclaration) (source : Option String) :
    GenerationResult :=
  let className := Naming.className d.name config.classSuffix
  { typeName := d.name, className, moduleName := Naming.moduleName className, source }

/-- Reports the answer of a writer to a source. -/
def reportWritten (d : TypeDeclaration) (r : GenerationResult) :
    Except WriteError (Option Path) → Reported (Except Unwritable GenerationResult)
  | .error e => do
    Reported.error "generate class for %s failed: %s" [.text d.qualifiedName, e.content]
    return e.content.write.map fun message => { r with error := some message }
  | .ok path => do
    Reported.log logger .info ("generated " ++ d.package ++ "." ++ r.className)
    return .ok { r with path }

/-- Writes a source and reports how that went. -/
def writeSource (w : Write σ) (out : σ) (d : TypeDeclaration) (r : GenerationResult)
    (source : String) : Reported (Except Unwritable GenerationResult × σ) := do
  let (out, written) := w out d.package r.moduleName source
  return (← reportWritten d r written, out)

/-- Generates the class of a declared type. -/
def ofDeclaration (config : Config) (writer : Option (Write σ)) (out : σ)
    (d : TypeDeclaration) : Reported (Except Unwritable GenerationResult × σ) := do
  match ← sourceOf config d with
  | .error e => return (.error e, out)
  | .ok source =>
    let r := resultOf config d source
    match writer, source with
    | some w, some source => writeSource w out d r source
    | _, _ => return (.ok r, out)

/-- Generates the class of an item that was read, or reports that it could not be. -/
def ofRead (config : Config) (writer : Option (Write σ)) (out : σ) (item : Item) :
    Except ReadError TypeDeclaration → Reported (Except GenerationFailure GenerationResult × σ)
  | .ok d => do
    let (made, out) ← ofDeclaration config writer out d
    return (made.mapError .unwritable, out)
  | .error e =>
    if e.escapes then return (.error (.read e), out)
    else do return (.ok (← unreadable item e), out)

/-- Generates the classes of items in order, each of them read in a given way. -/
def runReading (read : Item → Except ReadError TypeDeclaration) (config : Config)
    (writer : Option (Write σ)) (out : σ) : List Item → Reported (Batch σ)
  | [] => pure { outputs := out }
  | item :: rest => do
    match ← ofRead config writer out item (read item) with
    | (.error e, out) => return { outputs := out, stoppedBy := some e }
    | (.ok r, out) =>
      let b ← runReading read config writer out rest
      return { b with results := r :: b.results }

/-- Generates the classes of items in order. -/
def run (config : Config) (writer : Option (Write σ)) (out : σ) (items : List Item) :
    Reported (Batch σ) :=
  runReading (declare config) config writer out items

/-- Generates the marked classes that a module defines. -/
def runModule (config : Config) (writer : Option (Write σ)) (out : σ) (m : SchemaModule) :
    Reported (Batch σ) :=
  run config writer out (m.discover.map Item.schema)

end Generation

end RecordForge
