import RecordForge.Arity
import RecordForge.Entries
import RecordForge.Schema.Deferred

/-!
# Schema classes

The classes that declare records: a chain of layers, each with the fields that it declares itself. A
class resolves in the order of its layers, the most derived first. Depending on its kind a class
also holds a table of fields that it collected when it was defined: a record class the names of its
fields, a model class their hints and notes as well. Every class is a model class whose chain holds
the layer that model classes have in common.
-/

namespace RecordForge

/-- What marks a class for generation. -/
inductive ClassMark where
  | unmarked
  | version (latest : Value)
  /-- Something stands in place of the mark that is none. -/
  | other
deriving Inhabited

/-- A field in the table of a model class. -/
structure ModelField where
  hint : Hint
  notes : List HintNote := []
deriving Inhabited

/-- The table of a model class, or something in its place. -/
inductive ModelTable where
  | fields (entries : List (String × ModelField))
  | other
deriving Inhabited

/-- What a name that a record class collected stands for. -/
inductive RecordRole where
  | field
  /-- An argument of the initialiser only. -/
  | argument
  /-- An attribute of the class. -/
  | attribute
deriving DecidableEq, Repr, Inhabited

/-- The names that a record class collected. -/
abbrev RecordTable := List (String × RecordRole)

/-- What one class of a chain declares itself. -/
structure Layer where
  /-- Tells layers apart; it is at least one. -/
  serial : Nat
  name : String
  module : String
  hints : List (String × Hint) := []
  mark : ClassMark := .unmarked
  recordTable : Option RecordTable := none
  /-- The table that the class of this layer shows: its own or the nearest inherited one. -/
  shownTable : Option RecordTable := none
  /-- The fields that the class of this layer collected as a model class. -/
  collected : List (String × ModelField) := []
  /-- A table of its own making that stands in place of the collected fields. -/
  ownTable : Option ModelTable := none
  /-- Whether the layer brings the check that model classes have. -/
  validates : Bool := false
deriving Inhabited

/-- A class that declares a record: its own layer and the inherited ones in resolution order. -/
structure SchemaClass where
  own : Layer
  inherited : List Layer := []
deriving Inhabited

namespace Layer

/-- The number of the layer that all model classes have in common. -/
def modelSerial : Nat := 1

/-- The layer that all model classes have in common. -/
def modelBase : Layer :=
  { serial := modelSerial, name := "BaseModel", module := "", validates := true }

/-- Whether this is the layer that all model classes have in common. -/
def isModelBase (l : Layer) : Bool :=
  l.serial = modelSerial

end Layer

namespace SchemaClass

/-- All layers in resolution order. -/
def layers (c : SchemaClass) : List Layer :=
  c.own :: c.inherited

/-- The class that all model classes derive from. -/
def modelBase : SchemaClass :=
  ⟨Layer.modelBase, []⟩

/-- Whether the class is a model class. -/
def isModel (c : SchemaClass) : Bool :=
  c.layers.any (·.isModelBase)

/-- The name of the class with its module, unless every program has the module. -/
def qualifiedName (c : SchemaClass) : String :=
  if c.own.module = Hint.builtins then c.own.name else c.own.module ++ "." ++ c.own.name

/-- The text of a class. -/
def shown (c : SchemaClass) : String :=
  "<class '" ++ c.qualifiedName ++ "'>"

/-- The type that the class is. -/
def type (c : SchemaClass) : TypeName :=
  ⟨c.own.module, c.own.name, if c.isModel then .model else .plainClass, c.own.serial⟩

/-- The table of the nearest record class in the chain. -/
def recordTable? (c : SchemaClass) : Option RecordTable :=
  c.layers.findSome? (·.recordTable)

/-- The table that the class shows as that of a model class: the nearest one of a layer's own
making, or the collected fields if the common layer of model classes is nearer. -/
def modelTable? (c : SchemaClass) : Option ModelTable :=
  c.layers.findSome? fun l =>
    if l.isModelBase then some (.fields c.own.collected) else l.ownTable

/-- Whether the class or one that it derives from brings the check of model classes. -/
def validates (c : SchemaClass) : Bool :=
  c.layers.any (·.validates)

/-! ## Objects -/

/-- The nearest layer that says how objects are made and shown: that of a record class or the common
one of model classes. -/
def objectLayer? (c : SchemaClass) : Option Layer :=
  c.layers.find? fun l => l.recordTable.isSome || l.isModelBase

/-- Fails if an object of the class cannot be made without arguments. -/
def instantiate (c : SchemaClass) : Except ArityError Unit :=
  match c.objectLayer?.bind fun l => l.recordTable.map (l.name, ·) with
  | none => .ok ()
  | some (name, table) =>
    let parameters := (table.filter (·.2 ≠ .attribute)).map Prod.fst
    if parameters.isEmpty then .ok () else .error (.missing (name ++ ".__init__") parameters)

/-- The text of an object of the class that was made without arguments. -/
def objectShown (c : SchemaClass) : String :=
  if c.objectLayer?.isSome then c.own.name ++ "()" else "<" ++ c.qualifiedName ++ " object>"

/-- The plain text of an object of the class: an object of a model class is written as the list of
its fields, which is empty. -/
def objectPlain (c : SchemaClass) : String :=
  if c.isModel then "" else c.objectShown

/-! ## Hints -/

/-- All hints of a chain, those of base classes first. -/
def allHints (layers : List Layer) : List (String × Hint) :=
  layers.reverse.flatMap (·.hints)

end SchemaClass

/-! ## Resolution order -/

namespace Resolution

/-- Whether a layer comes after the first place in one of the sequences. -/
def isBehind (l : Layer) (seqs : List (List Layer)) : Bool :=
  seqs.any fun s => s.tail.any (·.serial = l.serial)

/-- The first layer that heads a sequence and is behind in none. -/
def nextLayer? (seqs : List (List Layer)) : Option Layer :=
  (seqs.filterMap List.head?).find? (!isBehind · seqs)

/-- Takes a layer off the sequences that it heads. -/
def dropLayer (l : Layer) (seqs : List (List Layer)) : List (List Layer) :=
  seqs.map fun s => match s with
    | [] => []
    | x :: rest => if x.serial = l.serial then rest else x :: rest

/-- The class that every chain ends in. It is in no chain of layers, as it declares nothing. -/
def rootName : String := "object"

/-- Adds a name unless a layer of the same number has added one. -/
def addHead (named : List (Nat × String)) (l : Nat × String) : List (Nat × String) :=
  if named.any (·.1 = l.1) then named else named ++ [l]

/-- The names of the classes that head the chains of the bases, and of the next base; a chain that
is used up still has the root. -/
def headNames (seqs : List (List Layer)) : List String :=
  let chains := seqs.dropLast.map fun s => match s with
    | [] => (0, rootName)
    | l :: _ => (l.serial, l.name)
  let next := (seqs.getLast?.bind List.head?).toList.map fun l => (l.serial, l.name)
  ((chains ++ next).foldl addHead []).map Prod.snd

/-- Merges sequences into one that keeps the order of each, in at most `steps` steps. A failure
holds the names of the classes of which none can come next. -/
def mergeWithin : (steps : Nat) → List (List Layer) → Except (List String) (List Layer)
  | 0, seqs => if seqs.all List.isEmpty then .ok [] else .error (headNames seqs)
  | n + 1, seqs =>
    if seqs.all List.isEmpty then .ok []
    else match nextLayer? seqs with
      | none => .error (headNames seqs)
      | some l => (mergeWithin n (dropLayer l seqs)).map (l :: ·)

/-- The layers that a class with these bases inherits, if their orders agree. -/
def inheritedLayers (bases : List SchemaClass) : Except (List String) (List Layer) :=
  let seqs := bases.map (·.layers) ++ [bases.map (·.own)]
  mergeWithin seqs.flatten.length seqs

end Resolution

/-! ## Definition -/

/-- The kind of a class. -/
inductive ClassKind where
  | plain
  /-- A class that collects the names of its fields. -/
  | record
  /-- A class that collects its fields with their notes. -/
  | model
  /-- A plain class that brings a table of its own making. -/
  | tabled (table : ModelTable) (validates : Bool)
deriving Inhabited

/-- What a class definition says. -/
structure ClassDefinition where
  serial : Nat
  name : String
  module : String
  kind : ClassKind := .plain
  bases : List SchemaClass := []
  hints : List (String × Hint) := []
  mark : ClassMark := .unmarked
deriving Inhabited

/-- Why a class cannot be defined. -/
inductive DefinitionError where
  /-- The name of the class holds a null character. -/
  | nullInName
  | duplicateBase (name : String)
  /-- The bases want their layers in orders that contradict each other; `stuck` are the classes of
  which none can come next. -/
  | noOrder (stuck : List String)
  /-- A hint that a model class collects does not resolve, for another reason than that a name in it
  is not known yet. -/
  | hint (failure : HintFailure)
deriving DecidableEq, Repr, Inhabited

/-- The wording of the error. -/
def DefinitionError.message : DefinitionError → String
  | .nullInName => "type name must not contain null characters"
  | .duplicateBase name => "duplicate base class " ++ name
  | .noOrder stuck =>
    "Cannot create a consistent method resolution\norder (MRO) for bases "
      ++ ", ".intercalate stuck
  | .hint failure => failure.message

namespace ClassDefinition

/-- What a hint makes of its name in a record class. -/
def recordRole (h : Hint) : RecordRole :=
  if h.isClassVar then .attribute else if h.isInitVar then .argument else .field

/-- The names that a record class collects: those that the inherited layers show, base classes
first, then its own. -/
def collectRecord (inherited : List Layer) (hints : List (String × Hint)) : RecordTable :=
  let shown := inherited.reverse.flatMap fun l => l.shownTable.getD []
  putEntries (putEntries [] shown) (hints.map fun (name, h) => (name, recordRole h))

/-- Whether a hint is that of an attribute of the class, with or without notes. -/
def isModelClassVar (h : Hint) : Bool :=
  h.split.1.isClassVar

/-- Whether a name can be a field of a model class: private names and the name of the settings are
not. -/
def isModelName (name : String) : Bool :=
  name.toList.head? ≠ some '_' && name ≠ "model_config"

/-- The hint that a model class works with: the resolved one, or the hint as it is written if a name
in it is not known yet. -/
def modelHint (h : Hint) : Except DefinitionError Hint :=
  match h.resolve with
  | .ok h => .ok h
  | .error (.unknownName _) => .ok h
  | .error failure => .error (.hint failure)

/-- The field that a model class makes of a hint. -/
def modelField (h : Hint) : ModelField :=
  ⟨h.typed.split.1, h.typed.split.2⟩

/-- The fields that the bases collected; of two the first base counts. -/
def baseFields (bases : List SchemaClass) : List (String × ModelField) :=
  putEntries [] (bases.reverse.flatMap (·.own.collected))

/-- The fields that a model class collects over the merged hints: its own from their hints,
inherited ones as the bases have them. -/
def collectModel (bases : List SchemaClass) (own merged : List (String × Hint)) :
    List (String × ModelField) :=
  merged.filterMap fun (name, h) =>
    if isModelClassVar h || !isModelName name then none
    else if (contentAt? own name).isSome then some (name, modelField h)
    else match contentAt? (baseFields bases) name with
      | some f => some (name, f)
      | none => some (name, modelField h)

/-- The classes that a class of this definition derives from. A model class derives from the class
that all of them have in common, at last. -/
def allBases (d : ClassDefinition) : List SchemaClass :=
  match d.kind with
  | .model =>
    if d.bases.any (·.isModel) then d.bases else d.bases ++ [SchemaClass.modelBase]
  | _ => d.bases

/-- The layer of a class that inherits the given layers, without what it collects as a model
class. -/
def layer (d : ClassDefinition) (inherited : List Layer) : Layer :=
  let hints := putEntries [] d.hints
  let plain : Layer :=
    { serial := d.serial, name := d.name, module := d.module, hints, mark := d.mark
      shownTable := inherited.findSome? (·.recordTable) }
  match d.kind with
  | .plain => plain
  | .model => plain
  | .record =>
    let table := collectRecord inherited hints
    { plain with recordTable := some table, shownTable := some table }
  | .tabled table validates => { plain with ownTable := some table, validates }

/-- The layer with what it collects as a model class, if it is one. -/
def collecting (d : ClassDefinition) (l : Layer) (inherited : List Layer) :
    Except DefinitionError Layer :=
  if inherited.any (·.isModelBase) then do
    let hints ← (SchemaClass.allHints (l :: inherited)).mapM fun (name, h) =>
      return (name, ← modelHint h)
    return { l with collected := collectModel d.bases l.hints (putEntries [] hints) }
  else .ok l

/-- The first name that occurs among the bases more than once. -/
def duplicateBase? : List SchemaClass → Option String
  | [] => none
  | b :: rest =>
    if rest.any (·.own.serial = b.own.serial) then some b.own.name else duplicateBase? rest

/-- Defines a class. -/
def define (d : ClassDefinition) : Except DefinitionError SchemaClass :=
  if d.name.toList.contains '\x00' then .error .nullInName
  else match duplicateBase? d.allBases with
  | some name => .error (.duplicateBase name)
  | none =>
    match Resolution.inheritedLayers d.allBases with
    | .error stuck => .error (.noOrder stuck)
    | .ok inherited => do
      return ⟨← d.collecting (d.layer inherited) inherited, inherited⟩

end ClassDefinition

end RecordForge
