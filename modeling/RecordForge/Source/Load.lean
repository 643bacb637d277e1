import RecordForge.Running.Program
import RecordForge.Source.Plain
import RecordForge.Source.Text

/-!
# Loading a generated class

A source that cannot be rendered has no class. A plain source is taken at its word. The text of any
other one is read and run, and the class is what the run leaves under its name: with the bases,
columns and methods that the text gave it, which need not be those of the source. A name that the
methods use may have come to mean something else by then; what goes wrong when they use it is found
out by using it once.
-/

namespace RecordForge.Running

/-! ## What a type holds -/

/-- The value that a datum stands for, if it is a simple one. -/
def valueOf? : Datum → Option Value
  | .none => some .null
  | .bool b => some (.bool b)
  | .int n => some (.int n)
  | .float x => some (.float x)
  | .text s => some (.text s)
  | _ => none

/-- The column that stands at a constant, if there is one. -/
def columnAt? (constant : String) (d : Datum) : Running (Option Column) := do
  match d with
  | .object place =>
    match ← thing place with
    | .made (.type type) names _ =>
      let valueNamed (name : String) : Option Value := do valueOf? (← contentAt? names name)
      return match valueNamed "name", valueNamed "allow_null", valueNamed "primary",
          valueNamed "version" with
        | some (.text name), some allowNull, some primary, some version =>
          if Base.ofName? type = some .column then
            some ⟨constant, StorageKind.ofColumnClass? type, name, allowNull, primary, version⟩
          else none
        | _, _, _, _ => none
    | _ => return none
  | _ => return none

/-- The columns among the names of a type, each with the datum that it is. -/
def columnsAmong (names : List (String × Datum)) : Running (List (Datum × Column)) :=
  names.filterMapM fun (name, d) => return (← columnAt? name d).map (d, ·)

/-- The columns that a tuple holds, if it holds nothing else. -/
def groupAt? (columns : List (Datum × Column)) : Datum → Option (List Column)
  | .tuple items => items.mapM fun d => (columns.find? (·.1 == d)).map Prod.snd
  | _ => none

/-- What a method is bound to in its type. -/
inductive Binding where
  /-- A function, which is called on objects. -/
  | function
  | classMethod
  | other
deriving DecidableEq

/-- What a datum among the names of a type is. -/
def bindingOf (d : Option Datum) : Running Binding := do
  match d with
  | some (.object place) =>
    match ← thing place with
    | .function _ => return .function
    | .wrapped "classmethod" _ => return .classMethod
    | _ => return .other
  | _ => return .other

/-! ## What a class builds on -/

/-- What sets up the objects of a type, if it does so itself. -/
def baseAt? : Datum → Option Base
  | .type name =>
    match Base.ofName? name with
    | some .anyError => none
    | some base => some base
    | none => if name ∈ errorTypes then some .anyError else none
  | _ => none

/-- The names of the bases of a type. One that nothing is known of is named as it is written. -/
def baseNames (written : List String) : List Datum → Running (List String)
  | [] => return []
  | d :: rest => do
    let name ← if d == .unknown then pure (written.headD rootType) else nameOfType d
    return name :: (← baseNames written.tail rest)

/-! ## What goes wrong -/

/-- Does something with what is bound to a name. -/
def useName (name : String) (use : Datum → Running Unit) : Running Unit := do
  use (← lookUp sourceSite name)

/-- Calls a datum. -/
def callWith (f : Datum) (arguments : List Datum) : Running Datum :=
  (toDepth maxDepth).call sourceSite f arguments []

/-- Why an initialiser cannot call that of the base, if it cannot. Whatever stands for the base
instead of it sets up no record. -/
def baseFault (c : LoadedClass) (d : Datum) : Running (Option RunError) := do
  let lacking := RunError.noAttribute c.name c.templateName
  let f ← lookUp sourceSite baseName
  if f != .type baseName then
    let told ← errorOf? do
      let base ← callWith f []
      let _ ← callWith (← attributeOf base "__init__") [.unknown, .unknown]
    return some (told.elim lacking fun (kind, wording) => .raised kind wording)
  else if c.base ≠ .root then return none
  else
    match ← layoutOf d with
    | none => return none
    | some type =>
      let told ← errorOf? (callWith type [.unknown, .unknown])
      return some (told.elim lacking fun (kind, wording) => .raised kind wording)

/-- Why no object of a type can be made, if it leaves out what a base asks for. -/
def abstractFault (c : LoadedClass) (t : TypeBody) : Option RunError :=
  if t.chain.contains (.type "Iterable") && (contentAt? t.names "__iter__").isNone then
    some (.raised "TypeError"
      ("Can't instantiate abstract class " ++ c.name ++ " with abstract method __iter__"))
  else none

/-- Why no error for an unknown version can be raised, if none can. -/
def unknownVersionFault (c : LoadedClass) : Running (Option RunError) := do
  if c.name = unknownVersionName then return none
  let told ← errorOf? <| useName unknownVersionName fun f => do
    if f != .type unknownVersionName then
      raise (← raisable (toDepth maxDepth) sourceSite "exceptions must derive from BaseException"
        (← callWith f [.unknown, .tuple []]))
  return told.map fun (kind, wording) => .raised kind wording

/-- Why an object cannot be made by a class method, if it cannot. -/
def methodFault (type : Datum) (name : String) : Running (Option RunError) := do
  let told ← errorOf? do
    let made ← callWith (← attributeOf type name) [.unknown]
    attributeOf made "version"
  return told.map fun (kind, wording) => .raised kind wording

/-! ## The class -/

/-- The class that a type is, given its source. -/
def classOf (s : ClassSource) (d : Datum) (t : TypeBody) : Running LoadedClass := do
  let written := Text.readNames ',' s.superclass
  let bases ← if t.bases.isEmpty then pure [rootType] else baseNames written t.bases
  let columns ← columnsAmong t.names
  let groups := t.names.filterMap fun (name, d) => (groupAt? columns d).map (name, ·)
  let methods := s.methods.map (Method.asRead t.name)
  let bound ← methods.mapM fun m => return (m, ← bindingOf (contentAt? t.names m.name))
  let c : LoadedClass :=
    { name := t.name, bases, base := (t.chain.findSome? baseAt?).getD .root
      onRecords := t.chain.contains (.type recordClass)
      doc := s.doc
      columns := columns.map fun (_, c) => (c.label, c)
      groups
      methods := putEntries [] (methods.map fun m => (m.name, m))
      unbound := (bound.filter fun (m, b) => m.onClass && b = .function).map (·.1.name) }
  let methodFaults ← (bound.filter fun (m, b) => m.onClass && b ≠ .classMethod).filterMapM
    fun (m, _) => return (← methodFault d m.name).map (m.name, ·)
  let abstractFaults := ((abstractFault c t).map (makerName, ·)).toList
  let baseFaults := ((← baseFault c d).map (baseName, ·)).toList
  let unknownFaults := ((← unknownVersionFault c).map (unknownVersionName, ·)).toList
  return { c with faults := abstractFaults ++ baseFaults ++ unknownFaults ++ methodFaults }

/-- Runs the statements of a source and looks its class up by its name. -/
def runClass (s : ClassSource) (statements : List Source.Stmt) : Running LoadedClass := do
  match contentAt? (← bindings statements) s.name with
  | none => raise (.error "KeyError" [.text s.name])
  | some (.object place) =>
    match ← thing place with
    | .type t => classOf s (.object place) t
    | _ => noAttribute (.object place) "__name__"
  | some d => noAttribute d "__name__"

end RecordForge.Running

namespace RecordForge.LoadedClass

/-- Loads a source by a run of its text. -/
def ofRun (s : ClassSource) : Except RunError LoadedClass := do
  let statements ← (Source.read s.text).mapError RunError.source
  (Running.outcome (Running.runClass s statements)).mapError fun (kind, wording) =>
    .raised kind wording

/-- Loads a source. -/
def load (s : ClassSource) : Except RunError LoadedClass := do
  let _ ← s.render.mapError RunError.unwritable
  match s.plainClass? with
  | some c => .ok c
  | none => ofRun s

/-! ## What both ways of loading have in common -/

/-- The documentation and the methods of a class are those of a source, as they are read within the
class. -/
structure Declares (s : ClassSource) (c : LoadedClass) : Prop where
  doc : c.doc = s.doc
  methods : c.methods = putEntries [] ((s.methods.map (Method.asRead c.name)).map
    fun m => (m.name, m))

open Running in
/-- The class that a type is made declares what its source does. -/
theorem declares_of_classOf (s : ClassSource) (d : Datum) (t : TypeBody) :
    Yields (Declares s) (classOf s d t) := by
  unfold classOf
  dsimp only
  -- With written bases or without, the class is put together in the same way.
  split <;> exact .bind fun bases => .bind fun columns => .bind fun bound =>
    .bind fun methodFaults => .bind fun baseFault => .bind fun unknownFault => .pure ⟨rfl, rfl⟩

open Running in
/-- So does the class that is found when all statements have been run. -/
theorem declares_of_runClass (s : ClassSource) (statements : List Source.Stmt) :
    Yields (Declares s) (runClass s statements) := by
  refine .bind fun names => ?_
  -- There is a class only if the name is bound to a type; anything else is an error.
  split
  next => exact .throw _
  next =>
    refine .bind fun found => ?_
    split
    next => exact declares_of_classOf s _ _
    next => exact .noAttribute _ _
  next => exact .noAttribute _ _

open Running in
/-- The class that a run leaves declares what its source does. -/
theorem declares_of_ofRun {s : ClassSource} {c : LoadedClass} (h : ofRun s = .ok c) :
    c.Declares s := by
  unfold ofRun at h
  cases hread : Source.read s.text with
  | error e =>
    rw [hread] at h
    cases show Except.error _ = Except.ok c from h
  | ok statements =>
    rw [hread] at h
    replace h : (outcome (runClass s statements)).mapError _ = .ok c := h
    cases hout : outcome (runClass s statements) with
    | error e =>
      rw [hout] at h
      cases show Except.error _ = Except.ok c from h
    | ok made =>
      rw [hout] at h
      exact Except.ok.inj h ▸ (declares_of_runClass s statements).of_outcome hout

/-- So does the class of a plain source. -/
theorem declares_of_plainClass? {s : ClassSource} {c : LoadedClass}
    (h : s.plainClass? = some c) : c.Declares s := by
  unfold ClassSource.plainClass? at h
  obtain ⟨_, _, h⟩ := Option.bind_eq_some_iff.mp h
  obtain ⟨_, _, h⟩ := Option.bind_eq_some_iff.mp h
  obtain ⟨_, _, h⟩ := Option.bind_eq_some_iff.mp h
  obtain ⟨_, _, h⟩ := Option.bind_eq_some_iff.mp h
  exact Option.some.inj h ▸ ⟨rfl, rfl⟩

/-- **Whichever way a source is loaded**, its class declares the same. The bases, the columns and
the groups are those that a run leaves, or those that a plain source has. -/
theorem declares_of_load {s : ClassSource} {c : LoadedClass} (h : load s = .ok c) :
    c.Declares s := by
  unfold load at h
  cases hrender : s.render with
  | error e =>
    rw [hrender] at h
    cases show Except.error _ = Except.ok c from h
  | ok text =>
    cases hplain : s.plainClass? with
    | some plain =>
      rw [hrender, hplain] at h
      exact Except.ok.inj h ▸ declares_of_plainClass? hplain
    | none =>
      rw [hrender, hplain] at h
      exact declares_of_ofRun h

end RecordForge.LoadedClass
