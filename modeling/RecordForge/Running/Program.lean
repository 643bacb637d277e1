import RecordForge.Running.Statement
import RecordForge.Source.Check

/-!
# Running a source

Every step into an expression or a statement goes one level deeper; a source that goes deeper than a
run allows ends with an error, as does one whose functions call each other without end.
-/

namespace RecordForge.Running

open Source

/-- Runs a text, or works out the value that it stands for. -/
def textAt (go : Deeper) (s : Site) (asValue : Bool) (text : String) : Running Datum := do
  match Source.read (text ++ "\n") with
  | .error e => fail e.kind (e.messageIn "string")
  | .ok statements =>
    if asValue then
      match statements with
      | [.mk _ (.expr e)] => go.expr s e
      | _ => fail "SyntaxError" "invalid syntax (<string>, line 1)"
    else
      statements.forM (go.stmt s)
      return .none

/-- The error of a run that goes too deep. -/
def tooDeep {α : Type} : Running α :=
  fail "RecursionError" "maximum recursion depth exceeded"

/-- What a run can do to a depth. -/
def toDepth : Nat → Deeper
  | 0 =>
    { expr := fun _ _ => tooDeep, stmt := fun _ _ => tooDeep, call := fun _ _ _ _ => tooDeep
      assign := fun _ _ _ => tooDeep, delete := fun _ _ => tooDeep, items? := fun _ _ => tooDeep
      fits := fun _ _ _ => tooDeep, text := fun _ _ _ => tooDeep }
  | n + 1 =>
    { expr := fun s e => exprAt (toDepth n) s e
      stmt := fun s e => stmtAt (toDepth n) s e
      call := fun s f arguments keywords => call (toDepth n) s f arguments keywords
      assign := fun s e d => assignAt (toDepth n) s e d
      delete := fun s e => deleteAt (toDepth n) s e
      items? := fun s d => itemsAt? (toDepth n) s d
      fits := fun s d p => fitsAt (toDepth n) s d p
      text := fun s asValue text => textAt (toDepth n) s asValue text }

/-- What a source knows of the place that it is run at. -/
def sourceSite : Site :=
  { frames := [0] }

/-- Runs the statements of a source, which come first in a world: what they bind. -/
def bindings (statements : List Stmt) : Running (List (String × Datum)) := do
  let _ ← place (.frame { names := [(builtinsName, .unknown)] })
  statements.forM ((toDepth maxDepth).stmt sourceSite)
  return (← frame 0).names

/-- The kind and the wording of an error. A type of errors can have a wording of its own. -/
def describe (e : Datum) : Running (String × String) := do
  let kind ← kindOf e
  let own ← match e with
    | .object place => do
      match ← thing place with
      | .made type _ _ =>
        match ← inChain? "__str__" (← chainOf type) with
        | some (.object _, f) => pure (some (← onObject e type f))
        | _ => pure none
      | _ => pure none
    | _ => pure none
  match own with
  | some f =>
    match ← (toDepth maxDepth).call sourceSite f [] [] with
    | .text s => return (kind, s)
    | _ => return (kind, ← plain e)
  | none => return (kind, ← plain e)

/-- The error that a computation ends with, if it ends with one. -/
def errorOf? {α : Type} (run : Running α) : Running (Option (String × String)) := do
  let raised ← try
      let _ ← run
      pure none
    catch stop =>
      match stop with
      | .raised e => pure (some e)
      | stop => throw stop
  raised.mapM describe

/-- What a computation gives in a world of its own, or the kind and the wording of its error. -/
def outcome {α : Type} (run : Running α) : Except (String × String) α :=
  match run.run {} with
  | (.ok a, _) => .ok a
  | (.error (.raised e), world) =>
    match (describe e).run world with
    | (.ok told, _) => .error told
    | (.error _, _) => .error ("SystemError", "")
  | (.error _, _) => .error ("SystemError", "")

/-! ## What computations give -/

/-- Whatever a computation gives has a property. -/
def Yields {α : Type} (P : α → Prop) (run : Running α) : Prop :=
  ∀ world a, (run.run world).1 = .ok a → P a

namespace Yields

variable {α β : Type} {P : α → Prop} {Q : β → Prop}

theorem pure {a : α} (h : P a) : Yields P (Pure.pure a) := by
  rintro world _ ⟨⟩
  exact h

theorem throw (stop : Stop) : Yields P (throwThe Stop stop) := by
  rintro world a ⟨⟩

theorem bind {first : Running α} {next : α → Running β} (h : ∀ a, Yields Q (next a)) :
    Yields Q (first >>= next) := by
  intro world b hb
  change (ExceptT.bindCont next (first.run world).1 (first.run world).2).1 = .ok b at hb
  cases hfirst : (first.run world).1 with
  | error stop =>
    rw [hfirst] at hb
    exact nomatch hb
  | ok a =>
    rw [hfirst] at hb
    exact h a _ _ hb

theorem noAttribute (d : Datum) (name : String) : Yields P (Running.noAttribute d name) := by
  unfold Running.noAttribute
  split
  next => exact .bind fun owner => .throw _
  next =>
    refine .bind fun isType => ?_
    split <;> exact .bind fun shown => .bind fun owner => .throw _

theorem of_outcome {run : Running α} {a : α} (h : Yields P run) (hout : outcome run = .ok a) :
    P a := by
  unfold outcome at hout
  split at hout
  next hrun => exact Except.ok.inj hout ▸ h _ _ (by rw [hrun])
  next => split at hout <;> exact nomatch hout
  next => exact nomatch hout

end Yields

end RecordForge.Running
