import RecordForge.Running.Operator
import RecordForge.Running.Shown

/-!
# Collections and their items

How many items a collection has, which ones they are, and what stands at an index or under a key.
-/

namespace RecordForge.Running

/-- A text of one character. -/
def charDatum (c : Char) : Datum :=
  .text (String.ofList [c])

/-- The numbers of a range, as far as they are worked out. -/
def rangeItems (first last step : Int) : List Datum :=
  (List.range (min (rangeSize first last step) maxItems)).map fun (i : Nat) =>
    .int (first + step * i)

/-- The items of a value, if it is a collection whose items are there. Items that are given out one
by one are used up. -/
def itemsOf? (d : Datum) : Running (Option (List Datum)) := do
  match d with
  | .unknown => return some []
  | .text s => return some (s.toList.map charDatum)
  | .bytes codes => return some (codes.map fun code => .int code.toNat)
  | .tuple items => return some items
  | .range first last step => return some (rangeItems first last step)
  | .object place =>
    match ← thing place with
    | .list items | .set items _ => return some items
    | .dict entries => return some (entries.map Prod.fst)
    | .frame f => return some (f.names.map fun (name, _) => .text name)
    | .iterator kind rest =>
      replace place (.iterator kind [])
      return some rest
    | _ => return if ← isOpen d then some [] else none
  | _ => return none

/-- Raises the error about a value without items. -/
def notIterable {α : Type} (d : Datum) : Running α := do
  wrongType ("'" ++ (← kindOf d) ++ "' object is not iterable")

/-- The number of items of a value. -/
def sizeOf (d : Datum) : Running Nat := do
  let refuse : Running Nat := do
    wrongType ("object of type '" ++ (← kindOf d) ++ "' has no len()")
  match d with
  | .object place =>
    match ← thing place with
    | .iterator kind rest => if kind.startsWith "dict_" then return rest.length else refuse
    | .list _ | .set .. | .dict _ | .frame _ => return ((← itemsOf? d).getD []).length
    | _ => if ← isOpen d then return 0 else refuse
  | .text _ | .bytes _ | .tuple _ | .range .. | .unknown =>
    return ((← itemsOf? d).getD []).length
  | _ => refuse

/-! ## Indices -/

/-- The place of an index in a number of items; a negative one counts from the end. -/
def placeOf? (size : Nat) (i : Int) : Option Nat :=
  let i := if i < 0 then i + size else i
  if 0 ≤ i ∧ i < size then some i.toNat else none

/-- The bound of a slice; without one there is the given bound. -/
def sliceBound (size : Nat) (least : Int) (missing : Int) (d : Datum) : Running Int :=
  match d with
  | .none => return missing
  | d =>
    match integral? d with
    | some i =>
      let i := if i < 0 then i + size else i
      return max least (min i (least + size))
    | none => wrongType "slice indices must be integers or None or have an __index__ method"

/-- The places of a slice in a number of items. -/
def slicePlaces (size : Nat) (first last step : Datum) : Running (List Nat) := do
  let step ← match step with
    | .none => pure 1
    | step =>
      match integral? step with
      | some 0 => wrongValue "slice step cannot be zero"
      | some i => pure i
      | none => wrongType "slice indices must be integers or None or have an __index__ method"
  let least := if step < 0 then -1 else 0
  let first ← sliceBound size least (if step < 0 then size - 1 else 0) first
  let last ← sliceBound size least (if step < 0 then -1 else size) last
  return (List.range (rangeSize first last step)).map fun (i : Nat) => (first + step * i).toNat

/-- What an index asks for in a list of items. -/
def pick {α : Type} (items : List α) (outOfRange wrongIndex : String) (one : α → Running Datum)
    (several : List α → Running Datum) (index : Datum) : Running Datum :=
  match index with
  | .slice first last step => do
    several ((← slicePlaces items.length first last step).filterMap fun i => items[i]?)
  | index =>
    match integral? index with
    | some i =>
      match (placeOf? items.length i).bind (items[·]?) with
      | some x => one x
      | none => fail "IndexError" outOfRange
    | none => do wrongType (wrongIndex ++ (← kindOf index))

/-- The wording for an index that is no number, up to the type of the index. -/
def indicesText (kind : String) : String :=
  kind ++ " indices must be integers or slices, not "

/-- The types of the language that can be given types in brackets. -/
def genericTypes : List String :=
  words ("list tuple dict set frozenset type enumerate BaseExceptionGroup ExceptionGroup ClassVar "
    ++ "Iterable")

/-- What stands under an index or a key. -/
def itemAt (d index : Datum) : Running Datum := do
  let refuse : Running Datum := do
    wrongType ("'" ++ (← kindOf d) ++ "' object is not subscriptable")
  if index == .unknown then return .unknown
  match d with
  | .unknown => return .unknown
  | .text s =>
    match index with
    | .slice .. =>
      pick s.toList "" "" (fun c => return charDatum c) (fun cs => return .text (String.ofList cs))
        index
    | _ =>
      if (integral? index).isNone then
        wrongType ("string indices must be integers, not '" ++ (← kindOf index) ++ "'")
      pick s.toList "string index out of range" "" (fun c => return charDatum c)
        (fun _ => return .unknown) index
  | .bytes codes =>
    pick codes "index out of range" (indicesText "byte") (fun code => return .int code.toNat)
      (fun codes => return .bytes codes) index
  | .tuple items =>
    pick items "tuple index out of range" (indicesText "tuple") pure
      (fun items => return .tuple items) index
  | .range first last step =>
    pick (rangeItems first last step) "range object index out of range" (indicesText "range") pure
      (fun _ => return .unknown) index
  | .type name =>
    if name ∈ genericTypes then return .unknown
    wrongType ("type '" ++ name ++ "' is not subscriptable")
  | .object place =>
    match ← thing place with
    | .list items =>
      pick items "list index out of range" (indicesText "list") pure newList index
    | .dict entries =>
      checkKey index
      match ← keyed? entries index with
      | some value => return value
      | none => raise (.error "KeyError" [index])
    | .frame f =>
      checkKey index
      match index with
      | .text name =>
        match contentAt? f.names name with
        | some value => return value
        | none => raise (.error "KeyError" [index])
      | _ => raise (.error "KeyError" [index])
    | .type t =>
      if t.names.any (·.1 = "__class_getitem__") then return .unknown
      wrongType ("type '" ++ t.name ++ "' is not subscriptable")
    | _ => if ← isOpen d then return .unknown else refuse
  | _ => refuse

/-- Puts a value under an index or a key. -/
def setItem (d index value : Datum) : Running Unit := do
  let refuse : Running Unit := do
    wrongType ("'" ++ (← kindOf d) ++ "' object does not support item assignment")
  match d with
  | .unknown => pure ()
  | .object place =>
    match ← thing place with
    | .list items =>
      match index with
      | .slice first last step =>
        match ← itemsOf? value with
        | none => wrongType "can only assign an iterable"
        | some news =>
          let places ← slicePlaces items.length first last step
          if step == .none || step == .int 1 then
            let start := places.head?.getD
              (← sliceBound items.length 0 0 first).toNat
            replace place (.list (items.take start ++ news ++ items.drop (start + places.length)))
          else if places.length = news.length then
            replace place (.list ((places.zip news).foldl (fun items (i, x) => items.set i x) items))
          else
            wrongValue ("attempt to assign sequence of size " ++ toString news.length
              ++ " to extended slice of size " ++ toString places.length)
      | _ =>
        match integral? index with
        | none => wrongType (indicesText "list" ++ (← kindOf index))
        | some i =>
          match placeOf? items.length i with
          | some i => replace place (.list (items.set i value))
          | none => fail "IndexError" "list assignment index out of range"
    | .dict entries =>
      checkKey index
      replace place (.dict (← putKey index value entries))
    | .frame f =>
      checkKey index
      if let .text name := index then
        replace place (.frame { f with names := putEntry f.names name value })
    | _ => if ← isOpen d then pure () else refuse
  | _ => refuse

/-- Takes what stands under an index or a key away. -/
def deleteItem (d index : Datum) : Running Unit := do
  let refuse : Running Unit := do
    wrongType ("'" ++ (← kindOf d) ++ "' object doesn't support item deletion")
  match d with
  | .unknown => pure ()
  | .object place =>
    match ← thing place with
    | .list items =>
      match index with
      | .slice first last step =>
        let places ← slicePlaces items.length first last step
        let kept := (List.range items.length).filter (· ∉ places)
        replace place (.list (kept.filterMap (items[·]?)))
      | _ =>
        match integral? index with
        | none => wrongType (indicesText "list" ++ (← kindOf index))
        | some i =>
          match placeOf? items.length i with
          | some i => replace place (.list (items.eraseIdx i))
          | none => fail "IndexError" "list assignment index out of range"
    | .dict entries =>
      checkKey index
      if (← keyed? entries index).isNone then raise (.error "KeyError" [index])
      replace place (.dict (← entries.filterM fun (k, _) => do return !(← equal k index)))
    | .frame f =>
      match index with
      | .text name =>
        if (contentAt? f.names name).isNone then raise (.error "KeyError" [index])
        replace place (.frame { f with names := f.names.filter (·.1 ≠ name) })
      | _ => raise (.error "KeyError" [index])
    | _ => if ← isOpen d then pure () else refuse
  | _ => refuse

/-- Whether a list of characters occurs in another one. -/
def occursIn (part : List Char) : List Char → Bool
  | [] => part.isEmpty
  | c :: rest => part.isPrefixOf (c :: rest) || occursIn part rest

/-- Whether a value is in a collection. -/
def isIn (d collection : Datum) : Running Bool := do
  match collection with
  | .text s =>
    match d with
    | .text part => return occursIn part.toList s.toList
    | _ =>
      wrongType ("'in <string>' requires string as left operand, not " ++ (← kindOf d))
  | .object place =>
    match ← thing place with
    | .set .. | .dict _ | .frame _ => checkKey d
    | _ => pure ()
    match ← itemsOf? collection with
    | some items => isAmong items d
    | none => wrongType ("argument of type '" ++ (← kindOf collection) ++ "' is not iterable")
  | .unknown => return true
  | _ =>
    match ← itemsOf? collection with
    | some items => isAmong items d
    | none => wrongType ("argument of type '" ++ (← kindOf collection) ++ "' is not iterable")

end RecordForge.Running
