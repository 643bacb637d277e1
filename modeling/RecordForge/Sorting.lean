/-!
# Sorting with a comparison that may fail

A stable sort by a comparison `less` that may refuse a pair of items. A refusal ends the sort, so
the order in which items are compared shows. Neighbours are compared first, along the run that the
items begin with; a run that descends is turned round. Each later item is then placed by halving the
part that is sorted already.
-/

namespace RecordForge.Sorting

variable {α ε : Type}

/-- Splits off the items that go on with a run, given the last item of the run so far: each is below
the one before it if the run descends, and not below it otherwise. -/
def takeRun (less : α → α → Except ε Bool) (descending : Bool) (last : α) :
    List α → Except ε (List α × List α)
  | [] => .ok ([], [])
  | x :: rest => do
    if (← less x last) = descending then
      let (run, rest) ← takeRun less descending x rest
      return (x :: run, rest)
    else return ([], x :: rest)

/-- Splits off the run that the items begin with, in ascending order. -/
def firstRun (less : α → α → Except ε Bool) : List α → Except ε (List α × List α)
  | x :: y :: rest => do
    let descending ← less y x
    let (run, rest) ← takeRun less descending y rest
    let run := x :: y :: run
    return (if descending then run.reverse else run, rest)
  | xs => .ok (xs, [])

/-- Places an item behind all sorted items that it is not below, by comparing it with the middle
one. -/
def place (less : α → α → Except ε Bool) (x : α) (sorted : List α) : Except ε (List α) :=
  match h : sorted.drop (sorted.length / 2) with
  | [] => .ok [x]
  | y :: after => do
    if ← less x y then
      return (← place less x (sorted.take (sorted.length / 2))) ++ y :: after
    else
      return sorted.take (sorted.length / 2) ++ y :: (← place less x after)
termination_by sorted.length
decreasing_by
  all_goals
    have := congrArg List.length h
    simp at this ⊢
    omega

/-- The items in ascending order. -/
def sort (less : α → α → Except ε Bool) (xs : List α) : Except ε (List α) := do
  let (run, rest) ← firstRun less xs
  rest.foldlM (fun sorted x => place less x sorted) run

end RecordForge.Sorting
