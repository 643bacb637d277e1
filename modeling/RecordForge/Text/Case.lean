import RecordForge.Text.CaseTables

/-!
# Letter case

Full case conversion: a character may become several, and a capital sigma becomes a final sigma at
the end of a word. Upper-casing looks at one character at a time, lower-casing at the neighbours of
a sigma only.
-/

namespace RecordForge.Text

/-- Where the run moves `n`, if `n` belongs to it. -/
def CaseRun.image? (r : CaseRun) (n : Nat) : Option Nat :=
  if r.first ≤ n ∧ n ≤ r.last ∧ (n - r.first) % r.step = 0 then
    some ((n : Int) + r.shift).toNat
  else
    none

/-- The image of a character under a mapping given by runs and expansions. -/
def caseImage (runs : List CaseRun) (expansions : List (Nat × List Nat)) (c : Char) : List Char :=
  match runs.findSome? (·.image? c.toNat) with
  | some n => [Char.ofNat n]
  | none =>
    match expansions.lookup c.toNat with
    | some ns => ns.map Char.ofNat
    | none => [c]

/-- The upper case of a character. -/
def upperChar (c : Char) : List Char :=
  caseImage upperRuns upperExpansions c

/-- The lower case of a character, whatever its neighbours. -/
def lowerChar (c : Char) : List Char :=
  caseImage lowerRuns lowerExpansions c

/-- The upper case of a text. -/
def upper (cs : List Char) : List Char :=
  cs.flatMap upperChar

/-- Whether the first character that counts for case is a cased one. -/
def meetsCased (cs : List Char) : Bool :=
  match cs.dropWhile caseIgnorable.contains with
  | [] => false
  | c :: _ => cased.contains c

/-- Lower-cases a text that follows `before`, which is given last character first. -/
def lowerAfter (before : List Char) : List Char → List Char
  | [] => []
  | c :: rest =>
    (if c = 'Σ' then [if meetsCased before && !meetsCased rest then 'ς' else 'σ'] else lowerChar c)
      ++ lowerAfter (c :: before) rest

/-- The lower case of a text. -/
def lower (cs : List Char) : List Char :=
  lowerAfter [] cs

@[simp] theorem upper_nil : upper [] = [] := rfl

@[simp] theorem upper_cons (c : Char) (cs : List Char) :
    upper (c :: cs) = upperChar c ++ upper cs := by
  simp [upper]

@[simp] theorem lower_nil : lower [] = [] := rfl

end RecordForge.Text
