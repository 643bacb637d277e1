import RecordForge.Text.Cut
import RecordForge.Text.NormalFormTables

/-!
# The normal form of identifiers

Two spellings of an identifier are one name if their compatibility normal forms agree: every
character is taken apart as far as it goes, the marks behind a letter are put in the order of their
combining classes, and what composes to one character is composed again. An identifier of ASCII
characters is its own normal form.
-/

namespace RecordForge.Text

/-! ## Tables -/

/-- What a character stands for, if it stands for others. -/
def replacement? (c : Char) : Option (List Char) :=
  match replacedRuns.find? fun (first, last, _) => first ≤ c.toNat && c.toNat ≤ last with
  | some (first, _, lines) => (lines.flatMap fun line => cutAt ' ' line.toList)[c.toNat - first]?
  | none => none

/-- The combining class of a character. -/
def combiningClass (c : Char) : Nat :=
  match combiningClasses.find? fun (lo, hi, _) => lo ≤ c.toNat && c.toNat ≤ hi with
  | some (_, _, k) => k
  | none => 0

/-! ## Syllables

A Hangul syllable is made of a leading consonant, a vowel and perhaps a trailing consonant, and its
code point counts the combinations. -/

/-- Taking a syllable apart. -/
def syllableParts (c : Char) : Option (List Char) :=
  let n := c.toNat
  if 0xac00 ≤ n ∧ n ≤ 0xd7a3 then
    let s := n - 0xac00
    let lead := Char.ofNat (0x1100 + s / 588)
    let vowel := Char.ofNat (0x1161 + s % 588 / 28)
    some (lead :: vowel :: if s % 28 = 0 then [] else [Char.ofNat (0x11a7 + s % 28)])
  else none

/-- The syllable that two characters compose to. -/
def composeSyllable (a b : Char) : Option Char :=
  let m := a.toNat
  let n := b.toNat
  if 0x1100 ≤ m ∧ m ≤ 0x1112 ∧ 0x1161 ≤ n ∧ n ≤ 0x1175 then
    some (Char.ofNat (0xac00 + (m - 0x1100) * 588 + (n - 0x1161) * 28))
  else if 0xac00 ≤ m ∧ m ≤ 0xd7a3 ∧ (m - 0xac00) % 28 = 0 ∧ 0x11a8 ≤ n ∧ n ≤ 0x11c2 then
    some (Char.ofNat (m + (n - 0x11a7)))
  else none

/-! ## The three steps -/

/-- One step of taking a character apart. -/
def expansion? (c : Char) : Option (List Char) :=
  match (composedCodes ++ dividedCodes).find? fun (n, _, _) => n = c.toNat with
  | some (_, a, b) => some [Char.ofNat a, Char.ofNat b]
  | none => (replacement? c).or (syllableParts c)

/-- Takes a character apart in at most the given number of steps. -/
def decompose : Nat → Char → List Char
  | 0, c => [c]
  | steps + 1, c =>
    if c.toNat < 0x80 then [c]
    else match expansion? c with
      | some parts => parts.flatMap (decompose steps)
      | none => [c]

/-- More steps than taking any character apart needs. -/
def decompositionSteps : Nat := 8

/-- Puts a character before ordered ones: it passes the marks of a lower class. -/
def placeMark (c : Char) : List Char → List Char
  | [] => [c]
  | d :: rest =>
    if 0 < combiningClass d ∧ combiningClass d < combiningClass c then d :: placeMark c rest
    else c :: d :: rest

/-- Puts the marks behind every letter in the order of their classes. -/
def orderMarks (cs : List Char) : List Char :=
  cs.foldr placeMark []

/-- The character that two compose to. -/
def composePair (a b : Char) : Option Char :=
  match composedCodes.find? fun (_, m, n) => m = a.toNat && n = b.toNat with
  | some (c, _) => some (Char.ofNat c)
  | none => composeSyllable a b

/-- Composes the rest of a text with a letter. The marks that the letter could not take stand
between the two, the nearest first: they block what is of no higher class than the nearest one. -/
def composeFrom (letter : Char) (marks : List Char) : List Char → List Char
  | [] => letter :: marks.reverse
  | d :: rest =>
    let blocked := match marks with
      | [] => false
      | m :: _ => combiningClass d ≤ combiningClass m
    match if blocked then none else composePair letter d with
    | some c => composeFrom c marks rest
    | none =>
      if combiningClass d = 0 then letter :: marks.reverse ++ composeFrom d [] rest
      else composeFrom letter (d :: marks) rest

/-- Composes what composes. -/
def composeAll : List Char → List Char
  | [] => []
  | c :: rest => composeFrom c [] rest

/-- Whether all characters are of the ASCII range. -/
def isAscii (cs : List Char) : Bool :=
  cs.all fun c => c.toNat < 0x80

/-- The normal form of an identifier. -/
def normalForm (s : String) : String :=
  if isAscii s.toList then s
  else String.ofList
    (composeAll (orderMarks (s.toList.flatMap (decompose decompositionSteps))))

/-- An ASCII identifier is its own normal form. -/
theorem normalForm_of_isAscii {s : String} (h : isAscii s.toList = true) : normalForm s = s := by
  simp [normalForm, h]

end RecordForge.Text
