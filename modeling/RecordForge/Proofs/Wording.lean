import RecordForge.Diagnostic

/-!
# Messages in parts

A format is made of literal texts and directives. When every directive meets a value of its kind,
the message reads part by part: each literal as it is, each value as its directive writes it
(`format_parts`). So the text of a report is known from the parts of its format alone, whatever the
values are, as long as they have a text.
-/

namespace RecordForge

namespace Message

/-- A part of a message: a literal text, or a value under the directive that it stands under. -/
inductive Part where
  | literal (text : String)
  | plain (v : Value)
  | shown (v : Value)
  | integer (n : Int)

namespace Part

/-- How the part is written in a format. -/
def written : Part → List Char
  | literal text => text.toList
  | plain _ => ['%', 's']
  | shown _ => ['%', 'r']
  | integer _ => ['%', 'd']

/-- The value that the part takes. -/
def value? : Part → Option Value
  | literal _ => none
  | plain v => some v
  | shown v => some v
  | integer n => some (.int n)

/-- How the part reads. -/
def reading : Part → String
  | literal text => text
  | plain v => v.plain
  | shown v => v.shown
  | integer n => toString n

/-- Whether the part begins no directive of its own. -/
def isUnmarked : Part → Bool
  | literal text => !text.toList.contains '%'
  | _ => true

end Part

/-- How parts read one after the other. -/
def readings : List Part → String
  | [] => ""
  | p :: rest => p.reading ++ readings rest

/-! ## Formatting part by part -/

/-- The pieces that the part is read as; its directive stands at `position`. -/
def Part.pieces (position : Nat) : Part → List Piece
  | literal text => text.toList.map .literal
  | plain _ => [.value 's' (position + 1)]
  | shown _ => [.value 'r' (position + 1)]
  | integer _ => [.value 'd' (position + 1)]

/-- A text without percent signs is read as it is. -/
theorem piecesFrom_append {cs : List Char} (h : '%' ∉ cs) (rest : List Char) :
    ∀ position, piecesFrom position .text (cs ++ rest)
      = cs.map .literal ++ piecesFrom (position + cs.length) .text rest := by
  induction cs with
  | nil => exact fun _ => rfl
  | cons c cs ih =>
    intro position
    rw [List.mem_cons, not_or] at h
    rw [List.cons_append, piecesFrom, if_neg (Ne.symm h.1), ih h.2, List.length_cons,
      Nat.add_assoc, Nat.add_comm 1]
    rfl

/-- A part is read as its pieces. -/
theorem piecesFrom_part {p : Part} (hp : p.isUnmarked = true) (position : Nat) (rest : List Char) :
    ∃ position', piecesFrom position .text (p.written ++ rest)
      = p.pieces position ++ piecesFrom position' .text rest := by
  cases p with
  | literal text =>
    have hmark : '%' ∉ text.toList := by simpa [Part.isUnmarked] using hp
    exact ⟨_, piecesFrom_append hmark rest position⟩
  | plain v => exact ⟨position + 2, rfl⟩
  | shown v => exact ⟨position + 2, rfl⟩
  | integer n => exact ⟨position + 2, rfl⟩

/-- Characters that stand for themselves come before what the rest is filled to. -/
theorem fill_literals (cs : List Char) (rest : List Piece) (ops : Operands) :
    fill (cs.map .literal ++ rest) ops = (fill rest ops).map (String.ofList cs ++ ·) := by
  induction cs with
  | nil =>
    rw [List.map_nil, List.nil_append]
    cases fill rest ops <;> simp [Except.map]
  | cons c cs ih =>
    have hjoin : String.ofList (c :: cs) = String.ofList [c] ++ String.ofList cs := by
      rw [← String.ofList_append, List.singleton_append]
    rw [List.map_cons, List.cons_append, fill, ih, hjoin]
    cases fill rest ops with
    | error e => rfl
    | ok text => exact congrArg Except.ok (String.append_assoc ..).symm

/-- A directive that writes a value's text comes before what the rest is filled to; the message has a
text if all its values have one. -/
theorem fill_written {letter : Char} {position : Nat} {rest : List Piece} {v : Value}
    {vs : List Value} {piece text : String} {writable : Bool}
    (hpiece : directiveText letter position v = written v piece)
    (hrest : fill rest (.values vs) = if writable then .ok text else .error .unwritable) :
    fill (.value letter position :: rest) (.values (v :: vs))
      = if v.isWritable && writable then .ok (piece ++ text) else .error .unwritable := by
  have hfill : fill (.value letter position :: rest) (.values (v :: vs)) = (do
      let piece ← directiveText letter position v
      return piece ++ (← fill rest (.values vs))) := rfl
  rw [hfill, hpiece, hrest, written]
  cases v.isWritable <;> cases writable <;> rfl

/-- The pieces of parts are filled part by part, given that all values have a text. -/
theorem fill_parts {parts : List Part} :
    ∀ {position : Nat}, (∀ p ∈ parts, p.isUnmarked = true) →
      fill (piecesFrom position .text (parts.flatMap Part.written))
          (.values (parts.filterMap Part.value?))
        = if (parts.filterMap Part.value?).all Value.isWritable then .ok (readings parts)
          else .error .unwritable := by
  induction parts with
  | nil => exact fun _ => rfl
  | cons p parts ih =>
    intro position hparts
    rw [List.forall_mem_cons] at hparts
    obtain ⟨hp, hrest⟩ := hparts
    obtain ⟨position', hpieces⟩ := piecesFrom_part hp position (parts.flatMap Part.written)
    rw [List.flatMap_cons, readings, hpieces]
    cases p with
    | literal text =>
      rw [List.filterMap_cons_none rfl, Part.pieces, fill_literals, ih hrest, Part.reading,
        String.ofList_toList]
      split <;> rfl
    | plain v => exact fill_written rfl (ih hrest)
    | shown v => exact fill_written rfl (ih hrest)
    | integer n => exact fill_written rfl (ih hrest)

/-- **A message reads part by part**, given that it takes a value and that its values have a
text. -/
theorem format_parts {fmt text : String} {values : List Value} (parts : List Part)
    (hwritten : fmt = String.ofList (parts.flatMap Part.written))
    (hvalues : values = parts.filterMap Part.value?) (hne : values.isEmpty = false)
    (hparts : parts.all Part.isUnmarked = true) (htext : readings parts = text) :
    format fmt values
      = if values.all Value.isWritable then .ok text else .error .unwritable := by
  rw [format, hne, hwritten, hvalues, pieces, String.toList_ofList, ← htext]
  exact fill_parts (List.all_eq_true.mp hparts)

/-- The message of values all of which have a text. -/
theorem format_parts_of_writable {fmt text : String} {values : List Value} (parts : List Part)
    (hwritten : fmt = String.ofList (parts.flatMap Part.written))
    (hvalues : values = parts.filterMap Part.value?) (hne : values.isEmpty = false)
    (hparts : parts.all Part.isUnmarked = true) (hwritable : values.all Value.isWritable = true)
    (htext : readings parts = text) : format fmt values = .ok text := by
  rw [format_parts parts hwritten hvalues hne hparts htext, if_pos hwritable]

end Message

end RecordForge
