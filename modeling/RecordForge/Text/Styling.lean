/-!
# Terminal styling

Text for a terminal may hold sequences that change its style: an escape character, an opening
bracket, parameters made of digits, semicolons and question marks, and an ASCII letter. `unstyled`
removes them, from the front on; what stands around a removed sequence is not looked at again.
-/

namespace RecordForge.Text

/-- Whether the character belongs to the parameters of a sequence. -/
def isStylingParameter (c : Char) : Bool :=
  c.isDigit || c = ';' || c = '?'

/-- What follows the sequence that the text begins with, if it begins with one. -/
def afterStyling? : List Char → Option (List Char)
  | '\x1b' :: '[' :: rest =>
    match rest.dropWhile isStylingParameter with
    | [] => none
    | c :: after => if c.isAlpha then some after else none
  | _ => none

theorem length_dropWhile_le {α : Type} (p : α → Bool) (xs : List α) :
    (xs.dropWhile p).length ≤ xs.length := by
  induction xs with
  | nil => simp
  | cons x rest ih =>
    rw [List.dropWhile_cons]
    split
    · exact Nat.le_trans ih (Nat.le_succ _)
    · exact Nat.le_refl _

/-- A sequence is not empty. -/
theorem length_lt_of_afterStyling? {cs after : List Char} (h : afterStyling? cs = some after) :
    after.length < cs.length := by
  unfold afterStyling? at h
  split at h
  next rest =>
    have hle := length_dropWhile_le isStylingParameter rest
    split at h
    · simp at h
    next c _ hd =>
      split at h
      · obtain rfl := Option.some.inj h
        simp [hd] at hle
        simp
        omega
      · simp at h
  · simp at h

/-- The text without its styling sequences. -/
def unstyled (cs : List Char) : List Char :=
  match cs with
  | [] => []
  | c :: rest =>
    match h : afterStyling? (c :: rest) with
    | some after => unstyled after
    | none => c :: unstyled rest
termination_by cs.length
decreasing_by
  · exact length_lt_of_afterStyling? h
  · simp

end RecordForge.Text
