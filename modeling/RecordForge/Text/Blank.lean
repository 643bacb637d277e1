import RecordForge.Text.CodeSet

/-!
# Blanks

Two classes of white space. Words such as `true` may be surrounded by any blank; a numeral by the
same ones except the four information separators U+001C to U+001F. `strip` and its lemmas are stated
for any class.
-/

namespace RecordForge.Text

/-- White space: the ASCII controls and space, and the Unicode spaces and separators. -/
def blanks : CodeSet := ⟨[
  (0x9, 0xd), (0x1c, 0x20), (0x85, 0x85), (0xa0, 0xa0), (0x1680, 0x1680), (0x2000, 0x200a),
  (0x2028, 0x2029), (0x202f, 0x202f), (0x205f, 0x205f), (0x3000, 0x3000)]⟩

/-- Whether the character is white space. -/
def isBlank (c : Char) : Bool :=
  blanks.contains c

/-- Whether the character may surround a numeral. -/
def isNumeralBlank (c : Char) : Bool :=
  isBlank c && !(0x1c ≤ c.toNat && c.toNat ≤ 0x1f)

/-- Removes the characters of a class from the end. -/
def stripEnd (p : Char → Bool) (cs : List Char) : List Char :=
  (cs.reverse.dropWhile p).reverse

/-- Removes the characters of a class from both ends. -/
def strip (p : Char → Bool) (cs : List Char) : List Char :=
  stripEnd p (cs.dropWhile p)

variable {p : Char → Bool} {cs before after : List Char}

/-- Stripping takes characters of the class from both ends. -/
theorem exists_strip (p : Char → Bool) (cs : List Char) :
    ∃ before after, cs = before ++ (strip p cs ++ after)
      ∧ (∀ c ∈ before, p c = true) ∧ ∀ c ∈ after, p c = true := by
  have htaken : ∀ l : List Char, ∀ c ∈ l.takeWhile p, p c = true := fun l =>
    List.all_eq_true.mp List.all_takeWhile
  refine ⟨cs.takeWhile p, ((cs.dropWhile p).reverse.takeWhile p).reverse, ?_, htaken cs, ?_⟩
  · rw [strip, stripEnd, ← List.reverse_append, List.takeWhile_append_dropWhile,
      List.reverse_reverse, List.takeWhile_append_dropWhile]
  · exact fun c hc => htaken _ c (List.mem_reverse.mp hc)

/-- What is of the class in front of a text is dropped, up to a first character outside it. -/
theorem dropWhile_append {rest : List Char} (hbefore : ∀ c ∈ before, p c = true)
    (hfirst : ∀ c ∈ rest.head?, p c = false) : (before ++ rest).dropWhile p = rest := by
  rw [List.dropWhile_append_of_pos hbefore]
  cases rest with
  | nil => rfl
  | cons c rest => exact List.dropWhile_cons_of_neg (by simp [hfirst c rfl])

/-- Stripping takes all of the class that is around a text whose first and last characters are
outside it. -/
theorem strip_append (hbefore : ∀ c ∈ before, p c = true) (hfirst : ∀ c ∈ cs.head?, p c = false)
    (hlast : ∀ c ∈ cs.getLast?, p c = false) (hafter : ∀ c ∈ after, p c = true) :
    strip p (before ++ (cs ++ after)) = cs := by
  cases cs with
  | nil =>
    have haround := dropWhile_append (List.forall_mem_append.mpr ⟨hbefore, hafter⟩) hfirst
    rw [List.append_nil] at haround
    rw [List.nil_append, strip, haround]
    rfl
  | cons c cs =>
    have hstart : (before ++ (c :: cs ++ after)).dropWhile p = c :: cs ++ after :=
      dropWhile_append hbefore hfirst
    rw [strip, hstart, stripEnd, List.reverse_append,
      dropWhile_append (fun c hc => hafter c (List.mem_reverse.mp hc)) (by rwa [List.head?_reverse]),
      List.reverse_reverse]

end RecordForge.Text
