import Mathlib.Algebra.Group.Nat.Defs
import Mathlib.Data.List.Forall2
import RecordForge.Source.Spelling
import RecordForge.Text.DocString

/-!
# Characters between quotes

What a character may be written as between quotes: itself, unless it is a backslash, an escape of
one letter, or an escape by its code point (`Spelled`). Whatever writes every character in one of
these ways is read back to the characters it was made of (`textOf_spells`); quoted text and
documentation strings both do, although they escape different characters
(`spelled_quotedChar`, `spelled_docChar`).
-/

namespace RecordForge.Source

open RecordForge.Text

/-- The marks that a text can stand between. -/
def IsQuote (q : Char) : Prop :=
  q = singleQuote ∨ q = doubleQuote

/-- The ways to write a character between quotes. -/
inductive Spelled : List Char → Char → Prop
  | plain {c : Char} (h : c ≠ backslash) : Spelled [c] c
  | letter {e c : Char} (h : (e, c) ∈ letterEscapes) : Spelled [backslash, e] c
  | code {x : Char} {width : Nat} {c : Char} (h : (x, width) ∈ codeEscapes)
      (hc : c.toNat < 16 ^ width) : Spelled (backslash :: x :: hexDigits width c.toNat) c

/-- Chunks that write the characters of a text, one after the other. -/
abbrev Spells (chunks : List (List Char)) (text : List Char) : Prop :=
  List.Forall₂ Spelled chunks text

theorem Spelled.ne_nil {chunk : List Char} {c : Char} (h : Spelled chunk c) : chunk ≠ [] := by
  cases h <;> simp

/-! ## Marks and digits -/

namespace IsQuote

variable {q : Char}

theorem ne_backslash (hq : IsQuote q) : q ≠ backslash := by
  rcases hq with rfl | rfl <;> decide

theorem ne_lineFeed (hq : IsQuote q) : q ≠ '\n' := by
  rcases hq with rfl | rfl <;> decide

theorem ne_return (hq : IsQuote q) : q ≠ '\r' := by
  rcases hq with rfl | rfl <;> decide

end IsQuote

/-- A digit is none of the characters that mean something between quotes. -/
theorem hexDigit_plain (n : Nat) : hexDigit n ≠ backslash ∧ ¬ IsQuote (hexDigit n)
    ∧ hexDigit n ≠ '\n' ∧ hexDigit n ≠ '\r' := by
  have hall : ∀ m < 16, Nat.digitChar m ≠ backslash
      ∧ ¬ (Nat.digitChar m = singleQuote ∨ Nat.digitChar m = doubleQuote)
      ∧ Nat.digitChar m ≠ '\n' ∧ Nat.digitChar m ≠ '\r' := by decide
  exact hall (n % 16) (Nat.mod_lt n (by omega))

theorem mem_hexDigits {d : Char} {width n : Nat} (h : d ∈ hexDigits width n) :
    ∃ m, d = hexDigit m := by
  induction width generalizing n with
  | zero => exact absurd h (by simp [hexDigits])
  | succ width ih =>
    rcases List.mem_append.mp h with hfront | hlast
    · exact ih hfront
    · exact ⟨n, List.mem_singleton.mp hlast⟩

theorem hexValue?_hexDigit (n : Nat) : hexValue? (hexDigit n) = some (n % 16) := by
  have hall : ∀ m < 16, hexValue? (Nat.digitChar m) = some m := by decide
  exact hall (n % 16) (Nat.mod_lt n (by omega))

/-- Reading the digits of a number adds the number to what was read before. -/
theorem readDigits_hexDigits (width : Nat) :
    ∀ (n count value : Nat) (rest : List Char),
      readDigits 16 (width + count) value (hexDigits width n ++ rest)
        = readDigits 16 count (16 ^ width * value + n % 16 ^ width) rest := by
  induction width with
  | zero => simp [hexDigits, Nat.mod_one]
  | succ width ih =>
    intro n count value rest
    have hlt : n % 16 < 16 := Nat.mod_lt n (by omega)
    have hvalue : 16 * (16 ^ width * value + n / 16 % 16 ^ width) + n % 16
        = 16 ^ (width + 1) * value + n % 16 ^ (width + 1) := by
      rw [Nat.pow_succ, Nat.mul_comm (16 ^ width) 16, Nat.mod_mul, Nat.mul_assoc]
      omega
    rw [hexDigits, List.append_assoc, show width + 1 + count = width + (count + 1) by omega, ih,
      List.singleton_append, readDigits, hexValue?_hexDigit]
    simp only [if_pos hlt, hvalue]

/-! ## Reading escapes -/

theorem charOf_toNat (c : Char) : charOf c.toNat = c := by
  have hvalid : c.toNat.isValidChar := c.valid
  rw [charOf, charOf?, dif_pos hvalid]
  rfl

theorem readEscapes_plain {c : Char} (h : c ≠ backslash) (fuel position : Nat)
    (rest : List Char) :
    readEscapes (fuel + 1) position (c :: rest)
      = (readEscapes fuel (position + escapedWidth c) rest).map (c :: ·) := by
  rw [readEscapes]
  exact fun d rest' heq _ => h heq

theorem readEscapes_letter {e c : Char} (h : (e, c) ∈ letterEscapes) (fuel position : Nat)
    (rest : List Char) :
    readEscapes (fuel + 1) position (backslash :: e :: rest)
      = (readEscapes fuel (position + 2) rest).map (c :: ·) := by
  have hall : ∀ p ∈ letterEscapes, p.1 ≠ '\n' ∧ letterEscapes.lookup p.1 = some p.2 := by decide
  obtain ⟨hline, hlookup⟩ := hall (e, c) h
  rw [backslash, readEscapes, if_neg hline, hlookup]

theorem readEscapes_code {x : Char} {width : Nat} {c : Char} (h : (x, width) ∈ codeEscapes)
    (hc : c.toNat < 16 ^ width) (fuel position : Nat) (rest : List Char) :
    readEscapes (fuel + 1) position (backslash :: x :: (hexDigits width c.toNat ++ rest))
      = (readEscapes fuel (position + 1 + width + 1) rest).map (c :: ·) := by
  have hall : ∀ p ∈ codeEscapes, p.1 ≠ '\n' ∧ letterEscapes.lookup p.1 = none
      ∧ codeEscapes.lookup p.1 = some p.2 := by decide
  obtain ⟨hline, hletter, hlookup⟩ := hall (x, width) h
  have hdigits := readDigits_hexDigits width c.toNat 0 0 rest
  rw [Nat.add_zero, Nat.mul_zero, Nat.zero_add, Nat.mod_eq_of_lt hc, readDigits] at hdigits
  have hscalar : ¬ 0x10ffff < c.toNat := by
    have hvalid : c.toNat.isValidChar := c.valid
    rcases hvalid with h | h <;> omega
  rw [backslash, readEscapes, if_neg hline, hletter]
  simp [hlookup, readEscapes.code, hdigits, hscalar, charOf_toNat]

/-- A written character takes one step to read. -/
theorem readEscapes_spelled {chunk : List Char} {c : Char} (h : Spelled chunk c)
    (fuel position : Nat) (rest : List Char) : ∃ position',
    readEscapes (fuel + 1) position (chunk ++ rest)
      = (readEscapes fuel position' rest).map (c :: ·) := by
  cases h with
  | plain h => exact ⟨_, readEscapes_plain h fuel position rest⟩
  | letter h => exact ⟨_, readEscapes_letter h fuel position rest⟩
  | code h hc => exact ⟨_, readEscapes_code h hc fuel position rest⟩

theorem readEscapes_spells {chunks : List (List Char)} {text : List Char}
    (h : Spells chunks text) :
    ∀ {fuel : Nat} (position : Nat), text.length ≤ fuel →
      readEscapes fuel position chunks.flatten = .ok text := by
  induction h with
  | nil =>
    intro fuel position _
    cases fuel <;> simp [readEscapes]
  | @cons chunk c chunks text hc _ ih =>
    intro fuel position hfuel
    obtain ⟨fuel, rfl⟩ : ∃ n, fuel = n + 1 := ⟨fuel - 1, by simp at hfuel; omega⟩
    obtain ⟨position', hstep⟩ := readEscapes_spelled hc fuel position chunks.flatten
    rw [List.flatten_cons, hstep, ih position' (by simpa using hfuel)]
    rfl

theorem length_le_of_spells {chunks : List (List Char)} {text : List Char}
    (h : Spells chunks text) : text.length ≤ chunks.flatten.length := by
  induction h with
  | nil => exact Nat.le_refl _
  | cons hc _ ih =>
    rw [List.flatten_cons, List.length_append, List.length_cons]
    cases hc <;> simp only [List.length_cons] <;> omega

/-- Without a backslash every character is written as itself. -/
theorem flatten_eq_of_spells {chunks : List (List Char)} {text : List Char}
    (h : Spells chunks text) (hplain : backslash ∉ chunks.flatten) : chunks.flatten = text := by
  induction h with
  | nil => rfl
  | @cons chunk c chunks text hc _ ih =>
    rw [List.flatten_cons, List.mem_append, not_or] at hplain
    rw [List.flatten_cons, ih hplain.2]
    cases hc with
    | plain => rfl
    | letter => exact absurd (List.mem_cons_self ..) hplain.1
    | code => exact absurd (List.mem_cons_self ..) hplain.1

/-- **Reading back**: what is written between quotes stands for the characters that it was made
of. -/
theorem textOf_spells {chunks : List (List Char)} {text : List Char} (h : Spells chunks text) :
    textOf false chunks.flatten = .ok (String.ofList text) := by
  by_cases hplain : backslash ∈ chunks.flatten
  · have hcontains : chunks.flatten.contains '\\' = true := by
      simpa [backslash] using hplain
    rw [textOf, hcontains, readEscapes_spells h 0 (length_le_of_spells h)]
    rfl
  · have hcontains : chunks.flatten.contains '\\' = false := by
      simpa [backslash] using hplain
    rw [textOf, hcontains, flatten_eq_of_spells h hplain]
    rfl

/-! ## How text is written -/

/-- The escape by code has as many digits as its letter says, and they are enough. -/
theorem codeEscape_eq (c : Char) : ∃ x width, (x, width) ∈ codeEscapes ∧ c.toNat < 16 ^ width
    ∧ codeEscape c = backslash :: x :: hexDigits width c.toNat := by
  rw [codeEscape]
  split
  next h => exact ⟨'x', 2, by decide, h, rfl⟩
  next =>
    split
    next h => exact ⟨'u', 4, by decide, h, rfl⟩
    next =>
      refine ⟨'U', 8, by decide, ?_, rfl⟩
      have hvalid : c.toNat.isValidChar := c.valid
      rcases hvalid with h | h <;> omega

theorem spelled_codeEscape (c : Char) : Spelled (codeEscape c) c := by
  obtain ⟨x, width, hx, hc, heq⟩ := codeEscape_eq c
  exact heq ▸ .code hx hc

/-- How quoted text writes a character. -/
theorem quotedChar_cases {q : Char} (hq : IsQuote q) (c : Char) :
    (quotedChar q c = [c] ∧ c ≠ q ∧ c ≠ backslash ∧ c ≠ '\n' ∧ c ≠ '\r')
      ∨ (∃ e ∈ [q, backslash, 'n', 'r', 't'], (e, c) ∈ letterEscapes
          ∧ quotedChar q c = [backslash, e])
      ∨ quotedChar q c = codeEscape c := by
  rw [quotedChar]
  split
  next h =>
    refine Or.inr (Or.inl ⟨c, by rcases h with rfl | rfl <;> simp, ?_, rfl⟩)
    rcases h with rfl | rfl
    · rcases hq with rfl | rfl <;> decide
    · decide
  next h =>
    rw [not_or] at h
    repeat' split
    next hc => exact Or.inr (Or.inl ⟨'n', by simp, hc ▸ by decide, rfl⟩)
    next hc => exact Or.inr (Or.inl ⟨'r', by simp, hc ▸ by decide, rfl⟩)
    next hc => exact Or.inr (Or.inl ⟨'t', by simp, hc ▸ by decide, rfl⟩)
    next hfeed hreturn _ _ => exact Or.inl ⟨rfl, h.1, h.2, hfeed, hreturn⟩
    next => exact Or.inr (Or.inr rfl)

theorem spelled_quotedChar {q : Char} (hq : IsQuote q) (c : Char) :
    Spelled (quotedChar q c) c := by
  rcases quotedChar_cases hq c with ⟨heq, -, hc, -⟩ | ⟨e, -, he, heq⟩ | heq <;> rw [heq]
  · exact .plain hc
  · exact .letter he
  · exact spelled_codeEscape c

/-- How a documentation string writes a character. -/
theorem docChar_cases (c : Char) :
    (docChar c = [c] ∧ c ≠ backslash ∧ c ≠ '\r')
      ∨ (∃ e ∈ [backslash, 'r'], (e, c) ∈ letterEscapes ∧ docChar c = [backslash, e])
      ∨ docChar c = codeEscape c := by
  rw [docChar]
  repeat' split
  next hc => exact Or.inl ⟨rfl, by rcases hc with rfl | rfl <;> decide⟩
  next hc => exact Or.inr (Or.inl ⟨backslash, by simp, by rw [hc]; decide, rfl⟩)
  next hc => exact Or.inr (Or.inl ⟨'r', by simp, hc ▸ by decide, rfl⟩)
  next hslash hreturn _ => exact Or.inl ⟨rfl, hslash, hreturn⟩
  next => exact Or.inr (Or.inr rfl)

theorem spelled_docChar (c : Char) : Spelled (docChar c) c := by
  rcases docChar_cases c with ⟨heq, hc, -⟩ | ⟨e, -, he, heq⟩ | heq <;> rw [heq]
  · exact .plain hc
  · exact .letter he
  · exact spelled_codeEscape c

end RecordForge.Source
