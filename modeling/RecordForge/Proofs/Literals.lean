import RecordForge.Proofs.Spelling
import RecordForge.Source.Grammar.Text

/-!
# Where literals end

The scanner finds the end of a string by its closing quotes. It passes over any written character
that is not a bare quote, and then no quotes are behind it (`closeString_spelled`). A text between
single quotes has no bare quote in its body (`closeString_quotedBody`). The body of a documentation
string may have some, but never three in a row, and it does not end in one: it is a `Block` in each
of the ways that quotes are chosen for it (`exists_block_docStringChars`).
-/

namespace RecordForge.Source

open RecordForge.Text

/-! ## One character -/

section

variable {q : Char} {width seen line : Nat} {rest : List Char}

theorem closeString_plain {c : Char} (hc : c ≠ backslash) (hcq : c ≠ q) (hline : c ≠ '\n') :
    closeString q width seen line (c :: rest) = closeString q width 0 line rest := by
  rw [closeString, if_neg hcq, if_neg hline]
  exact fun d rest' heq => absurd heq hc

theorem closeString_lineFeed (hq : IsQuote q) (hwidth : width ≠ 1) :
    closeString q width seen line ('\n' :: rest) = closeString q width 0 (line + 1) rest := by
  rw [closeString, if_neg hq.ne_lineFeed.symm, if_pos rfl, if_neg hwidth]
  exact fun d rest' heq => absurd heq (by decide)

theorem closeString_quote (hq : IsQuote q) :
    closeString q width seen line (q :: rest)
      = if seen + 1 = width then .ok (rest, line)
        else closeString q width (seen + 1) line rest := by
  rw [closeString, if_pos rfl]
  exact fun d rest' heq => absurd heq hq.ne_backslash

theorem closeString_escape {e : Char} (hline : e ≠ '\n') :
    closeString q width seen line (backslash :: e :: rest) = closeString q width 0 line rest := by
  rw [backslash, closeString, if_neg hline]

/-- Characters that mean nothing to the scanner are passed over. -/
theorem closeString_append {front : List Char}
    (h : ∀ c ∈ front, c ≠ backslash ∧ c ≠ q ∧ c ≠ '\n') :
    closeString q width 0 line (front ++ rest) = closeString q width 0 line rest := by
  induction front with
  | nil => rfl
  | cons c front ih =>
    obtain ⟨hc, hcq, hline⟩ := h c (List.mem_cons_self ..)
    rw [List.cons_append, closeString_plain hc hcq hline]
    exact ih fun d hd => h d (List.mem_cons_of_mem _ hd)

/-- A written character other than a bare quote leaves no quotes behind. -/
theorem closeString_spelled (hq : IsQuote q) {chunk : List Char} {c : Char}
    (h : Spelled chunk c) (hbare : chunk ≠ [q]) (hline : width ≠ 1 ∨ '\n' ∉ chunk) :
    closeString q width seen line (chunk ++ rest)
      = closeString q width 0 (line + chunk.count '\n') rest := by
  cases h with
  | plain hc =>
    by_cases hfeed : c = '\n'
    · subst hfeed
      exact closeString_lineFeed hq (hline.resolve_right (by simp))
    · have hcq : c ≠ q := fun h => hbare (by rw [h])
      rw [List.singleton_append, closeString_plain hc hcq hfeed]
      simp [hfeed]
  | @letter e _ h =>
    have hall : ∀ p ∈ letterEscapes, p.1 ≠ '\n' := by decide
    have he : e ≠ '\n' := hall _ h
    have hcount : [backslash, e].count '\n' = 0 := by
      simp [backslash, he]
    rw [hcount, Nat.add_zero]
    exact closeString_escape he
  | @code x w _ h hc =>
    have hall : ∀ p ∈ codeEscapes, p.1 ≠ '\n' := by decide
    have hx : x ≠ '\n' := hall _ h
    have hfree : ∀ d ∈ hexDigits w c.toNat, d ≠ backslash ∧ d ≠ q ∧ d ≠ '\n' := by
      intro d hd
      obtain ⟨m, rfl⟩ := mem_hexDigits hd
      obtain ⟨hslash, hquote, hfeed, -⟩ := hexDigit_plain m
      exact ⟨hslash, fun h => hquote (h ▸ hq), hfeed⟩
    have hcount : (backslash :: x :: hexDigits w c.toNat).count '\n' = 0 := by
      rw [List.count_eq_zero]
      intro hmem
      rcases List.mem_cons.mp hmem with h | hmem
      · exact absurd h (by decide)
      rcases List.mem_cons.mp hmem with h | hmem
      · exact hx h.symm
      · exact (hfree _ hmem).2.2 rfl
    rw [hcount, Nat.add_zero, List.cons_append, List.cons_append, closeString_escape hx]
    exact closeString_append hfree

/-! ## A body -/

/-- A body without bare quotes leaves none behind. -/
theorem closeString_flatten (hq : IsQuote q) {chunks : List (List Char)} {text : List Char}
    (h : Spells chunks text) (hbare : ∀ chunk ∈ chunks, chunk ≠ [q])
    (hline : width ≠ 1 ∨ '\n' ∉ chunks.flatten) :
    closeString q width 0 line (chunks.flatten ++ rest)
      = closeString q width 0 (line + chunks.flatten.count '\n') rest := by
  induction h generalizing line with
  | nil => rfl
  | @cons chunk c chunks text hc _ ih =>
    rw [List.flatten_cons, List.mem_append, not_or] at hline
    rw [List.flatten_cons, List.append_assoc,
      closeString_spelled hq hc (hbare chunk (List.mem_cons_self ..)) (hline.imp_right And.left),
      ih (fun chunk' h => hbare chunk' (List.mem_cons_of_mem _ h)) (hline.imp_right And.right),
      List.count_append, Nat.add_assoc]

theorem occursIn_iff {pattern cs : List Char} : occursIn pattern cs = true ↔ pattern <:+: cs := by
  induction cs with
  | nil => simp [occursIn]
  | cons c rest ih => simp [occursIn, List.infix_cons_iff, ih]

/-- A body in which three quotes never come together does not close, and it leaves quotes behind
only if it ends in one. -/
theorem closeString_triple_flatten (hq : IsQuote q) {chunks : List (List Char)} {text : List Char}
    (h : Spells chunks text) (seen line : Nat)
    (hfree : ¬ tripled q <:+: List.replicate seen q ++ chunks.flatten) :
    ∃ seen', (∀ rest, closeString q 3 seen line (chunks.flatten ++ rest)
        = closeString q 3 seen' (line + chunks.flatten.count '\n') rest)
      ∧ (seen' = 0 ∨ (List.replicate seen q ++ chunks.flatten).getLast? = some q) := by
  induction h generalizing seen line with
  | nil =>
    refine ⟨seen, fun _ => rfl, ?_⟩
    cases seen with
    | zero => exact Or.inl rfl
    | succ n => exact Or.inr (by simp [List.replicate_succ'])
  | @cons chunk c chunks text hc _ ih =>
    by_cases hbare : chunk = [q]
    · -- A bare quote is one more in a row, and never the third one.
      subst hbare
      have hrow : List.replicate seen q ++ ([q] :: chunks).flatten
          = List.replicate (seen + 1) q ++ chunks.flatten := by
        rw [List.replicate_succ', List.flatten_cons, List.append_assoc]
      have hthird : seen + 1 ≠ 3 := by
        rintro hseen
        rw [hrow, hseen] at hfree
        exact hfree ⟨[], chunks.flatten, rfl⟩
      obtain ⟨seen', hrun, hlast⟩ := ih (seen + 1) line (hrow ▸ hfree)
      refine ⟨seen', fun rest => ?_, hrow ▸ hlast⟩
      have hcount : ([q] :: chunks).flatten.count '\n' = chunks.flatten.count '\n' := by
        simp [hq.ne_lineFeed]
      rw [hcount, ← hrun rest, List.flatten_cons, List.append_assoc, List.singleton_append,
        closeString_quote hq, if_neg hthird]
    · have hfree' : ¬ tripled q <:+: List.replicate 0 q ++ chunks.flatten := by
        intro hin
        apply hfree
        rw [List.flatten_cons, ← List.append_assoc]
        exact hin.trans (List.suffix_append ..).isInfix
      obtain ⟨seen', hrun, hlast⟩ := ih 0 (line + chunk.count '\n') hfree'
      refine ⟨seen', fun rest => ?_, ?_⟩
      · rw [List.flatten_cons, List.append_assoc,
          closeString_spelled hq hc hbare (Or.inl (by decide)), hrun rest, List.count_append,
          Nat.add_assoc]
      · refine hlast.imp_right fun hlast => ?_
        rw [List.replicate_zero, List.nil_append] at hlast
        rw [List.flatten_cons, ← List.append_assoc, List.getLast?_append, hlast]
        rfl

theorem closeString_tripled (hq : IsQuote q) :
    closeString q 3 0 line (tripled q ++ rest) = .ok (rest, line) := by
  rw [tripled, List.cons_append, closeString_quote hq, if_neg (by decide), List.cons_append,
    closeString_quote hq, if_neg (by decide), List.singleton_append, closeString_quote hq,
    if_pos rfl]

end

/-! ## The two kinds of literals -/

theorem isQuote_quoteFor (cs : List Char) : IsQuote (quoteFor cs) := by
  rw [quoteFor]
  split
  · exact Or.inr rfl
  · exact Or.inl rfl

theorem spells_map {f : Char → List Char} (h : ∀ c, Spelled (f c) c) (cs : List Char) :
    Spells (cs.map f) cs :=
  List.forall₂_map_left_iff.mpr (List.forall₂_same.mpr fun c _ => h c)

/-! ### Line ends -/

theorem lineChars_codeEscape {c d : Char} (h : d ∈ codeEscape c) : d ≠ '\n' ∧ d ≠ '\r' := by
  have hletters : ∀ p ∈ codeEscapes, p.1 ≠ '\n' ∧ p.1 ≠ '\r' := by decide
  obtain ⟨x, width, hx, -, heq⟩ := codeEscape_eq c
  rw [heq, List.mem_cons, List.mem_cons] at h
  rcases h with rfl | rfl | h
  · decide
  · exact hletters _ hx
  · obtain ⟨m, rfl⟩ := mem_hexDigits h
    exact (hexDigit_plain m).2.2

theorem lineChars_quotedChar {q c d : Char} (hq : IsQuote q) (h : d ∈ quotedChar q c) :
    d ≠ '\n' ∧ d ≠ '\r' := by
  have hmarks : ∀ e ∈ [backslash, 'n', 'r', 't'], e ≠ '\n' ∧ e ≠ '\r' := by simp [backslash]
  rcases quotedChar_cases hq c with ⟨heq, -, -, hc⟩ | ⟨e, he, -, heq⟩ | heq <;> rw [heq] at h
  · obtain rfl := List.mem_singleton.mp h
    exact hc
  · rcases List.mem_cons.mp h with rfl | h
    · exact hmarks _ (List.mem_cons_self ..)
    · obtain rfl := List.mem_singleton.mp h
      rcases List.mem_cons.mp he with rfl | he
      · exact ⟨hq.ne_lineFeed, hq.ne_return⟩
      · exact hmarks d he
  · exact lineChars_codeEscape h

theorem not_mem_docChar (c : Char) : '\r' ∉ docChar c := by
  intro h
  rcases docChar_cases c with ⟨heq, -, hc⟩ | ⟨e, he, -, heq⟩ | heq <;> rw [heq] at h
  · exact hc (List.mem_singleton.mp h).symm
  · have hmarks : ∀ e ∈ [backslash, 'r'], '\r' ∉ [backslash, e] := by simp [backslash]
    exact hmarks e he h
  · exact (lineChars_codeEscape h).2 rfl

/-! ### Bare quotes -/

/-- What quoted text writes for a character does not begin with a bare quote. -/
theorem head?_quotedChar {q : Char} (hq : IsQuote q) (c : Char) :
    (quotedChar q c).head? ≠ some q := by
  obtain ⟨x, width, -, -, hcode⟩ := codeEscape_eq c
  rcases quotedChar_cases hq c with ⟨heq, hc, -⟩ | ⟨e, -, -, heq⟩ | heq
  · simpa [heq] using hc
  · simpa [heq] using hq.ne_backslash.symm
  · simpa [heq, hcode] using hq.ne_backslash.symm

/-- What a documentation string has for a character ends in a quote only if it is that quote. -/
theorem docChar_of_getLast? {q c : Char} (hq : IsQuote q) (h : (docChar c).getLast? = some q) :
    c = q ∧ docChar c = [q] := by
  rcases docChar_cases c with ⟨heq, -⟩ | ⟨e, he, -, heq⟩ | heq
  · rw [heq] at h
    obtain rfl : c = q := by simpa using h
    exact ⟨rfl, heq⟩
  · have hmarks : ∀ e ∈ [backslash, 'r'], ¬ IsQuote e := by
      simp [IsQuote, backslash, singleQuote, doubleQuote]
    rw [heq] at h
    obtain rfl : e = q := by simpa using h
    exact absurd hq (hmarks e he)
  · -- An escape by code ends in a digit.
    have hwidths : ∀ p ∈ codeEscapes, 0 < p.2 := by decide
    obtain ⟨x, width, hx, -, hcode⟩ := codeEscape_eq c
    obtain ⟨w, rfl⟩ := Nat.exists_eq_add_of_lt (hwidths _ hx)
    rw [heq, hcode, Nat.zero_add, hexDigits, ← List.cons_append, ← List.cons_append,
      List.getLast?_concat] at h
    exact absurd (Option.some.inj h ▸ hq) (hexDigit_plain _).2.1

/-! ### Bodies -/

theorem lineChars_quotedBody {cs : List Char} {d : Char} (h : d ∈ quotedBody cs) :
    d ≠ '\n' ∧ d ≠ '\r' := by
  obtain ⟨c, -, hc⟩ := List.mem_flatMap.mp h
  exact lineChars_quotedChar (isQuote_quoteFor cs) hc

/-- Quoted text is on one line. -/
theorem count_quotedBody (cs : List Char) : (quotedBody cs).count '\n' = 0 :=
  List.count_eq_zero.mpr fun h => (lineChars_quotedBody h).1 rfl

/-- The body of quoted text leaves no quotes behind. -/
theorem closeString_quotedBody {width : Nat} (line : Nat) (cs rest : List Char) :
    closeString (quoteFor cs) width 0 line (quotedBody cs ++ rest)
      = closeString (quoteFor cs) width 0 line rest := by
  have hq := isQuote_quoteFor cs
  have hbare : ∀ chunk ∈ cs.map (quotedChar (quoteFor cs)), chunk ≠ [quoteFor cs] := by
    intro chunk hchunk h
    obtain ⟨c, -, rfl⟩ := List.mem_map.mp hchunk
    exact head?_quotedChar hq c (by rw [h]; rfl)
  have hcount := count_quotedBody cs
  rw [quotedBody, List.flatMap_def] at hcount ⊢
  rw [closeString_flatten hq (spells_map (spelled_quotedChar hq) cs) hbare
    (Or.inr (List.count_eq_zero.mp hcount)), hcount, Nat.add_zero]

/-- A text as the body of a literal between threefold quotes. -/
structure Block (q : Char) (body text : List Char) : Prop where
  quote : IsQuote q
  spells : ∃ chunks, body = chunks.flatten ∧ Spells chunks text
  closes : ∀ line rest, closeString q 3 0 line (body ++ (tripled q ++ rest))
    = .ok (rest, line + body.count '\n')
  kept : '\r' ∉ body

/-- The body of the quoted form closes between threefold quotes as well. -/
theorem block_quotedBody (cs : List Char) : Block (quoteFor cs) (quotedBody cs) cs := by
  have hq := isQuote_quoteFor cs
  refine ⟨hq, ⟨_, List.flatMap_def, spells_map (spelled_quotedChar hq) cs⟩, fun line rest => ?_,
    fun h => (lineChars_quotedBody h).2 rfl⟩
  rw [closeString_quotedBody, closeString_tripled hq, count_quotedBody, Nat.add_zero]

/-- A body without the threefold quote that does not end in its quote. -/
theorem block_docBody {q : Char} {cs : List Char} (hq : IsQuote q)
    (hfree : ¬ tripled q <:+: cs.flatMap docChar)
    (hlast : (cs.flatMap docChar).getLast? ≠ some q) : Block q (cs.flatMap docChar) cs := by
  have hspells := spells_map spelled_docChar cs
  refine ⟨hq, ⟨_, List.flatMap_def, hspells⟩, fun line rest => ?_, fun hmem => ?_⟩
  · rw [List.flatMap_def] at hfree hlast ⊢
    obtain ⟨seen, hrun, hseen⟩ := closeString_triple_flatten hq hspells 0 line hfree
    obtain rfl := hseen.resolve_right hlast
    rw [hrun, closeString_tripled hq]
  · obtain ⟨c, -, hc⟩ := List.mem_flatMap.mp hmem
    exact not_mem_docChar c hc

/-- A body without the threefold quote that ends in its quote closes when that one is escaped. -/
theorem block_guardEnd {q : Char} {cs : List Char} (hq : IsQuote q)
    (hfree : ¬ tripled q <:+: cs.flatMap docChar)
    (hlast : (cs.flatMap docChar).getLast? = some q) :
    Block q (guardEnd q (cs.flatMap docChar)) cs := by
  rcases List.eq_nil_or_concat cs with rfl | ⟨front, c, rfl⟩
  · exact absurd hlast (by simp)
  rw [List.concat_eq_append, List.flatMap_append, List.flatMap_singleton] at *
  have hc : (docChar c).getLast? = some q := by
    rw [List.getLast?_append_of_ne_nil _ (spelled_docChar c).ne_nil] at hlast
    exact hlast
  -- The last character is the quote, and only that one is written differently.
  obtain ⟨rfl, hbare⟩ := docChar_of_getLast? hq hc
  rw [hbare] at hfree hlast ⊢
  have hguard : guardEnd c (front.flatMap docChar ++ [c])
      = (front.map docChar).flatten ++ [backslash, c] := by
    rw [guardEnd, if_pos hlast, List.dropLast_concat, List.flatMap_def]
  have hspells : Spells (front.map docChar) front := spells_map spelled_docChar front
  have hslash : Spelled [backslash, c] c := by
    rcases hq with rfl | rfl <;> exact .letter (by decide)
  rw [hguard]
  refine ⟨hq, ⟨front.map docChar ++ [[backslash, c]], by simp,
    List.rel_append hspells (.cons hslash .nil)⟩, fun line rest => ?_, fun hmem => ?_⟩
  · have hfront : ¬ tripled c <:+: List.replicate 0 c ++ (front.map docChar).flatten := by
      intro hin
      apply hfree
      rw [List.flatMap_def]
      exact hin.trans (List.prefix_append ..).isInfix
    obtain ⟨seen, hrun, -⟩ := closeString_triple_flatten hq hspells 0 line hfront
    have hcount : [backslash, c].count '\n' = 0 := by
      simp [backslash, hq.ne_lineFeed]
    rw [List.append_assoc, hrun, List.cons_append, List.cons_append, List.nil_append,
      closeString_escape hq.ne_lineFeed, closeString_tripled hq, List.count_append, hcount,
      Nat.add_zero]
  · rw [← List.flatMap_def] at hmem
    rcases List.mem_append.mp hmem with hmem | hmem
    · obtain ⟨d, -, hd⟩ := List.mem_flatMap.mp hmem
      exact not_mem_docChar d hd
    · rcases List.mem_cons.mp hmem with h | hmem
      · exact absurd h (by decide)
      · exact hq.ne_return (List.mem_singleton.mp hmem).symm

/-- **A documentation string is a block**, whichever quotes it is in. -/
theorem exists_block_docStringChars (cs : List Char) :
    ∃ q body, docStringChars cs = tripleQuoted q body ∧ Block q body cs := by
  have hfree : ∀ q ∈ [doubleQuote, singleQuote].filter
      (fun q => !occursIn (tripled q) (cs.flatMap docChar)),
      IsQuote q ∧ ¬ tripled q <:+: cs.flatMap docChar := by
    intro q hq
    rw [List.mem_filter] at hq
    refine ⟨by simpa [IsQuote, or_comm] using hq.1, ?_⟩
    rw [← occursIn_iff]
    simpa using hq.2
  dsimp only [docStringChars]
  generalize [doubleQuote, singleQuote].filter
    (fun q => !occursIn (tripled q) (cs.flatMap docChar)) = free at *
  split
  next _ q hfind =>
    obtain ⟨hq, hnone⟩ := hfree q (List.mem_of_find?_eq_some hfind)
    exact ⟨q, _, rfl, block_docBody hq hnone (by simpa using List.find?_some hfind)⟩
  next q rest hfind =>
    have hin : q ∈ q :: rest := List.mem_cons_self ..
    obtain ⟨hq, hnone⟩ := hfree q hin
    have hlast := List.find?_eq_none.mp hfind q hin
    exact ⟨q, _, rfl, block_guardEnd hq hnone (by simpa using hlast)⟩
  next => exact ⟨_, _, rfl, block_quotedBody cs⟩

/-- Where both threefold quotes occur, the single quotes are escaped. -/
example : docString "\'\'\' or \"\"\"" = "\'\'\'\\\'\\\'\\\' or \"\"\"\'\'\'" := by
  rfl

end RecordForge.Source
