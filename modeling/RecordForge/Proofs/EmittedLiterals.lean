import RecordForge.Proofs.Literals
import RecordForge.Source.Text

/-!
# Literals of a generated class

The text of a class holds two kinds of text from outside, the column names and the name of its type.
Both are written as literals. Where the class has such a literal, the scanner takes exactly the
literal as one token, and the token stands for exactly the text it was written for (`ReadsBack`),
whatever quotes, backslashes, line ends and other characters that text has. A column name stays on
its line; a documentation string may run over several.
-/

namespace RecordForge

open Source Text

/-- A literal with something below it is read back as a text. Before a source is scanned its line
ends are unified, which leaves the literal as it is; the scanner in front of what that gives takes
the literal whole and nothing behind it; and the token stands for the text. -/
structure ReadsBack (literal below : List Char) (text : String) : Prop where
  unified : unifyLineEnds (literal ++ below) = literal ++ unifyLineEnds below
  scanned : ∀ s : Scanner, s.atStart = false → s.rest = unifyLineEnds (literal ++ below) →
    s.step = s.found .string literal (unifyLineEnds below) (s.line + literal.count '\n')
  meant : ∀ call line depth,
    Grammar.pieceOf call none ⟨.string, String.ofList literal, line, depth⟩ = pure (.text text)

/-! ## Tokens -/

theorem unifyLineEnds_append {front : List Char} (h : '\r' ∉ front) (c : Char)
    (rest : List Char) :
    unifyLineEnds (front ++ c :: rest) = front ++ unifyLineEnds (c :: rest) := by
  induction front with
  | nil => rfl
  | cons d front ih =>
    rw [List.mem_cons, not_or] at h
    obtain ⟨next, more, hmore⟩ : ∃ next more, front ++ c :: rest = next :: more := by
      cases front <;> simp
    have hd : ¬ d = '\r' := fun e => h.1 e.symm
    rw [List.cons_append, List.cons_append, ← ih h.2, hmore, unifyLineEnds, if_neg hd]
    · exact fun _ heq _ => hd heq
    · exact fun h => absurd h (by simp)

/-- No quote comes up where line ends are unified. -/
theorem head?_unifyLineEnds_ne {q c : Char} (hq : IsQuote q) (hc : c ≠ q) (rest : List Char) :
    (unifyLineEnds (c :: rest)).head? ≠ some q := by
  have hline : some '\n' ≠ some q := fun h => hq.ne_lineFeed (Option.some.inj h).symm
  have hkept : some c ≠ some q := fun h => hc (Option.some.inj h)
  unfold unifyLineEnds
  split
  next => exact hline
  next heq =>
    obtain ⟨rfl, -⟩ := List.cons.inj heq
    split
    next => exact hline
    next => exact hkept
  next heq =>
    obtain ⟨rfl, -⟩ := List.cons.inj heq
    split
    next => exact hline
    next => exact hkept
  next heq => exact nomatch heq

theorem stringMarkLength_quote {q : Char} (hq : IsQuote q) (cs : List Char) :
    stringMarkLength (q :: cs) = 0 := by
  have hlower : q.toLower = q := by rcases hq with rfl | rfl <;> rfl
  have hone : q ∉ ['b', 'f', 'r', 'u'] := by rcases hq with rfl | rfl <;> decide
  have htwo : ∀ c, (q, c) ∉ [('b', 'r'), ('r', 'b'), ('f', 'r'), ('r', 'f')] := by
    intro c
    rcases hq with rfl | rfl <;> simp [singleQuote, doubleQuote]
  rcases cs with _ | ⟨a, _ | ⟨b, rest⟩⟩
  · rfl
  · simp [stringMarkLength, hlower, hone]
  · simp [stringMarkLength, hlower, hone, htwo]

/-- The scanner in front of a quote takes the string that begins there. -/
theorem step_string {s : Scanner} {q : Char} {body rest : List Char} {line : Nat}
    (hstart : s.atStart = false) (hq : IsQuote q) (hrest : s.rest = q :: body)
    (h : stringRest q s.line body = .ok (rest, line)) :
    s.step = s.found .string (Scanner.textBefore s.rest rest) rest line := by
  have hmarks : ∀ e ∈ [singleQuote, doubleQuote],
      ¬ (e = ' ' ∨ e = '\t' ∨ e = '\x0c') ∧ e ≠ '#' ∧ e ≠ '\n' ∧ e ≠ '\\' := by
    simp [singleQuote, doubleQuote]
  obtain ⟨hblank, hcomment, hline, hslash⟩ := hmarks q (by simpa [IsQuote] using hq)
  have hmark : stringMarkLength s.rest = 0 := hrest ▸ stringMarkLength_quote hq body
  rw [Scanner.step, hstart, if_neg (by simp)]
  simp only [hrest] at hmark ⊢
  rw [if_neg hblank, if_neg hcomment, if_neg hline, if_neg hslash]
  simp only [hmark, List.drop_zero]
  rw [if_pos (show q = singleQuote ∨ q = doubleQuote from hq), h]

theorem textBefore_append (literal below : List Char) :
    Scanner.textBefore (literal ++ below) below = literal := by
  simp [Scanner.textBefore]

/-- A token between plain quotes is a piece of text. -/
theorem pieceOf_plain {literal body text : List Char}
    (hparts : Writing.ofToken (String.ofList literal) = ⟨false, false, false, body⟩)
    (htext : textOf false body = .ok (String.ofList text)) (call : Call) (line depth : Nat) :
    Grammar.pieceOf call none ⟨.string, String.ofList literal, line, depth⟩
      = pure (.text (String.ofList text)) := by
  rw [Grammar.pieceOf]
  simp only [hparts, htext]
  rfl

/-! ## Literals between one quote and between three -/

theorem ofToken_single {q : Char} {body : List Char} (hq : IsQuote q)
    (hhead : body.head? ≠ some q) :
    Writing.ofToken (String.ofList (q :: (body ++ [q]))) = ⟨false, false, false, body⟩ := by
  rw [Writing.ofToken]
  simp only [String.toList_ofList, stringMarkLength_quote hq, List.take_zero, List.map_nil,
    List.length_nil, List.drop_zero]
  split
  next a b c _ _ _ _ heq =>
    -- A second character is the first one of the body.
    have hne : ¬ (a = b ∧ b = c) := by
      rintro ⟨rfl, rfl⟩
      obtain ⟨rfl, htail⟩ := List.cons.inj heq
      cases body with
      | nil => exact absurd htail (by simp)
      | cons d body => exact hhead (by rw [(List.cons.inj htail).1]; rfl)
    rw [if_neg hne]
    simp
  next => simp

theorem ofToken_triple {q : Char} (hq : IsQuote q) (body : List Char) :
    Writing.ofToken (String.ofList (tripleQuoted q body)) = ⟨false, false, false, body⟩ := by
  have hmark : stringMarkLength (tripleQuoted q body) = 0 := stringMarkLength_quote hq _
  have hcons : tripleQuoted q body = q :: q :: q :: (body ++ [q, q, q]) := by
    simp [tripleQuoted, tripled]
  rw [Writing.ofToken]
  simp only [String.toList_ofList, hmark, List.take_zero, List.map_nil, List.length_nil,
    List.drop_zero]
  rw [hcons]
  split
  next a b c _ _ _ _ heq =>
    simp only [List.cons.injEq] at heq
    obtain ⟨rfl, rfl, rfl, -⟩ := heq
    simp
  next hshort =>
    exfalso
    rcases body with _ | ⟨a, _ | ⟨b, _ | ⟨c, rest⟩⟩⟩ <;> exact hshort _ _ _ _ _ _ _ rfl

/-- A block between threefold quotes stays as it is when line ends are unified. -/
theorem unifyLineEnds_tripleQuoted {q : Char} {body text : List Char} (h : Block q body text)
    (c : Char) (rest : List Char) : unifyLineEnds (tripleQuoted q body ++ c :: rest)
      = tripleQuoted q body ++ unifyLineEnds (c :: rest) :=
  unifyLineEnds_append (by simp [tripleQuoted, tripled, h.kept, h.quote.ne_return.symm]) c rest

/-- A block between threefold quotes is read back, whatever follows. -/
theorem readsBack_tripleQuoted {q : Char} {body text : List Char} (h : Block q body text)
    (c : Char) (rest : List Char) :
    ReadsBack (tripleQuoted q body) (c :: rest) (String.ofList text) where
  unified := unifyLineEnds_tripleQuoted h c rest
  scanned := by
    intro s hstart hrest
    rw [unifyLineEnds_tripleQuoted h] at hrest
    generalize unifyLineEnds (c :: rest) = below at hrest ⊢
    have hcount : (tripleQuoted q body).count '\n' = body.count '\n' := by
      simp [tripleQuoted, tripled, h.quote.ne_lineFeed]
    have hbody : tripleQuoted q body ++ below
        = q :: q :: q :: (body ++ (tripled q ++ below)) := by
      simp [tripleQuoted, tripled]
    have hclose : stringRest q s.line (q :: q :: (body ++ (tripled q ++ below)))
        = .ok (below, s.line + body.count '\n') := by
      rw [stringRest, if_pos ⟨rfl, rfl⟩, h.closes]
      rfl
    rw [step_string hstart h.quote (hrest.trans hbody) hclose, hcount, hrest, textBefore_append]
  meant := by
    obtain ⟨chunks, rfl, hspells⟩ := h.spells
    exact pieceOf_plain (ofToken_triple h.quote _) (textOf_spells hspells)

/-- The body of quoted text does not begin with its quote. -/
theorem head?_quotedBody (cs : List Char) : (quotedBody cs).head? ≠ some (quoteFor cs) := by
  intro hhead
  cases cs with
  | nil => exact absurd hhead (by simp [quotedBody])
  | cons c cs =>
    have hq := isQuote_quoteFor (c :: cs)
    rw [quotedBody, List.flatMap_cons,
      List.head?_append_of_ne_nil _ (spelled_quotedChar hq c).ne_nil] at hhead
    exact head?_quotedChar hq c hhead

theorem lineChars_quotedChars {cs : List Char} {d : Char} (h : d ∈ quotedChars cs) :
    d ≠ '\n' ∧ d ≠ '\r' := by
  have hq := isQuote_quoteFor cs
  rw [quotedChars, List.mem_cons, List.mem_append, List.mem_singleton] at h
  rcases h with rfl | h | rfl
  · exact ⟨hq.ne_lineFeed, hq.ne_return⟩
  · exact lineChars_quotedBody h
  · exact ⟨hq.ne_lineFeed, hq.ne_return⟩

/-- One quote opens a string unless two more follow. -/
theorem stringRest_single {q : Char} {line : Nat} {cs : List Char}
    (h : ¬ [q, q] <+: cs) :
    stringRest q line cs = (closeString q 1 0 line cs).mapError .openString := by
  rcases cs with _ | ⟨a, _ | ⟨b, rest⟩⟩
  · rfl
  · rfl
  · have hne : ¬ (a = q ∧ b = q) := by
      rintro ⟨rfl, rfl⟩
      exact h ⟨rest, rfl⟩
    rw [stringRest, if_neg hne]

/-- Quoted text stays as it is when line ends are unified. -/
theorem unifyLineEnds_quotedChars (cs : List Char) (c : Char) (rest : List Char) :
    unifyLineEnds (quotedChars cs ++ c :: rest) = quotedChars cs ++ unifyLineEnds (c :: rest) :=
  unifyLineEnds_append (fun h => (lineChars_quotedChars h).2 rfl) c rest

/-- Quoted text is read back unless a quote follows. -/
theorem readsBack_quotedChars (cs : List Char) {c : Char} (hc : c ≠ quoteFor cs)
    (rest : List Char) : ReadsBack (quotedChars cs) (c :: rest) (String.ofList cs) where
  unified := unifyLineEnds_quotedChars cs c rest
  scanned := by
    intro s hstart hrest
    have hq := isQuote_quoteFor cs
    have hbelow := head?_unifyLineEnds_ne hq hc rest
    rw [unifyLineEnds_quotedChars] at hrest
    generalize unifyLineEnds (c :: rest) = below at hrest hbelow ⊢
    have hcount : (quotedChars cs).count '\n' = 0 :=
      List.count_eq_zero.mpr fun h => (lineChars_quotedChars h).1 rfl
    have hbody : quotedChars cs ++ below
        = quoteFor cs :: (quotedBody cs ++ (quoteFor cs :: below)) := by
      simp [quotedChars]
    have hclose : stringRest (quoteFor cs) s.line (quotedBody cs ++ (quoteFor cs :: below))
        = .ok (below, s.line) := by
      have hopen : ¬ [quoteFor cs, quoteFor cs] <+: quotedBody cs ++ (quoteFor cs :: below) := by
        rintro ⟨more, heq⟩
        cases hempty : quotedBody cs with
        | nil =>
          rw [hempty] at heq
          simp only [List.cons_append, List.nil_append, List.cons.injEq, true_and] at heq
          exact hbelow (by rw [← heq]; rfl)
        | cons c rest =>
          rw [hempty] at heq
          obtain ⟨rfl, -⟩ := List.cons.inj heq
          exact head?_quotedBody cs (by rw [hempty]; rfl)
      rw [stringRest_single hopen, closeString_quotedBody, closeString_quote hq, if_pos rfl]
      rfl
    rw [step_string hstart hq (hrest.trans hbody) hclose, hcount, hrest, textBefore_append]
    rfl
  meant := by
    refine pieceOf_plain (ofToken_single (isQuote_quoteFor cs) (head?_quotedBody cs)) ?_
    rw [quotedBody, List.flatMap_def]
    exact textOf_spells (spells_map (spelled_quotedChar (isQuote_quoteFor cs)) cs)

/-! ## In the text of a class -/

/-- Behind the opening stands the literal, in front of the closing, and it is read back as the
text. -/
def HoldsLiteral (source opening : String) (literal : List Char) (closing text : String) : Prop :=
  ∃ above below, source.toList = above ++ opening.toList ++ literal ++ closing.toList ++ below
    ∧ ReadsBack literal (closing.toList ++ below) text

namespace ColumnField

/-- What stands in front of the column name in the definition of a column. -/
def opening (f : ColumnField) : String :=
  f.constantName ++ " = " ++ f.columnClass ++ "("

/-- What stands behind the column name in the definition of a column. -/
def closing (f : ColumnField) : String :=
  ", allow_null=" ++ Value.boolText f.allowNull ++ ", primary=" ++ Value.boolText f.primary
    ++ ", version=" ++ toString f.version ++ ")"

theorem line_eq (f : ColumnField) : f.line = f.opening ++ quoted f.columnName ++ f.closing := by
  unfold line opening closing
  simp only [String.append_assoc]

end ColumnField

theorem toList_indented (line : String) :
    (indented 1 line).toList = "    ".toList ++ line.toList := by
  rw [indented, String.toList_append, String.toList_ofList]
  rfl

namespace ClassSource

/-- Lines that follow each other stand in the text one after the other. -/
theorem toList_text {c : ClassSource} (above middle below : List String)
    (h : c.lines = above ++ middle ++ below) : ∃ front back,
    c.text.toList = front ++ (String.join (middle.map (· ++ "\n"))).toList ++ back := by
  refine ⟨(String.join (above.map (· ++ "\n"))).toList,
    (String.join (below.map (· ++ "\n"))).toList, ?_⟩
  rw [text, h, List.map_append, List.map_append, String.join_append, String.join_append,
    String.toList_append, String.toList_append]

/-- The definition of a column is a line of the class, and not the first one. -/
theorem exists_lines {c : ClassSource} {f : ColumnField} (hf : f ∈ c.columns) :
    ∃ above previous below, c.lines = above ++ [previous, indented 1 f.line] ++ below := by
  obtain ⟨before, after, hcolumns⟩ := List.append_of_mem hf
  obtain ⟨above, below, hsplit, habove⟩ : ∃ above below,
      c.lines = above ++ indented 1 f.line :: below ∧ above ≠ [] := by
    refine ⟨[c.headLine, c.importLine, "", c.classLine]
        ++ (docString c.doc :: before.map ColumnField.line).map (indented 1),
      (after.map ColumnField.line ++ c.groups.map VersionGroup.line).map (indented 1)
        ++ c.methods.flatMap fun m => "" :: m.lines.map (indented 1), ?_, by simp⟩
    rw [lines, bodyLines, hcolumns]
    simp
  rcases List.eq_nil_or_concat above with rfl | ⟨above, previous, rfl⟩
  · exact absurd rfl habove
  · refine ⟨above, previous, below, ?_⟩
    rw [hsplit, List.concat_eq_append, List.append_assoc, List.append_assoc]
    rfl

end ClassSource

namespace ClassModel

/-- The documentation of the class of a model. -/
def documentation (m : ClassModel) : String :=
  "Database object for " ++ m.origin ++ "."

theorem holdsLiteral_docString (m : ClassModel) :
    HoldsLiteral m.text ("\n" ++ (ClassSource.ofModel m).classLine ++ "\n    ")
      (docStringChars m.documentation.toList) "\n" m.documentation := by
  obtain ⟨q, body, hdoc, hblock⟩ := exists_block_docStringChars m.documentation.toList
  obtain ⟨above, below, htext⟩ := ClassSource.toList_text (c := ClassSource.ofModel m)
    [_, _] [_, _, _] _ rfl
  refine ⟨above, below, ?_, ?_⟩
  · have hline : (docString (ClassSource.ofModel m).doc).toList = tripleQuoted q body := by
      rw [docString, String.toList_ofList]
      exact hdoc
    rw [text, htext, hdoc]
    simp only [List.map_cons, List.map_nil, String.join_cons, String.join_nil,
      String.toList_append, toList_indented, hline]
    simp
  · have hback := readsBack_tripleQuoted hblock '\n' below
    rw [String.ofList_toList] at hback
    rw [hdoc]
    exact hback

theorem holdsLiteral_column (m : ClassModel) {f : ColumnField} (hf : f ∈ m.fields) :
    HoldsLiteral m.text ("\n    " ++ f.opening) (quotedChars f.columnName.toList)
      (f.closing ++ "\n") f.columnName := by
  obtain ⟨above, previous, below, hlines⟩ :=
    ClassSource.exists_lines (c := ClassSource.ofModel m) hf
  obtain ⟨front, back, htext⟩ := ClassSource.toList_text _ _ _ hlines
  refine ⟨front ++ previous.toList, back, ?_, ?_⟩
  · have hline : (quoted f.columnName).toList = quotedChars f.columnName.toList := by
      rw [quoted, String.toList_ofList]
    rw [text, htext]
    simp only [List.map_cons, List.map_nil, String.join_cons, String.join_nil,
      String.toList_append, toList_indented, ColumnField.line_eq, hline]
    simp
  · obtain ⟨behind, hbehind⟩ : ∃ behind, (f.closing ++ "\n").toList ++ back = ',' :: behind := by
      unfold ColumnField.closing
      simp only [String.toList_append]
      exact ⟨_, rfl⟩
    have hcomma : ',' ≠ quoteFor f.columnName.toList := by
      rcases isQuote_quoteFor f.columnName.toList with h | h <;> rw [h] <;> decide
    have hback := readsBack_quotedChars f.columnName.toList hcomma behind
    rw [String.ofList_toList] at hback
    exact hbehind ▸ hback

/-- **What comes from the user is read back exactly**: each column name from the literal in the
definition of its column, which is on one line, and the documentation from its string. -/
theorem holdsLiteral_text (m : ClassModel) :
    (∀ f ∈ m.fields,
        HoldsLiteral m.text ("\n    " ++ f.opening) (quotedChars f.columnName.toList)
          (f.closing ++ "\n") f.columnName
        ∧ ∀ c ∈ quotedChars f.columnName.toList, c ≠ '\n' ∧ c ≠ '\r')
      ∧ HoldsLiteral m.text ("\n" ++ (ClassSource.ofModel m).classLine ++ "\n    ")
          (docStringChars m.documentation.toList) "\n" m.documentation :=
  ⟨fun _ hf => ⟨holdsLiteral_column m hf, fun _ => lineChars_quotedChars⟩,
    holdsLiteral_docString m⟩

end ClassModel

end RecordForge
