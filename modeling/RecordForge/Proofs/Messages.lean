import Mathlib.Data.List.Forall2
import RecordForge.Diagnostic

/-!
# Messages of diagnostics and of their records

A diagnostic fills its values into its format, and so does the record of a diagnostic, with one
difference: there a dictionary with entries that comes alone is the operand itself. Filling tells
the two apart in three places: at a key, at the end of the format within a key, and at the end of
the format if the dictionary has not been taken (`Message.tellsApart`). The two messages agree
exactly if none of these is reached (`message_record`); a message that has a text is the same in
both.

Whether a message has a text is known from the letters of the directives in its format
(`Message.isOk_format_iff`).
-/

namespace RecordForge

namespace Message

/-! ## Steps of filling -/

/-- Whether a directive makes a text of a value. -/
def takes (letter : Char) (v : Value) : Bool :=
  if letter = 's' ∨ letter = 'r' then v.isWritable
  else letter = 'd' && (integerText v).isOk

/-- What a directive takes does not depend on where it stands. -/
theorem isOk_directiveText (letter : Char) (position : Nat) (v : Value) :
    (directiveText letter position v).isOk = takes letter v := by
  unfold directiveText takes written
  by_cases hs : letter = 's'
  · simp only [hs, if_true, true_or]
    cases v.isWritable <;> rfl
  · by_cases hr : letter = 'r'
    · simp only [hr, if_true, or_true]
      cases v.isWritable <;> rfl
    · by_cases hd : letter = 'd'
      · simp [hd]
      · simp only [hs, hr, hd, if_false, or_self, decide_false, Bool.false_and]
        rfl

theorem fill_literal (c : Char) (rest : List Piece) (ops : Operands) :
    fill (.literal c :: rest) ops = (fill rest ops).map (String.ofList [c] ++ ·) := by
  rw [fill]
  cases fill rest ops <;> rfl

/-- A directive writes the next value before what the rest is filled to. -/
theorem fill_value (letter : Char) (position : Nat) (rest : List Piece) {v : Value}
    {ops ops' : Operands} (hnext : ops.next = .ok (v, ops')) :
    fill (.value letter position :: rest) ops
      = (directiveText letter position v).bind fun text => (fill rest ops').map (text ++ ·) := by
  have hfill : fill (.value letter position :: rest) ops = (do
      let text ← directiveText letter position v
      return text ++ (← fill rest ops')) := by
    rw [fill, hnext]
    rfl
  rw [hfill]
  cases directiveText letter position v with
  | error e => rfl
  | ok text => cases fill rest ops' <;> rfl

theorem fill_value_keyed (letter : Char) (position : Nat) (rest : List Piece)
    (entries : List (String × Value)) (v : Value) :
    fill (.value letter position :: rest) (.keyed entries (some v))
      = (directiveText letter position v).bind fun text =>
        (fill rest (.keyed entries none)).map (text ++ ·) :=
  fill_value letter position rest rfl

theorem fill_value_values (letter : Char) (position : Nat) (rest : List Piece) (v : Value)
    (vs : List Value) :
    fill (.value letter position :: rest) (.values (v :: vs))
      = (directiveText letter position v).bind fun text =>
        (fill rest (.values vs)).map (text ++ ·) :=
  fill_value letter position rest rfl

/-- What comes first makes no difference. -/
theorem map_append_inj {x y : Except MessageError String} (first : String) :
    x.map (first ++ ·) = y.map (first ++ ·) ↔ x = y := by
  cases x <;> cases y <;> simp [Except.map, String.ext_iff]

/-! ## A dictionary as the operand itself -/

/-- Whether filling tells a dictionary that is the operand itself from one that is a value in a
list. Here `next` is what has not been taken yet. -/
def tellsApart : (next : Option Value) → List Piece → Bool
  | next, [] => next.isSome
  | next, .literal _ :: rest => tellsApart next rest
  | some v, .value letter _ :: rest => takes letter v && tellsApart none rest
  | none, .value _ _ :: _ => false
  | _, .unfinished :: _ => false
  | _, .entry _ :: _ => true
  | _, .unclosedKey :: _ => true

/-- Of a dictionary nothing is left over. -/
theorem fill_nil_keyed (entries : List (String × Value)) (next : Option Value) :
    fill [] (.keyed entries next) = .ok "" := rfl

theorem directiveText_ne_notKeyed (letter : Char) (position : Nat) (v : Value) :
    directiveText letter position v ≠ .error .notKeyed := by
  unfold directiveText written
  split
  next => split <;> simp
  next =>
    split
    next => split <;> simp
    next =>
      split
      next =>
        unfold integerText written
        split <;> (try split) <;> simp
      next => simp

/-- Whatever goes wrong with a dictionary, it is not that there is none. -/
theorem fill_keyed_ne_notKeyed (entries : List (String × Value)) (pieces : List Piece) :
    ∀ next, fill pieces (.keyed entries next) ≠ .error .notKeyed := by
  have hmap : ∀ {x : Except MessageError String} (first : String), x ≠ .error .notKeyed →
      x.map (first ++ ·) ≠ .error .notKeyed := by
    intro x first hx
    cases x with
    | error e => exact fun heq => hx (congrArg Except.error (Except.error.inj heq))
    | ok text => simp [Except.map]
  induction pieces with
  | nil =>
    intro next
    simp [fill_nil_keyed]
  | cons piece rest ih =>
    intro next
    cases piece with
    | literal c => exact fill_literal c rest _ ▸ hmap _ (ih next)
    | entry key =>
      cases hentry : contentAt? entries key with
      | none => simp [fill, Operands.entry, hentry, bind, Except.bind]
      | some v => simpa [fill, Operands.entry, hentry, bind, Except.bind] using ih (some v)
    | value letter position =>
      cases next with
      | none => simp [fill, Operands.next, bind, Except.bind]
      | some v =>
        rw [fill_value_keyed]
        cases htext : directiveText letter position v with
        | error e => exact fun heq => directiveText_ne_notKeyed letter position v (htext.trans heq)
        | ok text => exact hmap text (ih none)
    | unfinished => simp [fill]
    | unclosedKey => simp [fill, Operands.unclosed]

/-- **Filling tells the two apart** exactly if it reaches one of the three places. -/
theorem fill_keyed_eq_iff (entries : List (String × Value)) (pieces : List Piece) :
    ∀ next : Option Value,
      fill pieces (.keyed entries next) = fill pieces (.values next.toList)
        ↔ tellsApart next pieces = false := by
  induction pieces with
  | nil =>
    intro next
    cases next with
    | none => exact iff_of_true rfl rfl
    | some v => exact iff_of_false (fun heq => nomatch heq) Bool.noConfusion
  | cons piece rest ih =>
    intro next
    cases piece with
    | literal c => rw [fill_literal, fill_literal, map_append_inj, ih, tellsApart]
    | entry key =>
      -- A list has no keys, and a dictionary never says that it has none.
      have hvalues : fill (.entry key :: rest) (.values next.toList) = .error .notKeyed := rfl
      rw [hvalues, tellsApart]
      simpa using fill_keyed_ne_notKeyed entries (.entry key :: rest) next
    | value letter position =>
      cases next with
      | none => exact iff_of_true rfl rfl
      | some v =>
        rw [Option.toList_some, fill_value_keyed, fill_value_values, tellsApart,
          ← isOk_directiveText letter position]
        cases directiveText letter position v with
        | error e => exact iff_of_true rfl rfl
        | ok text => exact (map_append_inj text).trans (ih none)
    | unfinished => exact iff_of_true rfl rfl
    | unclosedKey => exact iff_of_false (fun heq => nomatch Except.error.inj heq) Bool.noConfusion

/-- Where the two are told apart, the list makes no message. -/
theorem fill_values_of_tellsApart (pieces : List Piece) :
    ∀ next : Option Value, tellsApart next pieces = true →
      ∃ e, fill pieces (.values next.toList) = .error e := by
  induction pieces with
  | nil =>
    intro next h
    cases next with
    | none => exact absurd h Bool.false_ne_true
    | some v => exact ⟨.tooManyValues, rfl⟩
  | cons piece rest ih =>
    intro next h
    cases piece with
    | literal c =>
      obtain ⟨e, he⟩ := ih next h
      exact ⟨e, by rw [fill_literal, he]; rfl⟩
    | entry key => exact ⟨.notKeyed, rfl⟩
    | value letter position =>
      cases next with
      | none => exact ⟨.tooFewValues, rfl⟩
      | some v =>
        rw [Option.toList_some, fill_value_values]
        cases directiveText letter position v with
        | error e => exact ⟨e, rfl⟩
        | ok text =>
          obtain ⟨e, he⟩ := ih none (Bool.and_eq_true_iff.mp h).2
          rw [Option.toList_none] at he
          exact ⟨e, by rw [he]; rfl⟩
    | unfinished => exact ⟨.unfinished, rfl⟩
    | unclosedKey => exact ⟨.notKeyed, rfl⟩

/-- A piece that is no key and no beginning of one. -/
def Piece.isKeyless : Piece → Bool
  | .entry _ => false
  | .unclosedKey => false
  | _ => true

/-- A piece that stands for itself. -/
def Piece.isLiteral : Piece → Bool
  | .literal _ => true
  | _ => false

/-- Once the value is taken, only a key tells the two apart. -/
theorem tellsApart_none_of_keyless {pieces : List Piece} (h : pieces.all Piece.isKeyless = true) :
    tellsApart none pieces = false := by
  induction pieces with
  | nil => rfl
  | cons piece rest ih =>
    obtain ⟨hpiece, hrest⟩ := Bool.and_eq_true_iff.mp h
    cases piece with
    | literal c => exact ih hrest
    | entry key => exact absurd hpiece Bool.false_ne_true
    | value letter position => rfl
    | unfinished => rfl
    | unclosedKey => exact absurd hpiece Bool.false_ne_true

/-- Without keys, the two are told apart exactly if the value is never taken. -/
theorem tellsApart_some_of_keyless (v : Value) {pieces : List Piece}
    (h : pieces.all Piece.isKeyless = true) :
    tellsApart (some v) pieces = pieces.all Piece.isLiteral := by
  induction pieces with
  | nil => rfl
  | cons piece rest ih =>
    obtain ⟨hpiece, hrest⟩ := Bool.and_eq_true_iff.mp h
    cases piece with
    | literal c => exact ih hrest
    | entry key => exact absurd hpiece Bool.false_ne_true
    | value letter position =>
      rw [tellsApart, tellsApart_none_of_keyless hrest, Bool.and_false]
      rfl
    | unfinished => rfl
    | unclosedKey => exact absurd hpiece Bool.false_ne_true

/-! ## The letters of a format -/

/-- The letters of the directives of a format, if it has no keys and does not end within a
directive. -/
def letters? : List Piece → Option (List Char)
  | [] => some []
  | .literal _ :: rest => letters? rest
  | .value letter _ :: rest => (letters? rest).map (letter :: ·)
  | .entry _ :: _ => none
  | .unfinished :: _ => none
  | .unclosedKey :: _ => none

theorem isOk_map {x : Except MessageError String} (f : String → String) :
    (x.map f).isOk = x.isOk := by
  cases x <;> rfl

/-- **Pieces make a message** exactly if each directive takes the value in its place. -/
theorem isOk_fill_iff (pieces : List Piece) :
    ∀ values : List Value, (fill pieces (.values values)).isOk = true
      ↔ ∃ letters, letters? pieces = some letters
        ∧ List.Forall₂ (fun letter v => takes letter v = true) letters values := by
  induction pieces with
  | nil =>
    intro values
    cases values with
    | nil => exact iff_of_true rfl ⟨[], rfl, .nil⟩
    | cons v vs =>
      refine iff_of_false Bool.false_ne_true ?_
      rintro ⟨letters, hletters, htakes⟩
      obtain rfl := Option.some.inj hletters
      cases htakes
  | cons piece rest ih =>
    intro values
    cases piece with
    | literal c => rw [fill_literal, isOk_map, ih, letters?]
    | value letter position =>
      simp only [letters?, Option.map_eq_some_iff, exists_exists_and_eq_and]
      cases values with
      | nil => simp [fill, Operands.next, bind, Except.bind, Except.isOk, Except.toBool]
      | cons v vs =>
        simp only [List.forall₂_cons, ← isOk_directiveText letter position v]
        rw [fill_value_values]
        cases directiveText letter position v with
        | error e => simp [Except.bind, Except.isOk, Except.toBool]
        | ok text =>
          have htext : (Except.ok text : Except MessageError String).isOk = true := rfl
          simp only [htext, true_and]
          rw [← ih vs]
          exact Bool.eq_iff_iff.mp (isOk_map _)
    | entry key => exact iff_of_false Bool.false_ne_true fun ⟨_, h, _⟩ => nomatch h
    | unfinished => exact iff_of_false Bool.false_ne_true fun ⟨_, h, _⟩ => nomatch h
    | unclosedKey => exact iff_of_false Bool.false_ne_true fun ⟨_, h, _⟩ => nomatch h

end Message

namespace Diagnostic

/-- Whether the message of the diagnostic's record is another one: its only value is a dictionary
with entries, and filling tells that from the operand itself. -/
def isMisread (d : Diagnostic) : Bool :=
  match d.values with
  | [.dict (e :: es)] =>
    Message.tellsApart (some (.dict (e :: es))) (Message.pieces d.format)
  | _ => false

/-- **The message of a record is that of its diagnostic**, unless it is misread. -/
theorem message_record_eq_iff (d : Diagnostic) :
    (LogRecord.ofDiagnostic d).message = d.message ↔ d.isMisread = false := by
  obtain ⟨severity, format, values⟩ := d
  unfold isMisread
  split
  next e es hvalues =>
    obtain rfl : values = [.dict (e :: es)] := hvalues
    exact Message.fill_keyed_eq_iff (e :: es) (Message.pieces format) (some (.dict (e :: es)))
  next hvalues =>
    refine iff_of_true ?_ rfl
    have hoperands : LogRecord.operands values = .values values := by
      unfold LogRecord.operands
      split
      next e es => exact absurd rfl (hvalues e es)
      next => rfl
    rw [LogRecord.ofDiagnostic, LogRecord.format, hoperands]
    rfl

/-- A misread diagnostic has no message of its own. -/
theorem message_of_isMisread {d : Diagnostic} (h : d.isMisread = true) :
    ∃ e, d.message = .error e := by
  obtain ⟨severity, format, values⟩ := d
  unfold isMisread at h
  split at h
  next e es hvalues =>
    obtain rfl : values = [.dict (e :: es)] := hvalues
    exact Message.fill_values_of_tellsApart (Message.pieces format) (some (.dict (e :: es))) h
  next => exact absurd h Bool.false_ne_true

/-- A diagnostic that has a message of its own is recorded with it. -/
theorem message_record_of_ok {d : Diagnostic} {text : String} (h : d.message = .ok text) :
    (LogRecord.ofDiagnostic d).message = .ok text := by
  rw [← h, message_record_eq_iff, ← Bool.not_eq_true]
  intro hmisread
  obtain ⟨e, he⟩ := message_of_isMisread hmisread
  exact absurd (h.symm.trans he) (fun heq => nomatch heq)

/-- **Where the two texts of a diagnostic differ.** The message that is logged for a diagnostic is
its own, text or error, unless it is misread; one that has a text is always logged with it; and in a
format without keys only a dictionary with entries that comes alone and is never taken is misread.
-/
theorem messages_logged (d : Diagnostic) :
    ((Reporter.logging.records d).map (·.message) = [d.message] ↔ d.isMisread = false)
      ∧ (∀ text, d.message = .ok text →
        (Reporter.logging.records d).map (·.message) = [.ok text])
      ∧ ((Message.pieces d.format).all Message.Piece.isKeyless = true →
        (d.isMisread = true ↔ (∃ e es, d.values = [.dict (e :: es)])
          ∧ (Message.pieces d.format).all Message.Piece.isLiteral = true)) := by
  refine ⟨?_, fun text htext => ?_, fun hkeyless => ?_⟩
  · rw [← message_record_eq_iff]
    exact List.singleton_inj
  · exact congrArg (fun m => [m]) (message_record_of_ok htext)
  · obtain ⟨severity, format, values⟩ := d
    unfold isMisread
    split
    next e es hvalues =>
      rw [Message.tellsApart_some_of_keyless _ hkeyless]
      exact ⟨fun h => ⟨⟨e, es, hvalues⟩, h⟩, fun h => h.2⟩
    next hvalues =>
      refine iff_of_false Bool.false_ne_true ?_
      rintro ⟨⟨e, es, heq⟩, -⟩
      exact hvalues e es heq

/-- A note of the fields of a type, and a note that is misread. -/
theorem messages_logged_fields :
    (Reporter.logging.records ⟨.note, "fields = %s", [.list [.text "mName"]]⟩).map (·.message)
        = [.ok "fields = ['mName']"]
      ∧ (⟨.note, "100%%", [.dict [("a", .int 1)]]⟩ : Diagnostic).isMisread = true := by
  obtain ⟨-, hlogged, -⟩ := messages_logged ⟨.note, "fields = %s", [.list [.text "mName"]]⟩
  obtain ⟨-, -, hmisread⟩ := messages_logged ⟨.note, "100%%", [.dict [("a", .int 1)]]⟩
  exact ⟨hlogged _ (by decide), (hmisread (by decide)).mpr ⟨⟨_, _, rfl⟩, by decide⟩⟩

/-- A dictionary that no directive takes is an error of the diagnostic, and is logged over. -/
theorem not_forall_messages_logged :
    (Reporter.logging.records ⟨.note, "done", [.dict [("a", .int 1)]]⟩).map (·.message)
        = [.ok "done"]
      ∧ (⟨.note, "done", [.dict [("a", .int 1)]]⟩ : Diagnostic).message = .error .tooManyValues
      ∧ ¬ ∀ d : Diagnostic, (Reporter.logging.records d).map (·.message) = [d.message] := by
  have hlogged : (Reporter.logging.records ⟨.note, "done", [.dict [("a", .int 1)]]⟩).map
      (·.message) = [.ok "done"] := by decide
  have hown : (⟨.note, "done", [.dict [("a", .int 1)]]⟩ : Diagnostic).message
      = .error .tooManyValues := by decide
  refine ⟨hlogged, hown, fun hall => ?_⟩
  have hsame := hall ⟨.note, "done", [.dict [("a", .int 1)]]⟩
  rw [hlogged, hown] at hsame
  exact absurd (List.singleton_inj.mp hsame) (fun heq => nomatch heq)

end Diagnostic

end RecordForge
