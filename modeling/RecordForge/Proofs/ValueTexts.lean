import Mathlib.Data.List.TakeWhile
import RecordForge.Proofs.Literals
import RecordForge.Proofs.NumberTexts
import RecordForge.Value.Text

/-!
# What the text of a value tells

The text of a value tells its kind and that of everything in it, the truth values, the integers, the
characters of its texts, and the order of its entries; of a floating-point number it tells no more
than the text of that number. So two values have the same text exactly if they are `alike`
(`Value.shown_eq_iff`).

The text of a value can be told from what follows it: a text ends at its closing quote, a container
at its bracket, and everything else at the first character that is no letter, digit, sign or point
(`Value.shown_append_inj`).
-/

namespace RecordForge

open RecordForge.Text RecordForge.Source

/-! ## Quoted texts -/

/-- **A quoted text ends at its closing quote**, and tells its characters. -/
theorem Text.quotedChars_append_inj {cs ds rest rest' : List Char}
    (h : quotedChars cs ++ rest = quotedChars ds ++ rest') : cs = ds ∧ rest = rest' := by
  rw [quotedChars, quotedChars, List.cons_append, List.cons_append, List.append_assoc,
    List.append_assoc, List.singleton_append, List.singleton_append] at h
  obtain ⟨hquote, hbody⟩ := List.cons.inj h
  rw [← hquote] at hbody
  -- Both are read up to the quote that closes the body, and what is behind it is left.
  have hclose : ∀ {es : List Char} (_ : quoteFor es = quoteFor cs) (behind : List Char),
      closeString (quoteFor cs) 1 0 1 (quotedBody es ++ quoteFor cs :: behind)
        = .ok (behind, 1) := by
    intro es hes behind
    rw [← hes, closeString_quotedBody, closeString_quote (isQuote_quoteFor es), if_pos rfl]
  have hrest : rest = rest' := by
    have hread := hclose rfl rest
    rw [hbody, hclose hquote.symm] at hread
    exact (Prod.mk.inj (Except.ok.inj hread)).1.symm
  subst hrest
  have htext : ∀ es : List Char, textOf false (quotedBody es) = .ok (String.ofList es) := by
    intro es
    rw [quotedBody, List.flatMap_def]
    exact textOf_spells (spells_map (spelled_quotedChar (isQuote_quoteFor es)) es)
  have hsame := htext cs
  rw [List.append_cancel_right hbody, htext ds] at hsame
  exact ⟨(String.ofList_inj.mp (Except.ok.inj hsame)).symm, rfl⟩

namespace Value

/-! ## Values of the same parts -/

mutual

/-- Whether two values are written from the same parts: the kinds agree throughout, entries come in
the same order, and floating-point numbers have the same text. -/
def alike : Value → Value → Bool
  | .null, w => match w with
    | .null => true
    | _ => false
  | .bool b, w => match w with
    | .bool c => b = c
    | _ => false
  | .int m, w => match w with
    | .int n => m = n
    | _ => false
  | .float x, w => match w with
    | .float y => Numeral.floatText x = Numeral.floatText y
    | _ => false
  | .text s, w => match w with
    | .text t => s = t
    | _ => false
  | .list vs, w => match w with
    | .list ws => alikeItems vs ws
    | _ => false
  | .dict es, w => match w with
    | .dict fs => alikeEntries es fs
    | _ => false

/-- Whether the items of two lists are alike, one by one. -/
def alikeItems : List Value → List Value → Bool
  | [], ws => ws.isEmpty
  | v :: vs, ws => match ws with
    | [] => false
    | w :: ws => v.alike w && alikeItems vs ws

/-- Whether entries are alike, one by one. -/
def alikeEntries : List (String × Value) → List (String × Value) → Bool
  | [], fs => fs.isEmpty
  | (k, v) :: es, fs => match fs with
    | [] => false
    | (l, w) :: fs => k = l && v.alike w && alikeEntries es fs

end

/-! ## First characters -/

/-- A character of the texts of values without quotes and brackets. -/
def isScalarChar (c : Char) : Bool :=
  c.isAlphanum || "+-.".toList.contains c

/-- What the first character of a text is. -/
inductive Opening where
  | scalar
  | quote
  | bracket
  | brace
  | other
deriving DecidableEq

/-- What a text with this first character begins with. -/
def openingOf (c : Char) : Opening :=
  if c = '[' then .bracket
  else if c = '\x7b' then .brace
  else if isScalarChar c then .scalar
  else if c = singleQuote ∨ c = doubleQuote then .quote
  else .other

/-- What the text of a value begins with. -/
def opening : Value → Opening
  | .text _ => .quote
  | .list _ => .bracket
  | .dict _ => .brace
  | _ => .scalar

theorem openingOf_of_isScalarChar {c : Char} (h : isScalarChar c = true) :
    openingOf c = .scalar := by
  have hbracket : c ≠ '[' := by
    rintro rfl
    exact absurd h (by decide)
  have hbrace : c ≠ '\x7b' := by
    rintro rfl
    exact absurd h (by decide)
  rw [openingOf, if_neg hbracket, if_neg hbrace, if_pos h]

/-! ## Values without parts -/

theorem isScalarChar_of_isFloatChar {c : Char} (h : Numeral.isFloatChar c = true) :
    isScalarChar c = true := by
  have hmarks : "+-.einfa".toList.all isScalarChar = true := by decide
  rw [Numeral.isFloatChar, Bool.or_eq_true, List.contains_iff_mem] at h
  rcases h with h | h
  · simp [isScalarChar, Char.isAlphanum, h]
  · exact List.all_eq_true.mp hmarks c h

/-- The characters of values without parts. -/
theorem isScalarChar_of_mem_shown {v : Value} (hv : v.opening = .scalar) {c : Char}
    (h : c ∈ v.shown.toList) : isScalarChar c = true := by
  have hnull : Value.null.shown.toList.all isScalarChar = true := by decide
  have hbool : ∀ b, (Value.bool b).shown.toList.all isScalarChar = true := by decide
  cases v with
  | null => exact List.all_eq_true.mp hnull c h
  | bool b => exact List.all_eq_true.mp (hbool b) c h
  | int n =>
    have hinteger : Numeral.isIntegerChar c = true := Numeral.isIntegerChar_of_mem_toString h
    exact isScalarChar_of_isFloatChar (Numeral.isFloatChar_of_isIntegerChar hinteger)
  | float x =>
    have hchars := (Numeral.isFloatText_floatText x).1
    exact isScalarChar_of_isFloatChar (List.all_eq_true.mp hchars c h)
  | text s => exact Opening.noConfusion hv
  | list items => exact Opening.noConfusion hv
  | dict entries => exact Opening.noConfusion hv

/-- Whether a value is written in the characters of floating-point numbers, and whether in those of
integers. -/
def numberMarks (v : Value) : Bool × Bool :=
  (v.shown.toList.all Numeral.isFloatChar, v.shown.toList.all Numeral.isIntegerChar)

theorem numberMarks_null : Value.null.numberMarks = (false, false) := by decide

theorem numberMarks_bool (b : Bool) : (Value.bool b).numberMarks = (false, false) := by
  cases b <;> decide

theorem numberMarks_int (n : Int) : (Value.int n).numberMarks = (true, true) := by
  have hinteger : ∀ c ∈ (toString n).toList, Numeral.isIntegerChar c = true :=
    fun c => Numeral.isIntegerChar_of_mem_toString
  have hfloat : ∀ c ∈ (toString n).toList, Numeral.isFloatChar c = true :=
    fun c hc => Numeral.isFloatChar_of_isIntegerChar (hinteger c hc)
  exact Prod.ext (List.all_eq_true.mpr hfloat) (List.all_eq_true.mpr hinteger)

theorem numberMarks_float (x : Binary64) : (Value.float x).numberMarks = (true, false) := by
  obtain ⟨hchars, hmark⟩ := Numeral.isFloatText_floatText x
  exact Prod.ext hchars hmark

/-- Values without parts that have the same text are alike. -/
theorem alike_of_shown_eq_of_scalar {v w : Value} (hv : v.opening = .scalar)
    (hw : w.opening = .scalar) (h : v.shown.toList = w.shown.toList) : v.alike w = true := by
  have hmarks : v.numberMarks = w.numberMarks := by rw [numberMarks, h, numberMarks]
  cases v with
  | null =>
    cases w with
    | null => rfl
    | bool c => exact absurd h (by cases c <;> decide)
    | int n => simp [numberMarks_null, numberMarks_int] at hmarks
    | float y => simp [numberMarks_null, numberMarks_float] at hmarks
    | _ => exact Opening.noConfusion hw
  | bool b =>
    cases w with
    | null => exact absurd h (by cases b <;> decide)
    | bool c => revert h; cases b <;> cases c <;> decide
    | int n => simp [numberMarks_bool, numberMarks_int] at hmarks
    | float y => simp [numberMarks_bool, numberMarks_float] at hmarks
    | _ => exact Opening.noConfusion hw
  | int m =>
    cases w with
    | null => simp [numberMarks_null, numberMarks_int] at hmarks
    | bool c => simp [numberMarks_bool, numberMarks_int] at hmarks
    | int n => exact decide_eq_true (Numeral.toList_toString_injective h)
    | float y => simp [numberMarks_int, numberMarks_float] at hmarks
    | _ => exact Opening.noConfusion hw
  | float x =>
    cases w with
    | null => simp [numberMarks_null, numberMarks_float] at hmarks
    | bool c => simp [numberMarks_bool, numberMarks_float] at hmarks
    | int n => simp [numberMarks_int, numberMarks_float] at hmarks
    | float y => exact decide_eq_true (String.toList_inj.mp h)
    | _ => exact Opening.noConfusion hw
  | _ => exact Opening.noConfusion hv

/-! ## Where texts begin -/

theorem shown_ne_nil_of_scalar {v : Value} (hv : v.opening = .scalar) :
    v.shown.toList ≠ [] := by
  cases v with
  | null => decide
  | bool b => cases b <;> decide
  | int n =>
    cases n with
    | ofNat n =>
      intro h
      exact Nat.toDigits_ne_nil (Nat.toList_repr.symm.trans h)
    | negSucc n =>
      exact fun h => absurd ((Numeral.toList_toString_negSucc n).symm.trans h) (by simp)
  | float x =>
    intro h
    have hmark : (Value.float x).shown.toList.all Numeral.isIntegerChar = false :=
      (Numeral.isFloatText_floatText x).2
    rw [h] at hmark
    exact absurd hmark (by decide)
  | _ => exact Opening.noConfusion hv

theorem toList_shown_text (s : String) :
    (Value.text s).shown.toList = quotedChars s.toList := by
  rw [shown, quoted, String.toList_ofList]

/-- The first character tells whether a value is a text, a list, a dictionary, or none of these. -/
theorem exists_head?_shown (v : Value) :
    ∃ c, v.shown.toList.head? = some c ∧ openingOf c = v.opening := by
  have hscalar : v.opening = .scalar →
      ∃ c, v.shown.toList.head? = some c ∧ openingOf c = v.opening := by
    intro hv
    obtain ⟨c, cs, hshown⟩ := List.exists_cons_of_ne_nil (shown_ne_nil_of_scalar hv)
    have hc : isScalarChar c = true :=
      isScalarChar_of_mem_shown hv (hshown ▸ List.mem_cons_self ..)
    exact ⟨c, by rw [hshown, List.head?_cons], (openingOf_of_isScalarChar hc).trans hv.symm⟩
  cases v with
  | text s =>
    refine ⟨quoteFor s.toList, by rw [toList_shown_text]; rfl, ?_⟩
    rcases isQuote_quoteFor s.toList with h | h <;> rw [h] <;> rfl
  | list items => exact ⟨'[', by rw [shown, String.toList_append, String.toList_append]; rfl, rfl⟩
  | dict entries =>
    exact ⟨'\x7b', by rw [shown, String.toList_append, String.toList_append]; rfl, rfl⟩
  | _ => exact hscalar rfl

/-- No value begins in another way. -/
theorem shown_append_ne_cons (v : Value) {c : Char} (hc : openingOf c = .other)
    (rest cs : List Char) : v.shown.toList ++ rest ≠ c :: cs := by
  intro h
  obtain ⟨d, hd, hopening⟩ := exists_head?_shown v
  have hhead := congrArg List.head? h
  rw [List.head?_append, hd] at hhead
  obtain rfl := Option.some.inj hhead
  rw [hc] at hopening
  cases v <;> exact Opening.noConfusion hopening

/-- Texts that agree up to what follows them begin alike. -/
theorem opening_eq_of_append_eq {v w : Value} {rest rest' : List Char}
    (h : v.shown.toList ++ rest = w.shown.toList ++ rest') : v.opening = w.opening := by
  obtain ⟨c, hc, hopening⟩ := exists_head?_shown v
  obtain ⟨d, hd, hopening'⟩ := exists_head?_shown w
  have hhead := congrArg List.head? h
  rw [List.head?_append, List.head?_append, hc, hd] at hhead
  rw [← hopening, ← hopening', Option.some.inj hhead]

/-! ## Where texts end -/

/-- What follows does not go on with the text of a value without parts. -/
def Ends (rest : List Char) : Prop :=
  ∀ c, rest.head? = some c → isScalarChar c = false

theorem ends_nil : Ends [] := fun _ h => absurd h (by simp)

theorem ends_cons {c : Char} (h : isScalarChar c = false) (rest : List Char) : Ends (c :: rest) :=
  fun _ heq => Option.some.inj heq ▸ h

/-- A text of scalar characters can be told from what follows it. -/
theorem append_inj_of_ends {cs ds rest rest' : List Char}
    (hcs : ∀ c ∈ cs, isScalarChar c = true) (hds : ∀ c ∈ ds, isScalarChar c = true)
    (hrest : Ends rest) (hrest' : Ends rest') (h : cs ++ rest = ds ++ rest') :
    cs = ds ∧ rest = rest' := by
  have htake : ∀ {es behind : List Char}, (∀ c ∈ es, isScalarChar c = true) → Ends behind →
      (es ++ behind).takeWhile isScalarChar = es := by
    intro es behind hes hbehind
    rw [List.takeWhile_append_of_pos hes]
    cases behind with
    | nil => exact List.append_nil es
    | cons c behind => rw [List.takeWhile_cons_of_neg (by simp [hbehind c rfl]), List.append_nil]
  have hsame : cs = ds := by rw [← htake hcs hrest, h, htake hds hrest']
  subst hsame
  exact ⟨rfl, List.append_cancel_left h⟩

/-- The text of a value without parts tells the value, up to where it ends. -/
theorem shown_append_inj_of_scalar (v w : Value) {rest rest' : List Char}
    (hv : v.opening = .scalar) (hrest : Ends rest) (hrest' : Ends rest')
    (h : v.shown.toList ++ rest = w.shown.toList ++ rest') : v.alike w = true ∧ rest = rest' := by
  have hw : w.opening = .scalar := (opening_eq_of_append_eq h).symm.trans hv
  obtain ⟨hsame, hbehind⟩ := append_inj_of_ends (fun c => isScalarChar_of_mem_shown hv)
    (fun c => isScalarChar_of_mem_shown hw) hrest hrest' h
  exact ⟨alike_of_shown_eq_of_scalar hv hw hsame, hbehind⟩

/-! ## Containers -/

/-- What stands behind an item in a list: the other items, each with a comma in front. -/
def itemsBehind : List Value → List Char
  | [] => []
  | v :: vs => ',' :: ' ' :: (v.shown.toList ++ itemsBehind vs)

/-- What stands behind an entry in a dictionary: the other entries, each with a comma in front. -/
def entriesBehind : List (String × Value) → List Char
  | [] => []
  | (k, v) :: es =>
    ',' :: ' ' :: (quotedChars k.toList ++ (':' :: ' ' :: (v.shown.toList ++ entriesBehind es)))

theorem toList_shownItems_cons (v : Value) (vs : List Value) :
    (shownItems (v :: vs)).toList = v.shown.toList ++ itemsBehind vs := by
  induction vs generalizing v with
  | nil => rw [shownItems, itemsBehind, List.append_nil]
  | cons w vs ih =>
    rw [shownItems, String.toList_append, String.toList_append, ih w, itemsBehind,
      List.append_assoc]
    · rfl
    · exact List.cons_ne_nil _ _

/-- The items of a list are the later items of one that has another in front. -/
theorem toList_shownItems (vs : List Value) :
    (shownItems vs).toList = (itemsBehind vs).drop 2 := by
  cases vs with
  | nil => rfl
  | cons v vs => exact toList_shownItems_cons v vs

theorem toList_shownEntries_cons (k : String) (v : Value) (es : List (String × Value)) :
    (shownEntries ((k, v) :: es)).toList
      = quotedChars k.toList ++ (':' :: ' ' :: (v.shown.toList ++ entriesBehind es)) := by
  induction es generalizing k v with
  | nil =>
    rw [shownEntries, String.toList_append, String.toList_append, quoted, String.toList_ofList,
      entriesBehind, List.append_nil, List.append_assoc]
    rfl
  | cons e es ih =>
    obtain ⟨l, w⟩ := e
    rw [shownEntries, String.toList_append, String.toList_append, String.toList_append,
      String.toList_append, ih l w, quoted, String.toList_ofList, entriesBehind]
    · simp only [List.append_assoc]
      rfl
    · exact List.cons_ne_nil _ _

theorem toList_shownEntries (es : List (String × Value)) :
    (shownEntries es).toList = (entriesBehind es).drop 2 := by
  cases es with
  | nil => rfl
  | cons e es => exact toList_shownEntries_cons e.1 e.2 es

theorem toList_shown_list (vs : List Value) (rest : List Char) :
    (Value.list vs).shown.toList ++ rest = '[' :: ((shownItems vs).toList ++ ']' :: rest) := by
  rw [shown, String.toList_append, String.toList_append, List.append_assoc, List.append_assoc]
  rfl

theorem toList_shown_dict (es : List (String × Value)) (rest : List Char) :
    (Value.dict es).shown.toList ++ rest
      = '\x7b' :: ((shownEntries es).toList ++ '\x7d' :: rest) := by
  rw [shown, String.toList_append, String.toList_append, List.append_assoc, List.append_assoc]
  rfl

theorem ends_itemsBehind (vs : List Value) (rest : List Char) :
    Ends (itemsBehind vs ++ ']' :: rest) := by
  cases vs <;> exact ends_cons (by decide) _

theorem ends_entriesBehind (es : List (String × Value)) (rest : List Char) :
    Ends (entriesBehind es ++ '\x7d' :: rest) := by
  cases es <;> exact ends_cons (by decide) _

/-- The first items of two lists can be taken for later ones. -/
theorem itemsBehind_eq_of_shownItems {vs ws : List Value} {rest rest' : List Char}
    (h : (shownItems vs).toList ++ ']' :: rest = (shownItems ws).toList ++ ']' :: rest') :
    itemsBehind vs ++ ']' :: rest = itemsBehind ws ++ ']' :: rest' := by
  cases vs with
  | nil =>
    cases ws with
    | nil => exact h
    | cons w ws =>
      rw [toList_shownItems_cons, List.append_assoc] at h
      exact absurd h.symm (shown_append_ne_cons w (by decide) _ _)
  | cons v vs =>
    rw [toList_shownItems_cons] at h
    cases ws with
    | nil =>
      rw [List.append_assoc] at h
      exact absurd h (shown_append_ne_cons v (by decide) _ _)
    | cons w ws =>
      rw [toList_shownItems_cons] at h
      exact congrArg (',' :: ' ' :: ·) h

/-- The first entries of two dictionaries can be taken for later ones. -/
theorem entriesBehind_eq_of_shownEntries {es fs : List (String × Value)} {rest rest' : List Char}
    (h : (shownEntries es).toList ++ '\x7d' :: rest = (shownEntries fs).toList ++ '\x7d' :: rest') :
    entriesBehind es ++ '\x7d' :: rest = entriesBehind fs ++ '\x7d' :: rest' := by
  have hquote : ∀ {k : String} {cs ds : List Char}, quotedChars k.toList ++ cs ≠ '\x7d' :: ds := by
    intro k cs ds heq
    have hhead := (List.cons.inj heq).1
    rcases isQuote_quoteFor k.toList with hq | hq <;> rw [hq] at hhead <;>
      exact absurd hhead (by decide)
  cases es with
  | nil =>
    cases fs with
    | nil => exact h
    | cons f fs =>
      rw [toList_shownEntries_cons, List.append_assoc] at h
      exact absurd h.symm hquote
  | cons e es =>
    rw [toList_shownEntries_cons] at h
    cases fs with
    | nil =>
      rw [List.append_assoc] at h
      exact absurd h hquote
    | cons f fs =>
      rw [toList_shownEntries_cons] at h
      exact congrArg (',' :: ' ' :: ·) h

mutual

/-- **The text of a value tells its parts**, and where it ends. -/
theorem shown_append_inj : ∀ (v w : Value) (rest rest' : List Char), Ends rest → Ends rest' →
    v.shown.toList ++ rest = w.shown.toList ++ rest' → v.alike w = true ∧ rest = rest'
  | .list vs => by
    intro w rest rest' _ _ h
    have hopening := opening_eq_of_append_eq h
    cases w with
    | list ws =>
      rw [toList_shown_list, toList_shown_list] at h
      exact itemsBehind_append_inj vs ws rest rest'
        (itemsBehind_eq_of_shownItems (List.cons.inj h).2)
    | _ => exact Opening.noConfusion hopening
  | .dict es => by
    intro w rest rest' _ _ h
    have hopening := opening_eq_of_append_eq h
    cases w with
    | dict fs =>
      rw [toList_shown_dict, toList_shown_dict] at h
      exact entriesBehind_append_inj es fs rest rest'
        (entriesBehind_eq_of_shownEntries (List.cons.inj h).2)
    | _ => exact Opening.noConfusion hopening
  | .text s => by
    intro w rest rest' _ _ h
    have hopening := opening_eq_of_append_eq h
    cases w with
    | text t =>
      rw [toList_shown_text, toList_shown_text] at h
      obtain ⟨htext, hrest⟩ := quotedChars_append_inj h
      exact ⟨decide_eq_true (String.toList_inj.mp htext), hrest⟩
    | _ => exact Opening.noConfusion hopening
  | .null => fun w _ _ => shown_append_inj_of_scalar .null w rfl
  | .bool b => fun w _ _ => shown_append_inj_of_scalar (.bool b) w rfl
  | .int n => fun w _ _ => shown_append_inj_of_scalar (.int n) w rfl
  | .float x => fun w _ _ => shown_append_inj_of_scalar (.float x) w rfl

/-- The text of a list tells its items, up to its bracket. -/
theorem itemsBehind_append_inj : ∀ (vs ws : List Value) (rest rest' : List Char),
    itemsBehind vs ++ ']' :: rest = itemsBehind ws ++ ']' :: rest' →
      alikeItems vs ws = true ∧ rest = rest'
  | [], [], _, _, h => ⟨rfl, (List.cons.inj h).2⟩
  | [], _ :: _, _, _, h => absurd (List.cons.inj h).1 (by decide)
  | _ :: _, [], _, _, h => absurd (List.cons.inj h).1 (by decide)
  | v :: vs, w :: ws, rest, rest', h => by
    have htexts := (List.cons.inj (List.cons.inj h).2).2
    rw [List.append_eq, List.append_eq, List.append_assoc, List.append_assoc] at htexts
    obtain ⟨hv, hbehind⟩ := shown_append_inj v w _ _ (ends_itemsBehind vs rest)
      (ends_itemsBehind ws rest') htexts
    obtain ⟨hvs, hrest⟩ := itemsBehind_append_inj vs ws rest rest' hbehind
    exact ⟨by rw [alikeItems, hv, hvs, Bool.and_self], hrest⟩

/-- The text of a dictionary tells its entries, up to its brace. -/
theorem entriesBehind_append_inj : ∀ (es fs : List (String × Value)) (rest rest' : List Char),
    entriesBehind es ++ '\x7d' :: rest = entriesBehind fs ++ '\x7d' :: rest' →
      alikeEntries es fs = true ∧ rest = rest'
  | [], [], _, _, h => ⟨rfl, (List.cons.inj h).2⟩
  | [], _ :: _, _, _, h => absurd (List.cons.inj h).1 (by decide)
  | _ :: _, [], _, _, h => absurd (List.cons.inj h).1 (by decide)
  | (k, v) :: es, (l, w) :: fs, rest, rest', h => by
    have htexts := (List.cons.inj (List.cons.inj h).2).2
    rw [List.append_eq, List.append_eq, List.append_assoc, List.append_assoc] at htexts
    obtain ⟨hkey, hcontent⟩ := quotedChars_append_inj htexts
    have hcontents := (List.cons.inj (List.cons.inj hcontent).2).2
    rw [List.append_eq, List.append_eq, List.append_assoc, List.append_assoc] at hcontents
    obtain ⟨hv, hbehind⟩ := shown_append_inj v w _ _ (ends_entriesBehind es rest)
      (ends_entriesBehind fs rest') hcontents
    obtain ⟨hes, hrest⟩ := entriesBehind_append_inj es fs rest rest' hbehind
    exact ⟨by simp [alikeEntries, String.toList_inj.mp hkey, hv, hes], hrest⟩

end

/-! ## Values with the same text -/

mutual

/-- Alike values have the same text. -/
theorem shown_eq_of_alike : ∀ (v w : Value), v.alike w = true → v.shown = w.shown
  | .null, w, h => by
    cases w with
    | null => rfl
    | _ => cases h
  | .bool b, w, h => by
    cases w with
    | bool c => rw [of_decide_eq_true h]
    | _ => cases h
  | .int m, w, h => by
    cases w with
    | int n => rw [of_decide_eq_true h]
    | _ => cases h
  | .float x, w, h => by
    cases w with
    | float y => exact of_decide_eq_true h
    | _ => cases h
  | .text s, w, h => by
    cases w with
    | text t => rw [of_decide_eq_true h]
    | _ => cases h
  | .list vs, w, h => by
    cases w with
    | list ws =>
      have hitems : shownItems vs = shownItems ws := by
        rw [← String.toList_inj, toList_shownItems, toList_shownItems,
          itemsBehind_eq_of_alike vs ws h]
      rw [shown, shown, hitems]
    | _ => cases h
  | .dict es, w, h => by
    cases w with
    | dict fs =>
      have hentries : shownEntries es = shownEntries fs := by
        rw [← String.toList_inj, toList_shownEntries, toList_shownEntries,
          entriesBehind_eq_of_alike es fs h]
      rw [shown, shown, hentries]
    | _ => cases h

theorem itemsBehind_eq_of_alike : ∀ vs ws : List Value, alikeItems vs ws = true →
    itemsBehind vs = itemsBehind ws
  | [], [], _ => rfl
  | v :: vs, w :: ws, h => by
    obtain ⟨hv, hvs⟩ := Bool.and_eq_true_iff.mp h
    rw [itemsBehind, itemsBehind, shown_eq_of_alike v w hv, itemsBehind_eq_of_alike vs ws hvs]

theorem entriesBehind_eq_of_alike : ∀ es fs : List (String × Value), alikeEntries es fs = true →
    entriesBehind es = entriesBehind fs
  | [], [], _ => rfl
  | (k, v) :: es, (l, w) :: fs, h => by
    obtain ⟨hkv, hes⟩ := Bool.and_eq_true_iff.mp h
    obtain ⟨hk, hv⟩ := Bool.and_eq_true_iff.mp hkv
    rw [entriesBehind, entriesBehind, of_decide_eq_true hk, shown_eq_of_alike v w hv,
      entriesBehind_eq_of_alike es fs hes]

end

/-- **Two values have the same text exactly if they are alike.** -/
theorem shown_eq_iff {v w : Value} : v.shown = w.shown ↔ v.alike w = true := by
  refine ⟨fun h => ?_, shown_eq_of_alike v w⟩
  exact (shown_append_inj v w [] [] ends_nil ends_nil (by rw [h])).1

end Value

end RecordForge
