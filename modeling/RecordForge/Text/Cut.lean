/-!
# Cutting text

Cutting a text at every occurrence of a mark, and joining parts with a mark between them. Joining
the parts of a cut gives the text back, and cutting joined parts gives the parts back if none holds
the mark.
-/

namespace RecordForge.Text

/-- Cuts a text at every occurrence of a character. -/
def cutAt (mark : Char) : List Char → List (List Char)
  | [] => [[]]
  | c :: rest =>
    if c = mark then [] :: cutAt mark rest
    else match cutAt mark rest with
      | part :: parts => (c :: part) :: parts
      | [] => [[c]]

/-- Joins parts with a character between them. -/
def joinWith (mark : Char) : List (List Char) → List Char
  | [] => []
  | [part] => part
  | part :: parts => part ++ mark :: joinWith mark parts

theorem joinWith_cons_cons (mark : Char) (part next : List Char) (parts : List (List Char)) :
    joinWith mark (part :: next :: parts) = part ++ mark :: joinWith mark (next :: parts) := rfl

theorem cutAt_ne_nil (mark : Char) (cs : List Char) : cutAt mark cs ≠ [] := by
  cases cs with
  | nil => simp [cutAt]
  | cons c rest =>
    simp only [cutAt]
    split
    · simp
    · split <;> simp

/-- Nothing is lost by cutting. -/
theorem joinWith_cutAt (mark : Char) (cs : List Char) : joinWith mark (cutAt mark cs) = cs := by
  induction cs with
  | nil => rfl
  | cons c rest ih =>
    simp only [cutAt]
    split
    next h =>
      subst h
      cases hc : cutAt c rest with
      | nil => exact absurd hc (cutAt_ne_nil c rest)
      | cons part parts => rw [hc] at ih; simp [joinWith, ih]
    next h =>
      cases hc : cutAt mark rest with
      | nil => exact absurd hc (cutAt_ne_nil mark rest)
      | cons part parts =>
        rw [hc] at ih
        cases parts with
        | nil => simpa [joinWith] using ih
        | cons p ps => simpa [joinWith] using ih

/-- Joining adds no character other than the mark. -/
theorem mem_joinWith {mark c : Char} {parts : List (List Char)} (h : c ∈ joinWith mark parts) :
    c = mark ∨ ∃ part ∈ parts, c ∈ part := by
  induction parts with
  | nil => exact absurd h (by simp [joinWith])
  | cons part rest ih =>
    cases rest with
    | nil => exact Or.inr ⟨part, List.mem_cons_self .., h⟩
    | cons next rest =>
      rw [joinWith_cons_cons] at h
      rcases List.mem_append.mp h with hin | hin
      · exact Or.inr ⟨part, List.mem_cons_self .., hin⟩
      · rcases List.mem_cons.mp hin with rfl | hin
        · exact Or.inl rfl
        · rcases ih hin with rfl | ⟨p, hp, hc⟩
          · exact Or.inl rfl
          · exact Or.inr ⟨p, List.mem_cons_of_mem _ hp, hc⟩

/-- A part does not hold the mark, and holds only characters of the text. -/
theorem of_mem_cutAt {mark : Char} {cs part : List Char} (h : part ∈ cutAt mark cs) :
    mark ∉ part ∧ ∀ c ∈ part, c ∈ cs := by
  induction cs generalizing part with
  | nil =>
    obtain rfl := List.mem_singleton.mp h
    exact ⟨List.not_mem_nil, fun _ hc => hc⟩
  | cons c rest ih =>
    rw [cutAt] at h
    split at h
    next =>
      rcases List.mem_cons.mp h with rfl | hrest
      · exact ⟨List.not_mem_nil, fun _ hc => absurd hc List.not_mem_nil⟩
      · exact ⟨(ih hrest).1, fun d hd => List.mem_cons_of_mem _ ((ih hrest).2 d hd)⟩
    next hc =>
      cases hcut : cutAt mark rest with
      | nil => exact absurd hcut (cutAt_ne_nil mark rest)
      | cons first others =>
        simp only [hcut] at h ih
        rcases List.mem_cons.mp h with rfl | hothers
        · obtain ⟨hmark, hsub⟩ := ih (List.mem_cons_self ..)
          refine ⟨?_, ?_⟩
          · rw [List.mem_cons, not_or]
            exact ⟨Ne.symm hc, hmark⟩
          · exact List.cons_subset_cons c hsub
        · obtain ⟨hmark, hsub⟩ := ih (List.mem_cons_of_mem _ hothers)
          exact ⟨hmark, fun d hd => List.mem_cons_of_mem _ (hsub d hd)⟩

/-- A text without the mark is one part. -/
theorem cutAt_of_not_mem {mark : Char} {cs : List Char} (h : mark ∉ cs) : cutAt mark cs = [cs] := by
  induction cs with
  | nil => rfl
  | cons c rest ih =>
    rw [List.mem_cons, not_or] at h
    rw [cutAt, if_neg (Ne.symm h.1), ih h.2]

/-- The first mark ends the first part. -/
theorem cutAt_append_mark {mark : Char} {part : List Char} (h : mark ∉ part) (rest : List Char) :
    cutAt mark (part ++ mark :: rest) = part :: cutAt mark rest := by
  induction part with
  | nil => rw [List.nil_append, cutAt, if_pos rfl]
  | cons c part ih =>
    rw [List.mem_cons, not_or] at h
    rw [List.cons_append, cutAt, if_neg (Ne.symm h.1), ih h.2]

/-- Parts without the mark can be read back from the text that joins them. -/
theorem cutAt_joinWith {mark : Char} {parts : List (List Char)} (hne : parts ≠ [])
    (h : ∀ part ∈ parts, mark ∉ part) : cutAt mark (joinWith mark parts) = parts := by
  induction parts with
  | nil => exact absurd rfl hne
  | cons part parts ih =>
    obtain ⟨hpart, hparts⟩ := List.forall_mem_cons.mp h
    cases parts with
    | nil => exact cutAt_of_not_mem hpart
    | cons next parts =>
      rw [joinWith_cons_cons, cutAt_append_mark hpart, ih (List.cons_ne_nil _ _) hparts]

/-- Joining and changing each character. -/
theorem map_joinWith (f : Char → Char) (mark : Char) (parts : List (List Char)) :
    (joinWith mark parts).map f = joinWith (f mark) (parts.map (·.map f)) := by
  induction parts with
  | nil => rfl
  | cons part parts ih =>
    cases parts with
    | nil => rfl
    | cons next parts =>
      rw [joinWith_cons_cons, List.map_append, List.map_cons, ih]
      rfl

/-- The parts of a string between marks. -/
def parts (mark : Char) (s : String) : List String :=
  (cutAt mark s.toList).map String.ofList

/-- The strings with a mark between them. -/
def joined (mark : Char) (ss : List String) : String :=
  String.ofList (joinWith mark (ss.map String.toList))

end RecordForge.Text
