/-!
# Ordered entries

Maps as lists of entries in the order in which their keys were first written. A write to a key that
is there already keeps its place and replaces its content, so the keys stay distinct and no write
moves another entry.
-/

namespace RecordForge

variable {κ α : Type} [DecidableEq κ]

/-- Puts an entry into an insertion-ordered list of entries: a key that is there already keeps its
place and takes the new content. -/
def putEntry (entries : List (κ × α)) (key : κ) (content : α) :
    List (κ × α) :=
  match entries with
  | [] => [(key, content)]
  | (k, c) :: rest => if k = key then (k, content) :: rest else (k, c) :: putEntry rest key content

/-- Looks up the entry of a key. -/
def contentAt? (entries : List (κ × α)) (key : κ) : Option α :=
  match entries with
  | [] => none
  | (k, c) :: rest => if k = key then some c else contentAt? rest key

/-- Reading a key after a write: the new content for the key written, the old one for all others. -/
theorem contentAt?_putEntry (entries : List (κ × α)) (key k : κ) (content : α) :
    contentAt? (putEntry entries key content) k
      = if k = key then some content else contentAt? entries k := by
  induction entries with
  | nil =>
    by_cases h : k = key
    · simp [putEntry, contentAt?, h]
    · simp [putEntry, contentAt?, h, Ne.symm h]
  | cons e rest ih =>
    obtain ⟨k', c'⟩ := e
    by_cases hk : k' = key
    · by_cases h : k = key
      · simp [putEntry, contentAt?, hk, h]
      · simp [putEntry, contentAt?, hk, h, Ne.symm h]
    · by_cases h : k' = k
      · subst h
        simp [putEntry, contentAt?, hk]
      · simp [putEntry, contentAt?, hk, h, ih]

/-- The keys after a write: unchanged if the key was there, and otherwise with it at the end. -/
theorem keys_putEntry (entries : List (κ × α)) (key : κ) (content : α) :
    (putEntry entries key content).map Prod.fst
      = if key ∈ entries.map Prod.fst then entries.map Prod.fst
        else entries.map Prod.fst ++ [key] := by
  induction entries with
  | nil => simp [putEntry]
  | cons e rest ih =>
    obtain ⟨k, c⟩ := e
    by_cases hk : k = key
    · simp [putEntry, hk]
    · by_cases hm : key ∈ rest.map Prod.fst
      · simp only [putEntry, if_neg hk, List.map_cons, ih, List.mem_cons, hm, or_true, if_true]
      · have hne : ¬ (key = k ∨ key ∈ rest.map Prod.fst) := by
          intro h
          cases h with
          | inl e => exact hk e.symm
          | inr e => exact hm e
        simp only [putEntry, if_neg hk, List.map_cons, ih, if_neg hm, List.mem_cons, if_neg hne,
          List.cons_append]

/-- Writing entries one after the other. -/
def putEntries (entries : List (κ × α)) (more : List (κ × α)) : List (κ × α) :=
  more.foldl (fun es e => putEntry es e.1 e.2) entries

@[simp] theorem putEntries_nil (entries : List (κ × α)) : putEntries entries [] = entries := rfl

/-- Two runs of writes are one. -/
theorem putEntries_append (entries a b : List (κ × α)) :
    putEntries entries (a ++ b) = putEntries (putEntries entries a) b := by
  simp [putEntries]

end RecordForge
