import Mathlib.Data.List.Dedup
import RecordForge.Entries
import RecordForge.Proofs.FirstOccurrences

/-!
# Ordered entries: look-up and fresh writes

What a list of entries answers, said by its keys: a key has a content exactly when some entry has
it (`contentAt?_eq_none_iff`), with distinct keys every entry is found (`contentAt?_of_mem`), and
writes to keys that are not there yet append (`putEntries_eq_append`). Of several writes of a key
the first one fixes its place (`keys_putEntries_nil`) and the last one counts
(`contentAt?_putEntries`), and then entries are lost (`length_putEntries_nil_iff`). Two lists of
entries with the same distinct keys in the same order and the same answers are one list
(`entries_ext`).
-/

namespace RecordForge

variable {κ α β : Type} [DecidableEq κ]

/-- A key has no content exactly when no entry has that key. -/
theorem contentAt?_eq_none_iff {entries : List (κ × α)} {key : κ} :
    contentAt? entries key = none ↔ key ∉ entries.map Prod.fst := by
  induction entries with
  | nil => simp [contentAt?]
  | cons e rest ih =>
    obtain ⟨k, c⟩ := e
    by_cases hk : k = key
    · simp [contentAt?, hk]
    · rw [contentAt?, if_neg hk, ih]
      simp [Ne.symm hk]

/-- The content of a key stands in an entry with that key. -/
theorem mem_of_contentAt? {entries : List (κ × α)} {key : κ} {content : α}
    (h : contentAt? entries key = some content) : (key, content) ∈ entries := by
  induction entries with
  | nil => exact absurd h (by simp [contentAt?])
  | cons e rest ih =>
    obtain ⟨k, c⟩ := e
    by_cases hk : k = key
    · rw [contentAt?, if_pos hk] at h
      simp only [Option.some.injEq] at h
      rw [hk, h]
      exact List.mem_cons_self ..
    · rw [contentAt?, if_neg hk] at h
      exact List.mem_cons_of_mem _ (ih h)

/-- With distinct keys every entry is found. -/
theorem contentAt?_of_mem {entries : List (κ × α)} {key : κ} {content : α}
    (hkeys : (entries.map Prod.fst).Nodup) (h : (key, content) ∈ entries) :
    contentAt? entries key = some content := by
  induction entries with
  | nil => exact absurd h (by simp)
  | cons e rest ih =>
    obtain ⟨k, c⟩ := e
    rw [List.map_cons, List.nodup_cons] at hkeys
    obtain ⟨hk, hrest⟩ := hkeys
    rcases List.mem_cons.mp h with heq | hin
    · obtain ⟨rfl, rfl⟩ := Prod.mk.inj heq
      rw [contentAt?, if_pos rfl]
    · have hne : k ≠ key := by
        intro e
        subst e
        exact hk (List.mem_map.mpr ⟨(k, content), hin, rfl⟩)
      rw [contentAt?, if_neg hne]
      exact ih hrest hin

/-- With distinct keys, the contents are the entries. -/
theorem contentAt?_eq_some_iff {entries : List (κ × α)} (hkeys : (entries.map Prod.fst).Nodup)
    {key : κ} {content : α} : contentAt? entries key = some content ↔ (key, content) ∈ entries :=
  ⟨mem_of_contentAt?, contentAt?_of_mem hkeys⟩

/-- With distinct keys, the order of the entries makes no difference. -/
theorem contentAt?_perm {as bs : List (κ × α)} (hperm : as.Perm bs)
    (hkeys : (as.map Prod.fst).Nodup) (key : κ) : contentAt? as key = contentAt? bs key := by
  have hkeys' : (bs.map Prod.fst).Nodup := (hperm.map Prod.fst).nodup_iff.mp hkeys
  ext content
  rw [contentAt?_eq_some_iff hkeys, contentAt?_eq_some_iff hkeys', hperm.mem_iff]

/-- With distinct keys, what the keys answer in turn are the contents. -/
theorem map_contentAt?_keys {entries : List (κ × α)} (hkeys : (entries.map Prod.fst).Nodup) :
    (entries.map Prod.fst).map (contentAt? entries) = (entries.map Prod.snd).map some := by
  rw [List.map_map, List.map_map]
  exact List.map_congr_left fun e he => contentAt?_of_mem hkeys he

/-- Entries made from items with distinct keys: each item is found under its key. -/
theorem contentAt?_map {items : List β} {key : β → κ} {content : β → α}
    (hkeys : (items.map key).Nodup) {b : β} (hb : b ∈ items) :
    contentAt? (items.map fun b => (key b, content b)) (key b) = some (content b) := by
  apply contentAt?_of_mem
  · rw [List.map_map]
    exact hkeys
  · exact List.mem_map_of_mem hb

/-- Contents that all change in one way. -/
theorem contentAt?_map_content (entries : List (κ × α)) (f : α → β) (key : κ) :
    contentAt? (entries.map fun e => (e.1, f e.2)) key = (contentAt? entries key).map f := by
  induction entries with
  | nil => rfl
  | cons e rest ih =>
    obtain ⟨k, c⟩ := e
    by_cases hk : k = key
    · simp [contentAt?, hk]
    · simp [contentAt?, hk, ih]

/-! ## Writes -/

/-- A write to a new key appends. -/
theorem putEntry_eq_append {entries : List (κ × α)} {key : κ} (content : α)
    (h : key ∉ entries.map Prod.fst) :
    putEntry entries key content = entries ++ [(key, content)] := by
  induction entries with
  | nil => rfl
  | cons e rest ih =>
    obtain ⟨k, c⟩ := e
    simp only [List.map_cons, List.mem_cons, not_or] at h
    rw [putEntry, if_neg (Ne.symm h.1), ih h.2, List.cons_append]

/-- After a write there is the entry written, and otherwise only what was there before. -/
theorem mem_of_mem_putEntry {entries : List (κ × α)} {key : κ} {content : α} {e : κ × α}
    (h : e ∈ putEntry entries key content) : e = (key, content) ∨ e ∈ entries := by
  induction entries with
  | nil => exact Or.inl (List.mem_singleton.mp h)
  | cons first rest ih =>
    obtain ⟨k, c⟩ := first
    rw [putEntry] at h
    split at h
    next hk =>
      subst hk
      rcases List.mem_cons.mp h with rfl | hrest
      · exact Or.inl rfl
      · exact Or.inr (List.mem_cons_of_mem _ hrest)
    next =>
      rcases List.mem_cons.mp h with rfl | hrest
      · exact Or.inr (List.mem_cons_self ..)
      · rcases ih hrest with rfl | hold
        · exact Or.inl rfl
        · exact Or.inr (List.mem_cons_of_mem _ hold)

/-- After several writes there are the entries written and those that were there before, and no
others. -/
theorem mem_of_mem_putEntries {entries more : List (κ × α)} {e : κ × α}
    (h : e ∈ putEntries entries more) : e ∈ entries ∨ e ∈ more := by
  induction more generalizing entries with
  | nil => exact Or.inl h
  | cons first rest ih =>
    rcases ih h with hput | hrest
    · rcases mem_of_mem_putEntry hput with rfl | hold
      · exact Or.inr (List.mem_cons_self ..)
      · exact Or.inl hold
    · exact Or.inr (List.mem_cons_of_mem _ hrest)

/-- Writing keeps the keys distinct. -/
theorem nodup_keys_putEntry {entries : List (κ × α)} (key : κ) (content : α)
    (h : (entries.map Prod.fst).Nodup) : ((putEntry entries key content).map Prod.fst).Nodup := by
  rw [keys_putEntry]
  by_cases hm : key ∈ entries.map Prod.fst
  · rw [if_pos hm]
    exact h
  · rw [if_neg hm, List.nodup_append]
    refine ⟨h, by simp, ?_⟩
    intro a ha b hb hab
    rw [List.mem_singleton] at hb
    exact hm (hb ▸ hab ▸ ha)

/-- The keys after several writes are the old ones and those written. -/
theorem mem_keys_putEntries {entries more : List (κ × α)} {key : κ} :
    key ∈ (putEntries entries more).map Prod.fst
      ↔ key ∈ entries.map Prod.fst ∨ key ∈ more.map Prod.fst := by
  induction more generalizing entries with
  | nil => simp
  | cons e rest ih =>
    have hstep : putEntries entries (e :: rest) = putEntries (putEntry entries e.1 e.2) rest := rfl
    rw [hstep, ih, keys_putEntry]
    by_cases hm : e.1 ∈ entries.map Prod.fst
    · rw [if_pos hm]
      grind
    · rw [if_neg hm]
      grind

/-- After one content was written to several keys, these have it and all others are as before. -/
theorem contentAt?_putEntries_const {entries : List (κ × α)} {keys : List κ} {content : α}
    {key : κ} :
    contentAt? (putEntries entries (keys.map (·, content))) key
      = if key ∈ keys then some content else contentAt? entries key := by
  induction keys generalizing entries with
  | nil => simp
  | cons k keys ih =>
    have hstep : putEntries entries ((k :: keys).map (·, content))
        = putEntries (putEntry entries k content) (keys.map (·, content)) := rfl
    rw [hstep, ih, contentAt?_putEntry]
    by_cases hin : key ∈ keys
    · simp [hin]
    · by_cases hk : key = k
      · simp [hk]
      · simp [hin, hk]

/-- Writes to new and distinct keys append. -/
theorem putEntries_eq_append {entries more : List (κ × α)} (hmore : (more.map Prod.fst).Nodup)
    (hnew : ∀ key ∈ more.map Prod.fst, key ∉ entries.map Prod.fst) :
    putEntries entries more = entries ++ more := by
  induction more generalizing entries with
  | nil => simp
  | cons e rest ih =>
    obtain ⟨k, c⟩ := e
    rw [List.map_cons, List.nodup_cons] at hmore
    obtain ⟨hk, hrest⟩ := hmore
    have hstep : putEntries entries ((k, c) :: rest) = putEntries (putEntry entries k c) rest := rfl
    rw [hstep, putEntry_eq_append c (hnew k (by simp)), ih hrest]
    · simp
    · intro key hkey
      have hne : key ≠ k := fun h => hk (h ▸ hkey)
      have hold := hnew key (by simp [hkey])
      simpa [hne] using hold

/-- Entries with distinct keys are what writing them one after the other gives. -/
theorem putEntries_nil_eq {more : List (κ × α)} (hmore : (more.map Prod.fst).Nodup) :
    putEntries [] more = more := by
  have happend : putEntries [] more = [] ++ more := putEntries_eq_append hmore (by simp)
  simpa using happend

/-- Writing several entries keeps the keys distinct. -/
theorem nodup_keys_putEntries {entries more : List (κ × α)} (h : (entries.map Prod.fst).Nodup) :
    ((putEntries entries more).map Prod.fst).Nodup := by
  induction more generalizing entries with
  | nil => exact h
  | cons e rest ih => exact ih (nodup_keys_putEntry e.1 e.2 h)

/-- After writes to nothing the keys are those written, each once, in the order in which they were
first written. -/
theorem keys_putEntries_nil (more : List (κ × α)) :
    (putEntries [] more).map Prod.fst = (more.map Prod.fst).eraseDups := by
  -- From the end of the writes: the last one either finds its key or adds it behind the others.
  induction more using List.reverseRecOn with
  | nil => rfl
  | append_singleton more e ih =>
    have hstep : putEntries [] (more ++ [e]) = putEntry (putEntries [] more) e.1 e.2 :=
      putEntries_append [] more [e]
    rw [hstep, keys_putEntry, ih, List.map_append, List.map_singleton, eraseDups_concat]
    simp only [List.mem_eraseDups]

/-- Nothing is lost exactly if no key is written twice. -/
theorem length_putEntries_nil_iff {more : List (κ × α)} :
    (putEntries [] more).length = more.length ↔ (more.map Prod.fst).Nodup := by
  have hperm : ((putEntries [] more).map Prod.fst).Perm (more.map Prod.fst).dedup := by
    rw [List.perm_ext_iff_of_nodup (nodup_keys_putEntries (by simp)) (List.nodup_dedup _)]
    intro key
    rw [mem_keys_putEntries, List.mem_dedup]
    simp
  have hlength : (putEntries [] more).length = (more.map Prod.fst).dedup.length := by
    rw [← hperm.length_eq, List.length_map]
  constructor
  · intro hsame
    rw [← List.dedup_eq_self]
    refine (List.dedup_sublist _).eq_of_length ?_
    rw [← hlength, hsame, List.length_map]
  · intro hmore
    rw [putEntries_nil_eq hmore]

/-- **The last write of a key counts**, and without one the entry that was there. -/
theorem contentAt?_putEntries {entries more : List (κ × α)} {key : κ} :
    contentAt? (putEntries entries more) key
      = ((more.filter (·.1 = key)).getLast?.map Prod.snd).or (contentAt? entries key) := by
  induction more generalizing entries with
  | nil => rfl
  | cons e rest ih =>
    have hstep : putEntries entries (e :: rest) = putEntries (putEntry entries e.1 e.2) rest := rfl
    rw [hstep, ih, contentAt?_putEntry, List.filter_cons]
    by_cases hkey : e.1 = key
    · rw [if_pos hkey.symm, if_pos (by simpa using hkey), List.getLast?_cons]
      cases (rest.filter (·.1 = key)).getLast? <;> rfl
    · simp [hkey, Ne.symm hkey]

/-- Where each key is written once, a key has what was written, or else what it had. -/
theorem contentAt?_putEntries_of_nodup {entries more : List (κ × α)} {key : κ}
    (hmore : (more.map Prod.fst).Nodup) :
    contentAt? (putEntries entries more) key
      = (contentAt? more key).or (contentAt? entries key) := by
  have hlast : contentAt? more key = (more.filter (·.1 = key)).getLast?.map Prod.snd := by
    rw [← putEntries_nil_eq hmore, contentAt?_putEntries, putEntries_nil_eq hmore]
    exact Option.or_none
  rw [contentAt?_putEntries, hlast]

/-! ## Equality -/

/-- Entries with the same distinct keys in the same order and the same contents are equal. -/
theorem entries_ext {as bs : List (κ × α)} (hkeys : as.map Prod.fst = bs.map Prod.fst)
    (hnodup : (as.map Prod.fst).Nodup) (h : ∀ key, contentAt? as key = contentAt? bs key) :
    as = bs := by
  induction as generalizing bs with
  | nil => exact (List.map_eq_nil_iff.mp hkeys.symm).symm
  | cons a as ih =>
    cases bs with
    | nil => exact absurd hkeys (by simp)
    | cons b bs =>
      obtain ⟨k, c⟩ := a
      obtain ⟨k', c'⟩ := b
      simp only [List.map_cons, List.cons.injEq] at hkeys
      obtain ⟨rfl, hrest⟩ := hkeys
      rw [List.map_cons, List.nodup_cons] at hnodup
      have hhead : c = c' := by simpa [contentAt?] using h k
      have htail : as = bs := by
        apply ih hrest hnodup.2
        intro key
        -- The key of the heads has no content in either tail, and any other key skips the heads.
        by_cases hk : k = key
        · subst hk
          rw [contentAt?_eq_none_iff.mpr hnodup.1, contentAt?_eq_none_iff.mpr (hrest ▸ hnodup.1)]
        · simpa [contentAt?, hk] using h key
      rw [hhead, htail]

end RecordForge
