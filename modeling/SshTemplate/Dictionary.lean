/-!
# `Dictionary` — bindings in the order they were first made

Variables, key definitions, the key library and the files of a tree are all finite maps whose order
can be seen: documents are dumped, keys are listed and files are enumerated in it. So a dictionary
is a list of pairs, and the two properties every consumer leans on hold by construction or in one
lemma: no key occurs twice (the field `nodup`), and binding a key again changes its value and leaves
its place alone (`map_fst_putEntry`). What a dictionary answers is `get?`, and each operation has one
equation about it.
-/

set_option autoImplicit false

namespace SshTemplate

variable {κ α : Type}

/-- A finite map that remembers the order of first insertion. -/
structure Dictionary (κ α : Type) where
  entries : List (κ × α)
  nodup : (entries.map Prod.fst).Nodup

namespace Dictionary

def empty : Dictionary κ α := ⟨[], List.nodup_nil⟩

instance : EmptyCollection (Dictionary κ α) := ⟨empty⟩

instance : Inhabited (Dictionary κ α) := ⟨empty⟩

def keys (d : Dictionary κ α) : List κ := d.entries.map Prod.fst

def values (d : Dictionary κ α) : List α := d.entries.map Prod.snd

variable [DecidableEq κ]

/-! ## Looking up -/

def get? (d : Dictionary κ α) (key : κ) : Option α :=
  (d.entries.find? fun entry => entry.1 = key).map Prod.snd

def contains (d : Dictionary κ α) (key : κ) : Bool := d.entries.any fun entry => entry.1 = key

@[simp]
theorem get?_empty (key : κ) : (empty : Dictionary κ α).get? key = none := rfl

/-- The keys are what can be looked up. -/
theorem contains_eq_true_iff {d : Dictionary κ α} {key : κ} :
    d.contains key = true ↔ key ∈ d.keys := by
  simp [contains, keys]

theorem get?_eq_none_iff {d : Dictionary κ α} {key : κ} : d.get? key = none ↔ key ∉ d.keys := by
  unfold get? keys
  rw [Option.map_eq_none_iff, List.find?_eq_none, List.mem_map]
  constructor
  · rintro h ⟨entry, hmem, rfl⟩
    exact h entry hmem (by simp)
  · intro h entry hmem hkey
    exact h ⟨entry, hmem, of_decide_eq_true hkey⟩

theorem mem_values_of_get? {d : Dictionary κ α} {key : κ} {value : α}
    (h : d.get? key = some value) : value ∈ d.values := by
  obtain ⟨entry, hfound, rfl⟩ := Option.map_eq_some_iff.1 h
  exact List.mem_map_of_mem (List.mem_of_find?_eq_some hfound)

/-! ## Binding -/

/-- Rebinds `key` where it stands, or adds it at the end. -/
def putEntry (key : κ) (value : α) : List (κ × α) → List (κ × α)
  | [] => [(key, value)]
  | entry :: rest =>
    if entry.1 = key then (key, value) :: rest else entry :: putEntry key value rest

theorem map_fst_putEntry (key : κ) (value : α) (entries : List (κ × α)) :
    (putEntry key value entries).map Prod.fst =
      if key ∈ entries.map Prod.fst then entries.map Prod.fst
      else entries.map Prod.fst ++ [key] := by
  induction entries with
  | nil => simp [putEntry]
  | cons entry rest ih =>
    unfold putEntry
    by_cases h : entry.1 = key
    · simp [h]
    · have h' : key ≠ entry.1 := fun e => h e.symm
      rw [if_neg h, List.map_cons, ih]
      by_cases hm : key ∈ rest.map Prod.fst
      · rw [if_pos hm, if_pos (by simp only [List.map_cons, List.mem_cons]; exact Or.inr hm)]
        rfl
      · have hm' : key ∉ (entry :: rest).map Prod.fst := by
          rw [List.map_cons, List.mem_cons]
          exact not_or.2 ⟨h', hm⟩
        rw [if_neg hm, if_neg hm']
        rfl

theorem nodup_putEntry {entries : List (κ × α)} (h : (entries.map Prod.fst).Nodup) (key : κ)
    (value : α) : ((putEntry key value entries).map Prod.fst).Nodup := by
  rw [map_fst_putEntry]
  split
  · exact h
  · next hm =>
    refine List.nodup_append.2 ⟨h, by simp, fun a ha b hb hab => ?_⟩
    rw [List.mem_singleton] at hb
    exact hm (hb ▸ hab ▸ ha)

/-- Binds `key`; a key bound before keeps its place. -/
def insert (d : Dictionary κ α) (key : κ) (value : α) : Dictionary κ α :=
  ⟨putEntry key value d.entries, nodup_putEntry d.nodup key value⟩

theorem find?_putEntry (key other : κ) (value : α) (entries : List (κ × α)) :
    ((putEntry key value entries).find? fun entry => entry.1 = other).map Prod.snd =
      if other = key then some value
      else (entries.find? fun entry => entry.1 = other).map Prod.snd := by
  induction entries with
  | nil =>
    by_cases h : other = key
    · simp [putEntry, h]
    · have h' : key ≠ other := fun e => h e.symm
      simp [putEntry, h, h']
  | cons entry rest ih =>
    unfold putEntry
    by_cases hkey : entry.1 = key
    · rw [if_pos hkey]
      by_cases h : other = key
      · simp [h]
      · have h' : key ≠ other := fun e => h e.symm
        simp [h, h', hkey]
    · rw [if_neg hkey]
      by_cases hother : entry.1 = other
      · have h : other ≠ key := fun e => hkey (hother.trans e)
        simp [hother, h]
      · rw [List.find?_cons_of_neg (by simp [hother]), List.find?_cons_of_neg (by simp [hother])]
        exact ih

/-- Binding a key answers for that key and for no other. -/
theorem get?_insert (d : Dictionary κ α) (key other : κ) (value : α) :
    (d.insert key value).get? other = if other = key then some value else d.get? other :=
  find?_putEntry key other value d.entries

theorem mem_map_snd_putEntry {key : κ} {value other : α} {entries : List (κ × α)}
    (h : other ∈ (putEntry key value entries).map Prod.snd) :
    other = value ∨ other ∈ entries.map Prod.snd := by
  induction entries with
  | nil => exact Or.inl (List.mem_singleton.1 h)
  | cons entry rest ih =>
    unfold putEntry at h
    by_cases hkey : entry.1 = key
    · rw [if_pos hkey] at h
      rcases List.mem_cons.1 h with h | h
      · exact Or.inl h
      · exact Or.inr (List.mem_cons_of_mem _ h)
    · rw [if_neg hkey] at h
      rcases List.mem_cons.1 h with h | h
      · exact Or.inr (List.mem_cons.2 (Or.inl h))
      · exact (ih h).imp id (List.mem_cons_of_mem _)

/-- Binding a key brings in its value and no other. -/
theorem mem_values_insert {d : Dictionary κ α} {key : κ} {value other : α}
    (h : other ∈ (d.insert key value).values) : other = value ∨ other ∈ d.values :=
  mem_map_snd_putEntry h

/-- Binds `key` unless it is bound: the first value wins. -/
def insertNew (d : Dictionary κ α) (key : κ) (value : α) : Dictionary κ α :=
  if d.contains key then d else d.insert key value

/-- What is bound stays bound to its value. -/
theorem get?_insertNew (d : Dictionary κ α) (key other : κ) (value : α) :
    (d.insertNew key value).get? other =
      if other = key ∧ key ∉ d.keys then some value else d.get? other := by
  unfold insertNew
  by_cases h : d.contains key = true
  · rw [if_pos h, if_neg fun hboth => hboth.2 (contains_eq_true_iff.1 h)]
  · have hkey : key ∉ d.keys := fun hmem => h (contains_eq_true_iff.2 hmem)
    rw [if_neg h, get?_insert]
    by_cases ho : other = key
    · rw [if_pos ho, if_pos ⟨ho, hkey⟩]
    · rw [if_neg ho, if_neg fun hboth => ho hboth.1]

/-- Binds the pairs one after the other. -/
def extend (d : Dictionary κ α) (pairs : List (κ × α)) : Dictionary κ α :=
  pairs.foldl (fun d pair => d.insert pair.1 pair.2) d

theorem mem_values_extend {d : Dictionary κ α} {pairs : List (κ × α)} {value : α}
    (h : value ∈ (d.extend pairs).values) : value ∈ pairs.map Prod.snd ∨ value ∈ d.values := by
  unfold extend at h
  induction pairs generalizing d with
  | nil => exact Or.inr h
  | cons pair rest ih =>
    rw [List.map_cons, List.mem_cons]
    rcases ih h with h | h
    · exact Or.inl (Or.inr h)
    · exact (mem_values_insert h).imp Or.inl id

theorem get?_extend_of_not_mem {d : Dictionary κ α} {pairs : List (κ × α)} {key : κ}
    (h : key ∉ pairs.map Prod.fst) : (d.extend pairs).get? key = d.get? key := by
  unfold extend
  induction pairs generalizing d with
  | nil => rfl
  | cons pair rest ih =>
    obtain ⟨hne, hrest⟩ := not_or.1 (mt List.mem_cons.2 h)
    rw [List.foldl_cons, ih hrest, get?_insert, if_neg hne]

/-- The last pair of a key decides. -/
theorem get?_extend {d : Dictionary κ α} {before after : List (κ × α)} {key : κ} {value : α}
    (h : key ∉ after.map Prod.fst) :
    (d.extend (before ++ (key, value) :: after)).get? key = some value := by
  have hlast : ∀ e : Dictionary κ α, (e.extend after).get? key = e.get? key :=
    fun e => get?_extend_of_not_mem h
  unfold extend at hlast ⊢
  rw [List.foldl_append, List.foldl_cons, hlast, get?_insert, if_pos rfl]

def ofList (pairs : List (κ × α)) : Dictionary κ α := extend empty pairs

/-- The dictionary without `key`. -/
def erase (d : Dictionary κ α) (key : κ) : Dictionary κ α :=
  ⟨d.entries.filter fun entry => entry.1 ≠ key,
    (d.nodup.sublist ((List.filter_sublist).map Prod.fst))⟩

end Dictionary
end SshTemplate
