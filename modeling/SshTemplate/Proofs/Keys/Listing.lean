import SshTemplate.Proofs.Keys.Scanning
import SshTemplate.Proofs.Order.Sorting

/-!
# `Proofs.Keys.Listing` — what a library of key files lists

A library is filled with pairs of a fingerprint and a file, and the first file with a fingerprint
keeps it. So what it holds is the list of the first pairs, in their order (`firstPairs`), and what
it lists is made of that: the pairs by path, and the paths by themselves, each once.

Paths are compared by their components and shown as they were given. The order therefore does not
tell all of them apart: `b//c` and `b/./c` are one path. Two things depend on what it does with such
paths. Pairs that it does not tell apart stay in the order in which they came, and of paths that it
does not tell apart one is listed. For the second the list has to be sorted first, and it has to be
known that paths that are not before one another are equal (`Precedes.total`): otherwise equal ones
could stand apart, and dropping repetitions of neighbours would leave some.
-/

set_option autoImplicit false

namespace SshTemplate

/-! ## The order of paths -/

namespace Path

/-- Components of other kinds come in the order of their kinds, and names in the order of texts. -/
inductive Component.Before : Component → Component → Prop where
  | kind {a b : Component} (lower : a.rank < b.rank) : Component.Before a b
  | name {a b : String} (lower : a < b) : Component.Before (.name a) (.name b)

/-- The path comes before the other: it is cut short by it, or the first component in which they
    differ comes before. -/
def Before (a b : String) : Prop := List.Lex Component.Before (components a) (components b)

/-- The path comes before the other or is equal to it. -/
def Precedes (a b : String) : Prop := Before a b ∨ components a = components b

namespace Component

variable {a b c : Component}

theorem lt_iff_before : a.lt b = true ↔ a.Before b := by
  constructor
  · intro h
    cases a with
    | name x =>
      cases b with
      | name y => exact .name (of_decide_eq_true h)
      | _ => exact .kind (of_decide_eq_true h)
    | _ => cases b <;> exact .kind (of_decide_eq_true h)
  · rintro (⟨h⟩ | ⟨h⟩)
    · cases a with
      | name x =>
        cases b with
        | name y => exact absurd h (Nat.lt_irrefl _)
        | _ => exact decide_eq_true h
      | _ => cases b <;> exact decide_eq_true h
    · exact decide_eq_true h

/-- Names come last. -/
theorem rank_name_not_lt {x : String} : ¬ (name x).rank < a.rank := by
  cases a <;> simp [rank]

theorem Before.trans (hab : a.Before b) (hbc : b.Before c) : a.Before c := by
  cases hab with
  | kind hab =>
    cases hbc with
    | kind hbc => exact .kind (Nat.lt_trans hab hbc)
    | name hbc => exact .kind hab
  | name hab =>
    cases hbc with
    | kind hbc => exact absurd hbc rank_name_not_lt
    | name hbc => exact .name (String.lt_trans hab hbc)

theorem Before.asymm (hab : a.Before b) : ¬ b.Before a := by
  intro hba
  cases hab with
  | kind hab =>
    cases hba with
    | kind hba => exact Nat.lt_asymm hab hba
    | name hba => exact Nat.lt_irrefl _ hab
  | name hab =>
    cases hba with
    | kind hba => exact rank_name_not_lt hba
    | name hba => exact String.lt_asymm hab hba

/-- Components that are of one kind, and not before one another, are equal. -/
theorem Before.trichotomous (a b : Component) (hab : ¬ a.Before b) (hba : ¬ b.Before a) :
    a = b := by
  have hkind : a.rank = b.rank := by
    have hle := Nat.not_lt.1 fun h => hab (.kind h)
    have hge := Nat.not_lt.1 fun h => hba (.kind h)
    exact Nat.le_antisymm hge hle
  cases a with
  | name x =>
    cases b with
    | name y =>
      have hxy : ¬ x < y := fun h => hab (.name h)
      have hyx : ¬ y < x := fun h => hba (.name h)
      rw [String.le_antisymm (String.not_lt.1 hyx) (String.not_lt.1 hxy)]
    | _ => exact absurd hkind (by simp [rank])
  | _ => cases b <;> first | rfl | exact absurd hkind (by simp [rank])

end Component

variable {a b c : String}

theorem le_iff_precedes : le a b = true ↔ Precedes a b := by
  unfold le Precedes Before
  rw [Order.lexicographic_iff]
  simp only [Component.lt_iff_before]

theorem same_iff : same a b = true ↔ components a = components b := by
  unfold same
  rw [beq_iff_eq]

theorem Precedes.total (a b : String) : Precedes a b ∨ Precedes b a :=
  Order.lex_or_eq_total Component.Before.trichotomous (components a) (components b)

theorem Precedes.trans (hab : Precedes a b) (hbc : Precedes b c) : Precedes a c :=
  Order.lex_or_eq_trans Component.Before.trans hab hbc

/-- Paths that the order does not tell apart are equal, component by component. -/
theorem Precedes.antisymm (hab : Precedes a b) (hba : Precedes b a) :
    components a = components b :=
  Order.lex_or_eq_antisymm Component.Before.asymm hab hba

theorem Before.trans (hab : Before a b) (hbc : Before b c) : Before a c :=
  List.lex_trans Component.Before.trans hab hbc

theorem Before.ne (h : Before a b) : components a ≠ components b := by
  intro heq
  unfold Before at h
  rw [heq] at h
  exact List.lex_asymm Component.Before.asymm h h

theorem le_total (a b : String) : le a b || le b a := by
  rw [Bool.or_eq_true, le_iff_precedes, le_iff_precedes]
  exact Precedes.total a b

theorem le_trans (a b c : String) (hab : le a b) (hbc : le b c) : le a c :=
  le_iff_precedes.2 ((le_iff_precedes.1 hab).trans (le_iff_precedes.1 hbc))

/-- What the order does not tell apart is the same path. -/
theorem le_and_le_eq_same (a b : String) : (le a b && le b a) = same a b := by
  rw [Bool.eq_iff_iff, Bool.and_eq_true, le_iff_precedes, le_iff_precedes, same_iff]
  constructor
  · rintro ⟨hab, hba⟩
    exact hab.antisymm hba
  · intro heq
    exact ⟨Or.inr heq, Or.inr heq.symm⟩

end Path

/-! ## What a library holds -/

namespace KeyLibrary

variable {pairs : List (String × String)} {fingerprint path : String}

/-- The first pair of each fingerprint, in the order of the list. -/
def firstPairs : List (String × String) → List (String × String)
  | [] => []
  | pair :: rest => pair :: (firstPairs rest).filter fun other => other.1 ≠ pair.1

theorem firstPairs_sublist (pairs : List (String × String)) : (firstPairs pairs).Sublist pairs := by
  induction pairs with
  | nil => exact .slnil
  | cons pair rest ih => exact (List.filter_sublist.trans ih).cons_cons pair

theorem entries_add (library : KeyLibrary) (pair : String × String) :
    (library.add pair.1 pair.2).files.entries =
      library.files.entries ++ [pair].filter fun pair => pair.1 ∉ library.files.keys := by
  unfold add Dictionary.insertNew
  by_cases hknown : pair.1 ∈ library.files.keys
  · rw [if_pos (Dictionary.contains_eq_true_iff.2 hknown),
      List.filter_cons_of_neg (by simpa using hknown), List.filter_nil, List.append_nil]
  · rw [if_neg (mt Dictionary.contains_eq_true_iff.1 hknown),
      Dictionary.entries_insert_of_not_mem hknown, List.filter_cons_of_pos (by simpa using hknown),
      List.filter_nil]

theorem mem_keys_add {library : KeyLibrary} {pair : String × String} :
    fingerprint ∈ (library.add pair.1 pair.2).files.keys ↔
      fingerprint = pair.1 ∨ fingerprint ∈ library.files.keys := by
  unfold Dictionary.keys
  rw [entries_add, List.map_append, List.mem_append]
  by_cases hknown : pair.1 ∈ library.files.keys
  · rw [List.filter_cons_of_neg (by simpa using hknown)]
    constructor
    · rintro (h | h)
      · exact Or.inr h
      · exact absurd h List.not_mem_nil
    · rintro (rfl | h)
      · exact Or.inl hknown
      · exact Or.inl h
  · rw [List.filter_cons_of_pos (by simpa using hknown), List.filter_nil, List.map_singleton,
      List.mem_singleton, or_comm]

/-- Adding pairs to a library adds the first pairs of the fingerprints that it does not know. -/
theorem entries_addAll (library : KeyLibrary) (pairs : List (String × String)) :
    (library.addAll pairs).files.entries =
      library.files.entries ++
        (firstPairs pairs).filter fun pair => pair.1 ∉ library.files.keys := by
  induction pairs generalizing library with
  | nil => exact (List.append_nil _).symm
  | cons pair rest ih =>
    -- What is known afterwards is what is known before, and the fingerprint of the pair.
    have hrest : (firstPairs rest).filter
        (fun other => other.1 ∉ (library.add pair.1 pair.2).files.keys) =
          ((firstPairs rest).filter fun other => other.1 ≠ pair.1).filter
            fun other => other.1 ∉ library.files.keys := by
      rw [List.filter_filter]
      refine List.filter_congr fun other _ => ?_
      rw [← Bool.decide_and]
      exact decide_eq_decide.2 (by rw [mem_keys_add, not_or, and_comm])
    calc (library.addAll (pair :: rest)).files.entries
        = (library.add pair.1 pair.2).files.entries ++ (firstPairs rest).filter
            fun other => other.1 ∉ (library.add pair.1 pair.2).files.keys := ih _
      _ = library.files.entries ++ ([pair].filter (fun pair => pair.1 ∉ library.files.keys) ++
            ((firstPairs rest).filter fun other => other.1 ≠ pair.1).filter
              fun other => other.1 ∉ library.files.keys) := by
          rw [entries_add, hrest, List.append_assoc]
      _ = _ := by
          rw [← List.filter_append]
          rfl

/-- **A library holds the first pair of each fingerprint**, in their order. -/
theorem entries_ofPairs (pairs : List (String × String)) :
    (ofPairs pairs).files.entries = firstPairs pairs := by
  have hentries := entries_addAll (empty "") pairs
  have hall : ((firstPairs pairs).filter fun pair => pair.1 ∉ (empty "").files.keys) =
      firstPairs pairs :=
    List.filter_eq_self.2 fun pair _ => by simp [empty, Dictionary.keys, Dictionary.empty]
  rw [hall] at hentries
  exact hentries

theorem lookup_ofPairs (pairs : List (String × String)) (fingerprint : String) :
    (ofPairs pairs).lookup fingerprint =
      (pairs.find? fun pair => pair.1 = fingerprint).map Prod.snd :=
  lookup_addAll (empty "") pairs fingerprint

/-- A pair is one of the first if it is what is found under its fingerprint. -/
theorem mem_firstPairs :
    (fingerprint, path) ∈ firstPairs pairs ↔ (ofPairs pairs).lookup fingerprint = some path := by
  rw [← entries_ofPairs]
  exact Dictionary.get?_eq_some_iff.symm

theorem nodup_firstPairs (pairs : List (String × String)) :
    ((firstPairs pairs).map Prod.fst).Nodup := by
  rw [← entries_ofPairs]
  exact (ofPairs pairs).files.nodup

/-! ## What it lists -/

variable {library : KeyLibrary}

theorem keys_perm (library : KeyLibrary) : library.keys.Perm library.files.entries :=
  Order.sort_perm _ _

theorem pairwise_keys (library : KeyLibrary) :
    library.keys.Pairwise fun a b => Path.Precedes a.2 b.2 := by
  have hsorted := @Order.pairwise_sort _ (fun a b : String × String => Path.le a.2 b.2)
    (fun a b => Path.le_total a.2 b.2) (fun a b c => Path.le_trans a.2 b.2 c.2)
    library.files.entries
  exact hsorted.imp fun h => Path.le_iff_precedes.1 h

/-- **Keys in equal files stay in the order in which they were found.** -/
theorem filter_keys (library : KeyLibrary) (path : String) :
    library.keys.filter (fun pair => Path.same path pair.2) =
      library.files.entries.filter fun pair => Path.same path pair.2 := by
  have htied := @Order.filter_sort _ (fun a b : String × String => Path.le a.2 b.2)
    (fun a b => Path.le_total a.2 b.2) (fun a b c => Path.le_trans a.2 b.2 c.2)
    library.files.entries ("", path)
  simp only [Path.le_and_le_eq_same] at htied
  exact htied

/-- **No path is listed twice**, not in another spelling either. -/
theorem pairwise_paths (library : KeyLibrary) : library.paths.Pairwise Path.Before := by
  refine Order.pairwise_dropRepeats (fun a b hle hdistinct => ?_) Path.Before.trans
    (Order.pairwise_sort Path.le_total Path.le_trans library.files.values)
  exact (Path.le_iff_precedes.1 hle).resolve_right fun heq => hdistinct (Path.same_iff.2 heq)

theorem mem_values_of_mem_paths (h : path ∈ library.paths) : path ∈ library.files.values :=
  (Order.sort_perm _ _).mem_iff.1 ((Order.dropRepeats_sublist _ _).subset h)

/-- **Each path of the library is listed**, in one of its spellings. -/
theorem exists_mem_paths (h : path ∈ library.files.values) :
    ∃ listed ∈ library.paths, Path.components listed = Path.components path := by
  obtain ⟨listed, hlisted, hsame⟩ := Order.exists_mem_dropRepeats
    (fun a => Path.same_iff.2 rfl) ((Order.sort_perm Path.le library.files.values).mem_iff.2 h)
  exact ⟨listed, hlisted, Path.same_iff.1 hsame⟩

/-- **What a library of collected pairs answers and lists.** Whatever pairs are collected: a
    fingerprint is looked up as the path of its first pair. These first pairs, one for each
    fingerprint and in the order of the collection, are what is listed as keys, by path, and those
    of equal paths in the order in which they came. The listed paths are strictly increasing, so no
    two of them are equal component by component; each of them is the path of such a pair, and the
    path of each such pair is listed in one of its spellings. -/
theorem collected_pairs_are_listed (pairs : List (String × String)) :
    (∀ fingerprint, (ofPairs pairs).lookup fingerprint =
      (pairs.find? fun pair => pair.1 = fingerprint).map Prod.snd) ∧
    ((firstPairs pairs).Sublist pairs ∧ ((firstPairs pairs).map Prod.fst).Nodup ∧
      ∀ fingerprint path,
        (fingerprint, path) ∈ firstPairs pairs ↔ (ofPairs pairs).lookup fingerprint = some path) ∧
    ((ofPairs pairs).keys.Perm (firstPairs pairs) ∧
      (ofPairs pairs).keys.Pairwise (fun a b => Path.Precedes a.2 b.2) ∧
      ∀ path, (ofPairs pairs).keys.filter (fun pair => Path.same path pair.2) =
        (firstPairs pairs).filter fun pair => Path.same path pair.2) ∧
    (ofPairs pairs).paths.Pairwise Path.Before ∧
    ((ofPairs pairs).paths.map Path.components).Nodup ∧
    (∀ path ∈ (ofPairs pairs).paths, ∃ fingerprint, (fingerprint, path) ∈ firstPairs pairs) ∧
    ∀ fingerprint path, (fingerprint, path) ∈ firstPairs pairs →
      ∃ listed ∈ (ofPairs pairs).paths, Path.components listed = Path.components path := by
  have hentries : (ofPairs pairs).files.entries = firstPairs pairs := entries_ofPairs pairs
  have hvalues : (ofPairs pairs).files.values = (firstPairs pairs).map Prod.snd :=
    congrArg (List.map Prod.snd) hentries
  have hincreasing := pairwise_paths (ofPairs pairs)
  have hkeys := keys_perm (ofPairs pairs)
  have htied := filter_keys (ofPairs pairs)
  rw [hentries] at hkeys
  simp only [hentries] at htied
  refine ⟨lookup_ofPairs pairs,
    ⟨firstPairs_sublist pairs, nodup_firstPairs pairs, fun _ _ => mem_firstPairs⟩,
    ⟨hkeys, pairwise_keys (ofPairs pairs), htied⟩, hincreasing, ?_, fun path hpath => ?_,
    fun fingerprint path hpair => ?_⟩
  · exact List.pairwise_map.2 (hincreasing.imp Path.Before.ne)
  · have hvalue := mem_values_of_mem_paths hpath
    rw [hvalues] at hvalue
    obtain ⟨⟨fingerprint, _⟩, hpair, rfl⟩ := List.mem_map.1 hvalue
    exact ⟨fingerprint, hpair⟩
  · refine exists_mem_paths ?_
    rw [hvalues]
    exact List.mem_map_of_mem hpair

/-- Three spellings of one path, and a fingerprint that comes twice. -/
def spellings : List (String × String) :=
  [("aa", "/k/b//c"), ("bb", "/k-a"), ("cc", "/k/b/./c"), ("aa", "/z"), ("dd", "/k/a"),
    ("ee", "/k/b/c/")]

theorem spellings_are_listed :
    let library := ofPairs spellings
    library.lookup "aa" = some "/k/b//c" ∧ library.lookup "ff" = none ∧
      library.keys.filter (fun pair => Path.same "/k/b/c" pair.2) =
        [("aa", "/k/b//c"), ("cc", "/k/b/./c"), ("ee", "/k/b/c/")] ∧
      ("ee", "/k/b/c/") ∈ firstPairs spellings ∧
      ∃ listed ∈ library.paths, Path.components listed = Path.components "/k/b/c/" := by
  obtain ⟨hlookup, -, ⟨-, -, htied⟩, -, -, -, hlisted⟩ := collected_pairs_are_listed spellings
  have hmem : ("ee", "/k/b/c/") ∈ firstPairs spellings := by decide
  exact ⟨(hlookup "aa").trans (by decide), (hlookup "ff").trans (by decide),
    (htied "/k/b/c").trans (by decide +kernel), hmem, hlisted "ee" "/k/b/c/" hmem⟩

end KeyLibrary
end SshTemplate
