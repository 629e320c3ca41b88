import Mathlib.Data.List.Nodup
import SshTemplate.KeyLibrary.Scan
import SshTemplate.Proofs.Files.Places

/-!
# `Proofs.Keys.Candidates` — the files that a search for keys looks at

A search is given paths, and what matters about them is which files they name. `Enumerates` keeps
of the list of candidates only that: each of its paths is, on paper, that of a file, and no two of
them are paths of one file. It is a property of the list up to its order, so it holds of whatever
order the files come in (`Enumerates.perm`).

A search adds files, and what it adds is listed with the others afterwards. `candidates_append` says
that no candidate is among it: the public halves of candidates bear names that no candidate has.

That a candidate can be *opened* is no part of it. Files deep in a tree are listed under paths that
may be too long to be followed; nothing is found under such a path, and nothing is done there.
-/

set_option autoImplicit false

namespace SshTemplate

/-! ## Dictionaries and lists of pairs -/

namespace Dictionary

variable {κ α : Type} [DecidableEq κ] {d : Dictionary κ α} {key : κ} {value : α}

theorem get?_eq_some_iff : d.get? key = some value ↔ (key, value) ∈ d.entries := by
  unfold get?
  constructor
  · intro h
    obtain ⟨⟨other, found⟩, hfound, rfl⟩ := Option.map_eq_some_iff.1 h
    obtain rfl : other = key := by simpa using List.find?_some hfound
    exact List.mem_of_find?_eq_some hfound
  · intro h
    obtain ⟨⟨other, found⟩, hfound⟩ : ∃ entry, d.entries.find? (fun e => e.1 = key) = some entry :=
      Option.isSome_iff_exists.1 (List.find?_isSome.2 ⟨_, h, by simp⟩)
    obtain rfl : other = key := by simpa using List.find?_some hfound
    have hsame := List.inj_on_of_nodup_map d.nodup (List.mem_of_find?_eq_some hfound) h rfl
    rw [hfound]
    exact congrArg some (Prod.mk.inj hsame).2

/-- A new key comes last. -/
theorem entries_insert_of_not_mem (h : key ∉ d.keys) (value : α) :
    (d.insert key value).entries = d.entries ++ [(key, value)] := by
  have hput : ∀ entries : List (κ × α), key ∉ entries.map Prod.fst →
      putEntry key value entries = entries ++ [(key, value)] := by
    intro entries
    induction entries with
    | nil => exact fun _ => rfl
    | cons entry rest ih =>
      intro hmem
      obtain ⟨hne, hrest⟩ := not_or.1 (mt List.mem_cons.2 hmem)
      rw [putEntry, if_neg (Ne.symm hne), ih hrest, List.cons_append]
  exact hput d.entries h

end Dictionary

namespace FileTree

/-- What a tree of files is: its entries lie below the root directory, and they bear names that can
    stand on a path. -/
structure WellNamed (tree : FileTree) : Prop where
  below : ∀ place ∈ tree.entries.keys, place ≠ []
  names : ∀ place ∈ tree.entries.keys, ∀ name ∈ place, IsName name

instance (tree : FileTree) : Decidable tree.WellNamed :=
  decidable_of_iff ((∀ place ∈ tree.entries.keys, place ≠ []) ∧
      ∀ place ∈ tree.entries.keys, ∀ name ∈ place, IsName name)
    ⟨fun ⟨below, names⟩ => ⟨below, names⟩, fun ⟨below, names⟩ => ⟨below, names⟩⟩

variable {tree : FileTree}

theorem mem_entries_of_file {place : Place} {content : ByteArray}
    (h : tree.entry? place = some (.file content)) :
    (place, .file content) ∈ tree.entries.entries := by
  cases place with
  | nil => cases h
  | cons name rest => exact Dictionary.get?_eq_some_iff.1 h

theorem WellNamed.entry?_of_mem (h : tree.WellNamed) {place : Place} {entry : Entry}
    (hmem : (place, entry) ∈ tree.entries.entries) : tree.entry? place = some entry := by
  rw [entry?_of_ne_nil tree (h.below place (List.mem_map_of_mem hmem))]
  exact Dictionary.get?_eq_some_iff.2 hmem

theorem WellNamed.names_of_entry? (h : tree.WellNamed) {place : Place} {content : ByteArray}
    (hentry : tree.entry? place = some (.file content)) : ∀ name ∈ place, IsName name :=
  h.names place (List.mem_map_of_mem (mem_entries_of_file hentry))

end FileTree

open FileTree Text

namespace KeyLibrary

variable {space : Workspace} {root : String} {paths : List String}

/-! ## Candidates -/

/-- Paths of private keys, of each key at most one. -/
structure Enumerates (space : Workspace) (paths : List String) : Prop where
  files : ∀ path ∈ paths, ∃ key, space.tree.entry? (denoted space.here path) = some (.file key)
  apart : paths.Pairwise fun a b => denoted space.here a ≠ denoted space.here b

theorem Enumerates.eq_of_denoted_eq (h : Enumerates space paths) {a b : String} (ha : a ∈ paths)
    (hb : b ∈ paths) (hsame : denoted space.here a = denoted space.here b) : a = b :=
  List.inj_on_of_nodup_map (List.pairwise_map.2 h.apart) ha hb hsame

/-- The path under which an entry is listed below the directory `place` that `root` names. -/
def listedAs (root : String) (place : Place) (entry : Place × Entry) : Option String :=
  match entry.2 with
  | .directory => none
  | .file _ =>
    if place.isPrefixOf entry.1 then some ((entry.1.drop place.length).foldl Path.join root)
    else none

theorem filesBelow_of_find {tree : FileTree} {here place : Place}
    (h : tree.find here root = .ok (place, .directory)) :
    tree.filesBelow here root = tree.entries.entries.filterMap (listedAs root place) := by
  unfold filesBelow
  rw [h]
  rfl

/-- Files are listed under the names that lead to them. -/
theorem listedAs_eq_some_iff {place there : Place} {entry : Entry} {path : String} :
    listedAs root place (there, entry) = some path ↔
      (∃ key, entry = .file key) ∧ ∃ names, there = place ++ names ∧
        path = names.foldl Path.join root := by
  unfold listedAs
  cases entry with
  | directory => simp
  | file key =>
    dsimp only
    split
    · next hprefix =>
      obtain ⟨names, rfl⟩ := List.isPrefixOf_iff_prefix.1 hprefix
      rw [List.drop_left]
      constructor
      · intro h
        exact ⟨⟨key, rfl⟩, names, rfl, (Option.some.inj h).symm⟩
      · rintro ⟨-, others, hothers, rfl⟩
        rw [List.append_cancel_left hothers]
    · next hprefix =>
      simp only [reduceCtorEq, false_iff, not_and, not_exists]
      rintro - names rfl -
      exact hprefix (List.isPrefixOf_iff_prefix.2 ⟨names, rfl⟩)

theorem enumerates_candidates (h : space.tree.WellNamed) (root : String) :
    Enumerates space (candidates space root) := by
  -- Filtering takes files away, so only the list of all files is left to look at.
  suffices hall : (∀ path ∈ space.tree.filesBelow space.here root,
      ∃ key, space.tree.entry? (denoted space.here path) = some (.file key)) ∧
      (space.tree.filesBelow space.here root).Pairwise fun a b =>
        denoted space.here a ≠ denoted space.here b by
    exact ⟨fun path hpath => hall.1 path (List.mem_filter.1 hpath).1, hall.2.filter _⟩
  cases hroot : space.tree.find space.here root with
  | error fault =>
    have hnil : space.tree.filesBelow space.here root = [] := by
      unfold filesBelow
      rw [hroot]
    rw [hnil]
    exact ⟨fun path hpath => absurd hpath List.not_mem_nil, List.Pairwise.nil⟩
  | ok found =>
    obtain ⟨place, entry⟩ := found
    obtain ⟨hplace, hne⟩ := find_eq_ok hroot
    cases entry with
    | file key =>
      have hone : space.tree.filesBelow space.here root = [root] := by
        unfold filesBelow
        rw [hroot]
      obtain ⟨parent, name, -, -, rfl, hentry⟩ := find_eq_file_iff.1 hroot
      rw [hone]
      refine ⟨fun path hpath => ?_, List.pairwise_singleton _ _⟩
      obtain rfl := List.mem_singleton.1 hpath
      exact ⟨key, hplace ▸ hentry⟩
    | directory =>
      rw [filesBelow_of_find hroot]
      -- What is listed for an entry leads back to the entry.
      have hback : ∀ entry ∈ space.tree.entries.entries, ∀ path,
          listedAs root place entry = some path →
            (∃ key, entry.2 = .file key) ∧ denoted space.here path = entry.1 := by
        rintro ⟨there, entry⟩ hmem path hlisted
        obtain ⟨⟨key, rfl⟩, names, rfl, rfl⟩ := listedAs_eq_some_iff.1 hlisted
        have hnames : ∀ name ∈ names, IsName name := fun name hname =>
          h.names_of_entry? (h.entry?_of_mem hmem) name (List.mem_append_right _ hname)
        exact ⟨⟨key, rfl⟩, by rw [denoted_foldl_join hne hnames, ← hplace]⟩
      constructor
      · intro path hpath
        obtain ⟨⟨there, entry⟩, hmem, hlisted⟩ := List.mem_filterMap.1 hpath
        obtain ⟨⟨key, rfl⟩, hdenoted⟩ := hback _ hmem _ hlisted
        exact ⟨key, hdenoted ▸ h.entry?_of_mem hmem⟩
      · have hkeys : space.tree.entries.entries.Pairwise fun a b => a.1 ≠ b.1 :=
          List.pairwise_map.1 space.tree.entries.nodup
        refine List.pairwise_filterMap.2 (hkeys.imp_of_mem ?_)
        intro a b ha hb hne path hpath path' hpath' heq
        rw [(hback a ha path hpath).2, (hback b hb path' hpath').2] at heq
        exact hne heq

/-! ## Public halves -/

theorem isSuffix_pub : IsSuffix ".pub" := ⟨by decide, by decide, by decide⟩

/-- The name of a public half is that of no private key. -/
theorem isCandidate_pub (name : String) : isCandidate (name ++ ".pub") = false := by
  have hsuffix : ".pub".toList.isSuffixOf (name ++ ".pub").toList = true := by
    rw [String.toList_append]
    exact List.isSuffixOf_iff_suffix.2 (List.suffix_append _ _)
  unfold isCandidate
  rw [hsuffix]
  simp

/-- The path names the file `name` in the directory `parent`, and that holds `key`. -/
structure KeyAt (space : Workspace) (path : String) (parent : Place) (name : String)
    (key : ByteArray) : Prop where
  target : space.tree.locate space.here path = .ok ⟨parent, .name name false⟩
  short : byteLength name.toList ≤ maxName
  entry : space.tree.entry? (parent ++ [name]) = some (.file key)

theorem exists_keyAt_iff {path : String} {key : ByteArray} :
    space.entry? path = some (.file key) ↔ ∃ parent name, KeyAt space path parent name key := by
  rw [Workspace.entry?_eq_file_iff]
  constructor
  · rintro ⟨parent, name, target, short, entry⟩
    exact ⟨parent, name, target, short, entry⟩
  · rintro ⟨parent, name, target, short, entry⟩
    exact ⟨parent, name, target, short, entry⟩

theorem KeyAt.denoted_eq {path name : String} {parent : Place} {key : ByteArray}
    (h : KeyAt space path parent name key) : denoted space.here path = parent ++ [name] :=
  (locate_eq_ok h.target).1.symm

theorem KeyAt.find_eq {path name : String} {parent : Place} {key : ByteArray}
    (h : KeyAt space path parent name key) :
    space.tree.find space.here path = .ok (parent ++ [name], .file key) :=
  find_eq_file_iff.2 ⟨parent, name, h.target, h.short, rfl, h.entry⟩

/-- The entry is the public half of a candidate, where there was none. -/
def IsPublicHalf (space : Workspace) (root : String) (entry : Place × Entry) : Prop :=
  space.tree.entry? entry.1 = none ∧ ∃ path ∈ candidates space root, ∃ parent name key,
    KeyAt space path parent name key ∧ entry.1 = parent ++ [name ++ ".pub"]

/-- A candidate that can be opened lies below the directory that is searched, and not at it. -/
theorem exists_names_of_candidate {place parent : Place} {path name : String} {key : ByteArray}
    (hnamed : space.tree.WellNamed)
    (hroot : space.tree.find space.here root = .ok (place, .directory))
    (hpath : path ∈ candidates space root) (h : KeyAt space path parent name key) :
    ∃ init, parent = place ++ init ∧ (∀ n ∈ init, IsName n) ∧ IsName name := by
  obtain ⟨hplace, hne⟩ := find_eq_ok hroot
  have hbelow := (List.mem_filter.1 hpath).1
  rw [filesBelow_of_find hroot] at hbelow
  obtain ⟨⟨there, entry⟩, hmem, hlisted⟩ := List.mem_filterMap.1 hbelow
  obtain ⟨⟨other, rfl⟩, names, rfl, rfl⟩ := listedAs_eq_some_iff.1 hlisted
  have hnames : ∀ n ∈ names, IsName n := fun n hn =>
    hnamed.names_of_entry? (hnamed.entry?_of_mem hmem) n (List.mem_append_right _ hn)
  rcases List.eq_nil_or_concat names with rfl | ⟨init, last, rfl⟩
  · have hfile := h.find_eq
    rw [List.foldl_nil, hroot] at hfile
    cases hfile
  · have hplaces : place ++ init ++ [last] = parent ++ [name] := by
      rw [← h.denoted_eq, denoted_foldl_join hne hnames, ← hplace, List.concat_eq_append,
        List.append_assoc]
    obtain ⟨hparent, hlast⟩ := List.append_inj' hplaces rfl
    obtain rfl := List.singleton_inj.1 hlast
    refine ⟨init, hparent.symm, fun n hn => hnames n ?_, hnames last ?_⟩
    · rw [List.concat_eq_append]
      exact List.mem_append_left _ hn
    · rw [List.concat_eq_append]
      exact List.mem_append_right _ (List.mem_singleton_self _)

/-- **Public halves that are added are no candidates.** -/
theorem candidates_append {after : Workspace} {more : List (Place × Entry)}
    (hnamed : space.tree.WellNamed) (hhere : after.here = space.here)
    (hkept : EntriesKept space.tree after.tree)
    (hentries : after.tree.entries.entries = space.tree.entries.entries ++ more)
    (hmore : ∀ entry ∈ more, IsPublicHalf space root entry) :
    candidates after root = candidates space root := by
  cases hroot : space.tree.find space.here root with
  | error fault =>
    have hnone : candidates space root = [] := by
      unfold candidates filesBelow
      rw [hroot]
      rfl
    have hnil : more = [] := by
      refine List.eq_nil_iff_forall_not_mem.2 fun entry hentry => ?_
      obtain ⟨-, path, hpath, -⟩ := hmore entry hentry
      exact List.not_mem_nil (hnone ▸ hpath)
    have hsame : after.tree = space.tree := by
      rw [hnil, List.append_nil] at hentries
      obtain ⟨here, ⟨⟨entries, nodup⟩⟩, changes⟩ := after
      obtain rfl : entries = space.tree.entries.entries := hentries
      rfl
    unfold candidates
    rw [hsame, hhere]
  | ok found =>
    obtain ⟨place, entry⟩ := found
    have hroot' : after.tree.find after.here root = .ok (place, entry) :=
      hhere ▸ find_mono hkept hroot
    obtain ⟨hplace, hne⟩ := find_eq_ok hroot
    cases entry with
    | file key =>
      unfold candidates filesBelow
      rw [hroot, hroot']
    | directory =>
      unfold candidates
      rw [filesBelow_of_find hroot, filesBelow_of_find hroot', hentries, List.filterMap_append,
        List.filter_append, List.append_right_eq_self, List.filter_eq_nil_iff]
      intro listed hlisted
      obtain ⟨⟨there, entry⟩, hmem, hlisted⟩ := List.mem_filterMap.1 hlisted
      obtain ⟨-, path, hpath, parent, name, key, hkey, rfl⟩ := hmore _ hmem
      obtain ⟨init, rfl, hinit, hname⟩ := exists_names_of_candidate hnamed hroot hpath hkey
      obtain ⟨-, names, hnames, rfl⟩ := listedAs_eq_some_iff.1 hlisted
      obtain rfl : init ++ [name ++ ".pub"] = names := by
        rw [List.append_assoc] at hnames
        exact List.append_cancel_left hnames
      have hbase := (pathNames_foldl_join hne hinit).1
      rw [List.foldl_append, List.foldl_cons, List.foldl_nil,
        fileName?_join hbase (isSuffix_pub.isName hname), Option.getD_some, isCandidate_pub]
      simp

theorem Enumerates.perm {other : List String} (h : Enumerates space paths)
    (hperm : other.Perm paths) : Enumerates space other where
  files := fun path hpath => h.files path (hperm.subset hpath)
  apart := (hperm.pairwise_iff fun hne => hne.symm).2 h.apart

end KeyLibrary
end SshTemplate
