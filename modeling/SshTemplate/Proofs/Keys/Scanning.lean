import Mathlib.Data.List.Perm.Basic
import SshTemplate.Proofs.Files.Changes
import SshTemplate.Proofs.Keys.Candidates

/-!
# `Proofs.Keys.Scanning` — what a search for keys writes and what it finds

A search looks at files one after the other and may write a file for each, and the files it writes
lie among those that it looks at. So the first thing to be said is that the visits do not get into
each other's way: *what a visit does is decided by the tree that the search began with*. `verdict`
is that decision, of the key and of what stands under the name of its public half, and
`KeyAt.inspect` says that a visit carries it out.

The invariant is `ScanState`. It speaks of the tree that the search began with and of the files
visited so far, and not of their order: every entry is the old one or a public half that a visited
file was to get, and every visited file has got its own. From there the rest follows. Two searches
end in the same tree because both are described by the same invariant; and a second search changes
nothing because a file that was given a public half is not given one again, and is then known by the
fingerprint that it was known by (`verdict_of_written`).
-/

set_option autoImplicit false

namespace SshTemplate
namespace KeyLibrary

open FileTree Text

variable {tool : KeyTool} {space : Workspace} {path name : String} {parent : Place}
  {key : ByteArray}

/-! ## One visit -/

/-- Whether a file of the name of the public half can be there: neither the path nor the name may be
    too long. -/
def PublicFits (path name : String) : Prop :=
  byteLength (publicPath path).toList < pathLimit ∧ byteLength (name ++ ".pub").toList ≤ maxName

instance : Decidable (PublicFits path name) := inferInstanceAs (Decidable (_ ∧ _))

theorem KeyAt.locate_publicPath (h : KeyAt space path parent name key) :
    space.tree.locate space.here (publicPath path) =
      if byteLength (publicPath path).toList < pathLimit then
        .ok ⟨parent, .name (name ++ ".pub") false⟩
      else .error .nameTooLong := by
  unfold publicPath
  rw [locate_append isSuffix_pub h.target]
  by_cases hlong : pathLimit ≤ byteLength (path ++ ".pub").toList
  · rw [if_pos hlong, if_neg (Nat.not_lt.2 hlong)]
  · rw [if_neg hlong, if_pos (Nat.lt_of_not_le hlong)]

theorem KeyAt.entry?_publicPath (h : KeyAt space path parent name key) :
    space.entry? (publicPath path) =
      if PublicFits path name then space.tree.entry? (parent ++ [name ++ ".pub"]) else none := by
  have htarget := h.locate_publicPath
  by_cases hpath : byteLength (publicPath path).toList < pathLimit
  · rw [if_pos hpath] at htarget
    rw [Workspace.entry?_of_locate_name htarget]
    by_cases hname : byteLength (name ++ ".pub").toList ≤ maxName
    · rw [if_pos hname, if_pos ⟨hpath, hname⟩]
    · rw [if_neg hname, if_neg fun hfits => hname hfits.2]
  · rw [if_neg hpath] at htarget
    rw [if_neg fun hfits => hpath hfits.1]
    unfold Workspace.entry? find
    rw [htarget]
    rfl

/-- The workspace with a public half written. -/
def withHalf (space : Workspace) (path name : String) (parent : Place) (half : ByteArray) :
    Workspace :=
  { space with
    tree := space.tree.put (parent ++ [name ++ ".pub"]) (.file half)
    changes := space.changes ++ [.write (publicPath path) half] }

theorem KeyAt.perform_write (h : KeyAt space path parent name key)
    (hnone : space.entry? (publicPath path) = none) (half : ByteArray) :
    (PublicFits path name → space.perform (.write (publicPath path) half) =
      .ok (withHalf space path name parent half)) ∧
    (¬ PublicFits path name → ∃ fault, space.perform (.write (publicPath path) half) =
      .error fault) := by
  have htarget := h.locate_publicPath
  constructor
  · intro hfits
    rw [if_pos hfits.1] at htarget
    rw [h.entry?_publicPath, if_pos hfits] at hnone
    have hwrite : space.tree.write space.here (publicPath path) half =
        .ok (space.tree.put (parent ++ [name ++ ".pub"]) (.file half)) :=
      write_eq_ok_iff.2 ⟨parent, _, htarget, hfits.2, by rw [hnone]; simp, rfl⟩
    exact Workspace.perform_eq_ok_iff.2 ⟨_, hwrite, rfl⟩
  · intro hnot
    cases hperform : space.perform (.write (publicPath path) half) with
    | error fault => exact ⟨fault, rfl⟩
    | ok next =>
      obtain ⟨tree, hwrite, -⟩ := Workspace.perform_eq_ok_iff.1 hperform
      obtain ⟨parent', name', hother, hshort, -⟩ := write_eq_ok_iff.1 hwrite
      rw [hother] at htarget
      split at htarget
      · next hpath =>
        cases htarget
        exact absurd ⟨hpath, hshort⟩ hnot
      · cases htarget

/-- The fingerprint that a tool's answer holds. -/
def fingerprintIn (answer : ByteArray) : Option String :=
  fingerprintOf? (decodeLossy answer.toList)

theorem readAnswer_eq (space : Workspace) (path : String) (answer : ByteArray) :
    (readAnswer space path answer).space = space ∧
      (readAnswer space path answer).fingerprint = fingerprintIn answer := by
  unfold readAnswer fingerprintIn
  dsimp only
  cases fingerprintOf? (decodeLossy answer.toList) with
  | none => exact ⟨rfl, rfl⟩
  | some fingerprint => exact ⟨rfl, rfl⟩

/-- What a visit comes to: the fingerprint, and the public half that is written. -/
structure Verdict where
  fingerprint : Option String
  written : Option ByteArray

/-- What becomes of a key, seen the entry under the name of its public half; `fits` if there can be
    one. -/
def verdict (tool : KeyTool) (key : ByteArray) (publicHalf : Option Entry) (fits : Bool) :
    Verdict :=
  match tool.describe? key publicHalf with
  | some answer => ⟨fingerprintIn answer, none⟩
  | none =>
    match publicHalf, tool.publicHalf? key, fits with
    | none, some half, true =>
      ⟨(tool.describe? key (some (.file half))).bind fingerprintIn, some half⟩
    | _, _, _ => ⟨none, none⟩

/-- **What is generated once is found the next time**, with the same fingerprint. -/
theorem verdict_of_written {publicHalf : Option Entry} {fits : Bool} {half : ByteArray}
    (h : (verdict tool key publicHalf fits).written = some half) :
    publicHalf = none ∧ fits = true ∧ tool.publicHalf? key = some half ∧
      verdict tool key (some (.file half)) fits =
        ⟨(verdict tool key publicHalf fits).fingerprint, none⟩ := by
  unfold verdict at h ⊢
  cases hdescribe : tool.describe? key publicHalf with
  | some answer => rw [hdescribe] at h; cases h
  | none =>
    rw [hdescribe] at h
    dsimp only at h ⊢
    split at h
    · next generated hgenerated =>
      cases h
      refine ⟨rfl, rfl, hgenerated, ?_⟩
      cases tool.describe? key (some (.file half)) with
      | none => rfl
      | some answer => rfl
    · cases h

/-- What a path is the path of depends on the directories and on the file. -/
theorem KeyAt.mono {after : Workspace} (h : KeyAt space path parent name key)
    (hhere : after.here = space.here) (hkept : EntriesKept space.tree after.tree) :
    KeyAt after path parent name key where
  target := hhere ▸ locate_mono hkept.directoriesKept h.target
  short := h.short
  entry := hkept _ _ h.entry

theorem entriesKept_put {tree : FileTree} {place : Place} (h : tree.entry? place = none)
    (entry : Entry) : EntriesKept tree (tree.put place entry) := by
  intro other found hfound
  have hne : place ≠ [] := by
    rintro rfl
    cases h
  rw [entry?_put tree hne, if_neg, hfound]
  rintro rfl
  rw [h] at hfound
  cases hfound

/-- Once it is written, the public half is there. -/
theorem KeyAt.entry?_withHalf (h : KeyAt space path parent name key) (hfits : PublicFits path name)
    (hnone : space.entry? (publicPath path) = none) (half : ByteArray) :
    Workspace.entry? (withHalf space path name parent half) (publicPath path) =
      some (.file half) := by
  rw [h.entry?_publicPath, if_pos hfits] at hnone
  have hafter : KeyAt (withHalf space path name parent half) path parent name key :=
    h.mono rfl (entriesKept_put hnone (.file half))
  rw [hafter.entry?_publicPath, if_pos hfits]
  exact (entry?_put space.tree (by simp) _ _).trans (if_pos rfl)

/-- **A visit carries out the verdict.** -/
theorem KeyAt.inspect (tool : KeyTool) (h : KeyAt space path parent name key) :
    (inspect tool path space).fingerprint =
        (verdict tool key (space.entry? (publicPath path)) (PublicFits path name)).fingerprint ∧
      (inspect tool path space).space =
        ((verdict tool key (space.entry? (publicPath path)) (PublicFits path name)).written).elim
          space (withHalf space path name parent) := by
  have hentry : space.entry? path = some (.file key) := exists_keyAt_iff.2 ⟨parent, name, h⟩
  unfold KeyLibrary.inspect verdict
  rw [hentry]
  dsimp only
  cases hdescribe : tool.describe? key (space.entry? (publicPath path)) with
  | some answer =>
    obtain ⟨hspace, hfingerprint⟩ := readAnswer_eq space path answer
    exact ⟨hfingerprint, hspace⟩
  | none =>
    dsimp only
    unfold inspectAgain
    rw [Workspace.holds_eq_isSome]
    cases hhalf : space.entry? (publicPath path) with
    | some entry => exact ⟨rfl, rfl⟩
    | none =>
      rw [Option.isSome_none, if_neg (by simp)]
      cases tool.publicHalf? key with
      | none => exact ⟨rfl, rfl⟩
      | some half =>
        obtain ⟨hwritten, hrefused⟩ := h.perform_write hhalf half
        dsimp only
        by_cases hfits : PublicFits path name
        · rw [hwritten hfits, decide_eq_true hfits]
          dsimp only
          rw [h.entry?_withHalf hfits hhalf]
          cases tool.describe? key (some (.file half)) with
          | none => exact ⟨rfl, rfl⟩
          | some answer =>
            obtain ⟨hspace, hfingerprint⟩ :=
              readAnswer_eq (withHalf space path name parent half) path answer
            exact ⟨hfingerprint, hspace⟩
        · obtain ⟨fault, hfault⟩ := hrefused hfits
          rw [hfault, decide_eq_false hfits]
          exact ⟨rfl, rfl⟩

/-- Where there is no key, nothing is done. -/
theorem inspect_of_no_key (tool : KeyTool) (h : ∀ key, space.entry? path ≠ some (.file key)) :
    (inspect tool path space).fingerprint = none ∧ (inspect tool path space).space = space := by
  unfold inspect
  split
  · next key hkey => exact absurd hkey (h key)
  · exact ⟨rfl, rfl⟩

/-! ## Many visits -/

/-- The public half that a visit of the path writes, and the place where it does. -/
def Generates (tool : KeyTool) (space : Workspace) (path : String) (place : Place)
    (half : ByteArray) : Prop :=
  ∃ parent name key, KeyAt space path parent name key ∧ place = parent ++ [name ++ ".pub"] ∧
    (verdict tool key (space.entry? (publicPath path)) (PublicFits path name)).written = some half

theorem Generates.entry?_eq_none {place : Place} {half : ByteArray}
    (h : Generates tool space path place half) : space.tree.entry? place = none := by
  obtain ⟨parent, name, key, hkey, rfl, hwritten⟩ := h
  obtain ⟨hnone, hfits, -⟩ := verdict_of_written hwritten
  rw [hkey.entry?_publicPath, if_pos (of_decide_eq_true hfits)] at hnone
  exact hnone

/-- A path is that of one key only. -/
theorem KeyAt.unique {parent' : Place} {name' : String} {key' : ByteArray}
    (h : KeyAt space path parent name key) (h' : KeyAt space path parent' name' key') :
    parent = parent' ∧ name = name' ∧ key = key' := by
  obtain ⟨rfl, hname⟩ := List.append_inj' (h.denoted_eq.symm.trans h'.denoted_eq) rfl
  obtain rfl := List.singleton_inj.1 hname
  have hentry := h.entry.symm.trans h'.entry
  cases hentry
  exact ⟨rfl, rfl, rfl⟩

/-- The places of public halves are as different as those of the keys. -/
theorem Generates.denoted_eq {path' : String} {half : ByteArray}
    (h : Generates tool space path' (parent ++ [name ++ ".pub"]) half)
    (hkey : KeyAt space path parent name key) :
    denoted space.here path' = denoted space.here path := by
  obtain ⟨parent', name', key', hkey', hplace, -⟩ := h
  obtain ⟨rfl, hname⟩ := List.append_inj' hplace rfl
  obtain rfl : name = name' := by
    have hlists := congrArg String.toList (List.singleton_inj.1 hname)
    rw [String.toList_append, String.toList_append] at hlists
    exact String.toList_inj.1 (List.append_cancel_right hlists)
  rw [hkey'.denoted_eq, hkey.denoted_eq]

theorem Generates.unique {place place' : Place} {half half' : ByteArray}
    (h : Generates tool space path place half) (h' : Generates tool space path place' half') :
    place = place' ∧ half = half' := by
  obtain ⟨parent, name, key, hkey, rfl, hwritten⟩ := h
  obtain ⟨parent', name', key', hkey', rfl, hwritten'⟩ := h'
  obtain ⟨rfl, rfl, rfl⟩ := hkey.unique hkey'
  exact ⟨rfl, Option.some.inj (hwritten.symm.trans hwritten')⟩

/-- Every entry is the old one or the public half for one of the paths. -/
def OnlyHalvesAdded (tool : KeyTool) (space : Workspace) (paths : List String) (tree : FileTree) :
    Prop :=
  ∀ place, tree.entry? place = space.tree.entry? place ∨
    ∃ path ∈ paths, ∃ half, Generates tool space path place half ∧
      tree.entry? place = some (.file half)

theorem OnlyHalvesAdded.mono {paths more : List String} {tree : FileTree}
    (h : OnlyHalvesAdded tool space paths tree) (hsub : paths ⊆ more) :
    OnlyHalvesAdded tool space more tree := fun place =>
  (h place).imp_right fun ⟨path, hpath, hhalf⟩ => ⟨path, hsub hpath, hhalf⟩

/-- The state of a search that has visited `done`, in terms of where it began. -/
structure ScanState (tool : KeyTool) (space : Workspace) (done : List String) (after : Workspace) :
    Prop where
  moments : space.Throughout (OnlyHalvesAdded tool space done) after
  /-- Every visited path has got its public half. -/
  halves : ∀ path ∈ done, ∀ place half, Generates tool space path place half →
    after.tree.entry? place = some (.file half)
  /-- What is new comes last. -/
  listed : ∃ more, after.tree.entries.entries = space.tree.entries.entries ++ more ∧
    ∀ entry ∈ more, ∃ path ∈ done, ∃ half, Generates tool space path entry.1 half

namespace ScanState

variable {done paths : List String} {after : Workspace}

theorem start (tool : KeyTool) (space : Workspace) : ScanState tool space [] space where
  moments := .start fun _ => Or.inl rfl
  halves := fun _ hpath => absurd hpath List.not_mem_nil
  listed := ⟨[], (List.append_nil _).symm, fun _ hentry => absurd hentry List.not_mem_nil⟩

theorem here_eq (h : ScanState tool space done after) : after.here = space.here :=
  h.moments.here_eq

theorem kept (h : ScanState tool space done after) : EntriesKept space.tree after.tree := by
  intro place entry hentry
  rcases h.moments.last place with hsame | ⟨path, -, half, hgenerates, -⟩
  · rw [hsame, hentry]
  · rw [hgenerates.entry?_eq_none] at hentry
    cases hentry

/-- Only files are new, so what a path leads to is found as before. -/
theorem directoriesKept (h : ScanState tool space done after) :
    DirectoriesKept after.tree space.tree := by
  intro place hplace
  rcases h.moments.last place with hsame | ⟨path, -, half, -, hfile⟩
  · rw [← hsame, hplace]
  · rw [hplace] at hfile
    cases hfile

/-- **No visit adds or hides a key.** -/
theorem keyAt_iff (h : ScanState tool space done after) (hpaths : Enumerates space paths)
    (hpath : path ∈ paths) :
    KeyAt after path parent name key ↔ KeyAt space path parent name key := by
  constructor
  · intro hkey
    obtain ⟨old, hold⟩ := hpaths.files path hpath
    have hplace : denoted space.here path = parent ++ [name] := h.here_eq ▸ hkey.denoted_eq
    rw [hplace] at hold
    obtain rfl : old = key := by
      have hnew := h.kept _ _ hold
      rw [hkey.entry] at hnew
      cases hnew
      rfl
    exact ⟨h.here_eq ▸ locate_mono h.directoriesKept hkey.target, hkey.short, hold⟩
  · exact fun hkey => hkey.mono h.here_eq h.kept

/-- A path at which there was no key: a visit finds nothing and does nothing, then as later. -/
theorem visit_of_no_key (h : ScanState tool space done after) (hpaths : Enumerates space paths)
    (hpath : path ∈ paths) (hnone : ∀ key, space.entry? path ≠ some (.file key)) :
    (inspect tool path after).fingerprint = (inspect tool path space).fingerprint ∧
      (inspect tool path after).space = after := by
  have hlater : ∀ key, after.entry? path ≠ some (.file key) := by
    intro key hkey
    obtain ⟨parent, name, hkey⟩ := exists_keyAt_iff.1 hkey
    exact hnone key (exists_keyAt_iff.2 ⟨parent, name, (h.keyAt_iff hpaths hpath).1 hkey⟩)
  obtain ⟨hfingerprint, hspace⟩ := inspect_of_no_key tool hlater
  exact ⟨hfingerprint.trans (inspect_of_no_key tool hnone).1.symm, hspace⟩

/-- **What a key's public half is depends on the visit of that key alone.** -/
theorem entry?_publicPath (h : ScanState tool space done after) (hpaths : Enumerates space paths)
    (hdone : ∀ path ∈ done, path ∈ paths) (hpath : path ∈ paths)
    (hkey : KeyAt space path parent name key)
    (hnothing : path ∈ done →
      (verdict tool key (space.entry? (publicPath path)) (PublicFits path name)).written = none) :
    after.entry? (publicPath path) = space.entry? (publicPath path) := by
  rw [hkey.entry?_publicPath, ((h.keyAt_iff hpaths hpath).2 hkey).entry?_publicPath]
  split
  · rcases h.moments.last (parent ++ [name ++ ".pub"]) with hsame | ⟨other, hother, half, hhalf, -⟩
    · exact hsame
    · obtain rfl := hpaths.eq_of_denoted_eq (hdone other hother) hpath (hhalf.denoted_eq hkey)
      obtain ⟨parent', name', key', hkey', -, hwritten⟩ := hhalf
      obtain ⟨rfl, rfl, rfl⟩ := hkey.unique hkey'
      rw [hnothing hother] at hwritten
      cases hwritten
  · rfl

/-- A visit that writes nothing. -/
theorem still (h : ScanState tool space done after)
    (hnothing : ∀ place half, ¬ Generates tool space path place half) :
    ScanState tool space (done ++ [path]) after where
  moments := h.moments.imp fun _ hold => hold.mono (List.subset_append_left _ _)
  halves := by
    intro other hother place half hgenerates
    rcases List.mem_append.1 hother with hother | hother
    · exact h.halves other hother place half hgenerates
    · obtain rfl := List.mem_singleton.1 hother
      exact absurd hgenerates (hnothing place half)
  listed := by
    obtain ⟨more, hentries, hmore⟩ := h.listed
    refine ⟨more, hentries, fun entry hentry => ?_⟩
    obtain ⟨other, hother, hhalf⟩ := hmore entry hentry
    exact ⟨other, List.mem_append_left _ hother, hhalf⟩

/-- A visit that writes the public half of its key. -/
theorem written {half : ByteArray} (h : ScanState tool space done after)
    (hkey : KeyAt space path parent name key) (hkey' : KeyAt after path parent name key)
    (hhalf : after.entry? (publicPath path) = space.entry? (publicPath path))
    (hwritten : (verdict tool key (space.entry? (publicPath path))
      (PublicFits path name)).written = some half) :
    ScanState tool space (done ++ [path]) (withHalf after path name parent half) := by
  obtain ⟨hnone, hfits, -⟩ := verdict_of_written hwritten
  have hfits : PublicFits path name := of_decide_eq_true hfits
  rw [hnone] at hhalf
  have hfree : after.tree.entry? (parent ++ [name ++ ".pub"]) = none := by
    rw [hkey'.entry?_publicPath, if_pos hfits] at hhalf
    exact hhalf
  have hmine : Generates tool space path (parent ++ [name ++ ".pub"]) half :=
    ⟨parent, name, key, hkey, rfl, hwritten⟩
  have hlast : path ∈ done ++ [path] := List.mem_append_right _ (List.mem_singleton_self _)
  have hentry : ∀ place, entry? (withHalf after path name parent half).tree place =
      if place = parent ++ [name ++ ".pub"] then some (.file half) else after.tree.entry? place :=
    entry?_put after.tree (by simp) _
  refine ⟨?moments, ?halves, ?listed⟩
  case moments =>
    have hbefore := h.moments.imp fun _ hold => hold.mono (List.subset_append_left done [path])
    refine hbefore.change ((hkey'.perform_write hhalf half).1 hfits) fun place => ?_
    rw [hentry]
    split
    · next hplace => exact Or.inr ⟨path, hlast, half, hplace ▸ hmine, rfl⟩
    · exact hbefore.last place
  case halves =>
    intro other hother place half' hgenerates
    rw [hentry]
    rcases List.mem_append.1 hother with hother | hother
    · have hthere := h.halves other hother place half' hgenerates
      rw [if_neg, hthere]
      rintro rfl
      rw [hfree] at hthere
      cases hthere
    · obtain rfl := List.mem_singleton.1 hother
      obtain ⟨rfl, rfl⟩ := hmine.unique hgenerates
      exact if_pos rfl
  case listed =>
    obtain ⟨more, hentries, hmore⟩ := h.listed
    refine ⟨more ++ [(parent ++ [name ++ ".pub"], .file half)], ?_, fun entry hentry => ?_⟩
    · rw [entry?_of_ne_nil _ (by simp)] at hfree
      refine (Dictionary.entries_insert_of_not_mem (Dictionary.get?_eq_none_iff.1 hfree) _).trans ?_
      rw [hentries, List.append_assoc]
    · rcases List.mem_append.1 hentry with hentry | hentry
      · obtain ⟨other, hother, hhalf⟩ := hmore entry hentry
        exact ⟨other, List.mem_append_left _ hother, hhalf⟩
      · obtain rfl := List.mem_singleton.1 hentry
        exact ⟨path, hlast, half, hmine⟩

/-- **One visit.** It finds what it would have found at the beginning, and it leaves its mark on the
    tree and no other one. -/
theorem visit (h : ScanState tool space done after) (hpaths : Enumerates space paths)
    (hdone : ∀ path ∈ done, path ∈ paths) (hpath : path ∈ paths) (hfresh : path ∉ done) :
    (inspect tool path after).fingerprint = (inspect tool path space).fingerprint ∧
      ScanState tool space (done ++ [path]) (inspect tool path after).space := by
  by_cases hfound : ∃ key, space.entry? path = some (.file key)
  · obtain ⟨key, hfound⟩ := hfound
    obtain ⟨parent, name, hkey⟩ := exists_keyAt_iff.1 hfound
    have hkey' := (h.keyAt_iff hpaths hpath).2 hkey
    have hhalf := h.entry?_publicPath hpaths hdone hpath hkey fun hmem => absurd hmem hfresh
    obtain ⟨hfingerprint, hspace⟩ := hkey'.inspect tool
    rw [hhalf] at hfingerprint hspace
    refine ⟨hfingerprint.trans (hkey.inspect tool).1.symm, ?_⟩
    rw [hspace]
    cases hwritten :
        (verdict tool key (space.entry? (publicPath path)) (PublicFits path name)).written with
    | none =>
      refine h.still fun place half hgenerates => ?_
      obtain ⟨parent', name', key', hother, -, hsome⟩ := hgenerates
      obtain ⟨rfl, rfl, rfl⟩ := hkey.unique hother
      rw [hwritten] at hsome
      cases hsome
    | some half =>
      exact h.written hkey hkey' hhalf hwritten
  · have hnone : ∀ key, space.entry? path ≠ some (.file key) := fun key hkey =>
      hfound ⟨key, hkey⟩
    obtain ⟨hfingerprint, hspace⟩ := h.visit_of_no_key hpaths hpath hnone
    refine ⟨hfingerprint, ?_⟩
    rw [hspace]
    refine h.still fun place half hgenerates => ?_
    obtain ⟨parent, name, key, hkey, -⟩ := hgenerates
    exact hnone key (exists_keyAt_iff.2 ⟨parent, name, hkey⟩)

/-- **A second visit** finds what the first one found, and there is nothing left to write. -/
theorem again (h : ScanState tool space paths after) (hpaths : Enumerates space paths)
    (hpath : path ∈ paths) :
    (inspect tool path after).fingerprint = (inspect tool path space).fingerprint ∧
      (inspect tool path after).space = after := by
  by_cases hfound : ∃ key, space.entry? path = some (.file key)
  · obtain ⟨key, hfound⟩ := hfound
    obtain ⟨parent, name, hkey⟩ := exists_keyAt_iff.1 hfound
    have hkey' := (h.keyAt_iff hpaths hpath).2 hkey
    obtain ⟨hfingerprint, hspace⟩ := hkey'.inspect tool
    cases hwritten :
        (verdict tool key (space.entry? (publicPath path)) (PublicFits path name)).written with
    | none =>
      have hhalf := h.entry?_publicPath hpaths (fun _ => id) hpath hkey fun _ => hwritten
      rw [hhalf] at hfingerprint hspace
      rw [hwritten] at hspace
      exact ⟨hfingerprint.trans (hkey.inspect tool).1.symm, hspace⟩
    | some half =>
      obtain ⟨-, hfits, -, hnext⟩ := verdict_of_written hwritten
      have hhalf : after.entry? (publicPath path) = some (.file half) := by
        rw [hkey'.entry?_publicPath, if_pos (of_decide_eq_true hfits)]
        exact h.halves path hpath _ half ⟨parent, name, key, hkey, rfl, hwritten⟩
      rw [hhalf, hnext] at hfingerprint hspace
      exact ⟨hfingerprint.trans (hkey.inspect tool).1.symm, hspace⟩
  · exact h.visit_of_no_key hpaths hpath fun key hkey => hfound ⟨key, hkey⟩

end ScanState

/-! ## Whole searches -/

/-- The keys that visits of the paths find, with their fingerprints. -/
def found (tool : KeyTool) (space : Workspace) (paths : List String) : List (String × String) :=
  paths.filterMap fun path => (inspect tool path space).fingerprint.map (·, path)

theorem found_cons (tool : KeyTool) (space : Workspace) (path : String) (rest : List String) :
    found tool space (path :: rest) =
      ((inspect tool path space).fingerprint.map (·, path)).toList ++ found tool space rest := by
  unfold found
  rw [List.filterMap_cons]
  cases (inspect tool path space).fingerprint <;> rfl

/-- The file of a fingerprint is the first one that is found with it. -/
theorem find?_found (tool : KeyTool) (space : Workspace) (paths : List String)
    (fingerprint : String) :
    ((found tool space paths).find? fun pair => pair.1 = fingerprint).map Prod.snd =
      paths.find? fun path => (inspect tool path space).fingerprint = some fingerprint := by
  induction paths with
  | nil => rfl
  | cons path rest ih =>
    rw [found_cons, List.find?_append, Option.map_or, ih, List.find?_cons]
    cases (inspect tool path space).fingerprint with
    | none => simp
    | some other =>
      by_cases hother : other = fingerprint
      · simp [hother]
      · simp [hother]

theorem lookup_add (library : KeyLibrary) (pair : String × String) (fingerprint : String) :
    (library.add pair.1 pair.2).lookup fingerprint =
      (library.lookup fingerprint).or (if pair.1 = fingerprint then some pair.2 else none) := by
  unfold add lookup
  rw [Dictionary.get?_insertNew]
  by_cases hpair : fingerprint = pair.1
  · subst hpair
    rw [if_pos rfl]
    by_cases hbound : pair.1 ∈ library.files.keys
    · rw [if_neg fun h => h.2 hbound]
      cases hget : library.files.get? pair.1 with
      | none => exact absurd hbound (Dictionary.get?_eq_none_iff.1 hget)
      | some path => rfl
    · rw [if_pos ⟨rfl, hbound⟩, Dictionary.get?_eq_none_iff.2 hbound]
      rfl
  · rw [if_neg fun h => hpair h.1, if_neg (Ne.symm hpair), Option.or_none]

theorem lookup_addAll (library : KeyLibrary) (pairs : List (String × String))
    (fingerprint : String) :
    (library.addAll pairs).lookup fingerprint =
      (library.lookup fingerprint).or
        ((pairs.find? fun pair => pair.1 = fingerprint).map Prod.snd) := by
  induction pairs generalizing library with
  | nil => exact (Option.or_none).symm
  | cons pair rest ih =>
    refine (ih (library.add pair.1 pair.2)).trans ?_
    rw [lookup_add, Option.or_assoc, List.find?_cons]
    by_cases hpair : pair.1 = fingerprint
    · simp [hpair]
    · simp [hpair]

/-- A visit in terms of what it finds. -/
theorem visit_eq (tool : KeyTool) (scan : Scan) (path : String) :
    (Scan.visit tool scan path).space = (inspect tool path scan.space).space ∧
      (Scan.visit tool scan path).library = scan.library.addAll
        ((inspect tool path scan.space).fingerprint.map (·, path)).toList := by
  unfold Scan.visit
  dsimp only
  cases (inspect tool path scan.space).fingerprint with
  | none => exact ⟨rfl, rfl⟩
  | some fingerprint => exact ⟨rfl, rfl⟩

/-- **Many visits** find what each of them would have found at the beginning. -/
theorem ScanState.visits {done rest : List String} (scan : Scan)
    (hpaths : Enumerates space (done ++ rest)) (h : ScanState tool space done scan.space) :
    ScanState tool space (done ++ rest) (rest.foldl (Scan.visit tool) scan).space ∧
      (rest.foldl (Scan.visit tool) scan).library =
        scan.library.addAll (found tool space rest) := by
  induction rest generalizing done scan with
  | nil => exact ⟨(List.append_nil done).symm ▸ h, rfl⟩
  | cons path rest ih =>
    have hfresh : path ∉ done := by
      intro hmem
      exact (List.pairwise_append.1 hpaths.apart).2.2 path hmem path List.mem_cons_self rfl
    obtain ⟨hfingerprint, hstate⟩ := h.visit hpaths (fun _ => List.mem_append_left _)
      (List.mem_append_right _ List.mem_cons_self) hfresh
    obtain ⟨hspace, hlibrary⟩ := visit_eq tool scan path
    rw [List.append_cons] at hpaths ⊢
    obtain ⟨hlast, hall⟩ := ih (Scan.visit tool scan path) hpaths (hspace ▸ hstate)
    refine ⟨hlast, hall.trans ?_⟩
    rw [hlibrary, hfingerprint, found_cons]
    exact List.foldl_append.symm

/-- Visits that leave everything as it is. -/
theorem visits_of_still {paths : List String} (scan : Scan)
    (h : ∀ path ∈ paths, (inspect tool path scan.space).space = scan.space) :
    (paths.foldl (Scan.visit tool) scan).space = scan.space ∧
      (paths.foldl (Scan.visit tool) scan).library =
        scan.library.addAll (found tool scan.space paths) := by
  induction paths generalizing scan with
  | nil => exact ⟨rfl, rfl⟩
  | cons path rest ih =>
    obtain ⟨hfirst, hrest⟩ := List.forall_mem_cons.1 h
    obtain ⟨hspace, hlibrary⟩ := visit_eq tool scan path
    have hsame := hspace.trans hfirst
    obtain ⟨hlast, hall⟩ := ih (Scan.visit tool scan path) (hsame ▸ hrest)
    refine ⟨hlast.trans hsame, hall.trans ?_⟩
    rw [hsame, hlibrary, found_cons]
    exact List.foldl_append.symm

/-- What a search may have done to the tree at any moment: where nothing was, there is the public
    half of a candidate. Everything else is as it was. -/
def GainsPublicHalves (tool : Option KeyTool) (space : Workspace) (root : String)
    (tree : FileTree) : Prop :=
  ∀ place, tree.entry? place = space.tree.entry? place ∨
    space.tree.entry? place = none ∧ ∃ path ∈ candidates space root,
      place = denoted space.here (publicPath path) ∧ ∃ key half,
        space.entry? path = some (.file key) ∧
          (tool.bind fun tool => tool.publicHalf? key) = some half ∧
          tree.entry? place = some (.file half)

theorem GainsPublicHalves.sameDirectories {maker : Option KeyTool} {root : String}
    {tree : FileTree} (h : GainsPublicHalves maker space root tree) :
    SameDirectories space.tree tree := by
  intro place
  rcases h place with hsame | ⟨hnone, path, -, -, key, half, -, -, hfile⟩
  · rw [hsame]
  · rw [hnone, hfile]
    simp

theorem OnlyHalvesAdded.gains {root : String} {paths : List String} {tree : FileTree}
    (h : OnlyHalvesAdded tool space paths tree) (hpaths : paths ⊆ candidates space root) :
    GainsPublicHalves (some tool) space root tree := by
  refine fun place => (h place).imp_right fun ⟨path, hpath, half, hgenerates, hentry⟩ => ?_
  have hfree := hgenerates.entry?_eq_none
  obtain ⟨parent, name, key, hkey, rfl, hwritten⟩ := hgenerates
  obtain ⟨-, hfits, hgenerated, -⟩ := verdict_of_written hwritten
  have htarget := hkey.locate_publicPath
  rw [if_pos (of_decide_eq_true hfits).1] at htarget
  exact ⟨hfree, path, hpaths hpath, (locate_eq_ok htarget).1, key, half,
    exists_keyAt_iff.2 ⟨parent, name, hkey⟩, hgenerated, hentry⟩

/-- Two searches that have visited the same paths have come to the same tree. -/
theorem ScanState.entry?_eq {done done' : List String} {after after' : Workspace}
    (h : ScanState tool space done after) (h' : ScanState tool space done' after')
    (hsame : done ⊆ done') (hsame' : done' ⊆ done) (place : Place) :
    after.tree.entry? place = after'.tree.entry? place := by
  rcases h.moments.last place with hold | ⟨path, hpath, half, hgenerates, hnew⟩
  · rcases h'.moments.last place with hold' | ⟨path, hpath, half, hgenerates, hnew'⟩
    · rw [hold, hold']
    · rw [hnew', h.halves path (hsame' hpath) place half hgenerates]
  · rw [hnew, h'.halves path (hsame hpath) place half hgenerates]

variable {root : String} {paths : List String}

/-- What a search comes to, in terms of where it began. -/
theorem scanState_visitAll (tool : KeyTool) (root : String) (hpaths : Enumerates space paths) :
    ScanState tool space paths (visitAll tool root space paths).space ∧
      (visitAll tool root space paths).library = (empty root).addAll (found tool space paths) :=
  ScanState.visits ⟨space, .empty root, []⟩ hpaths (.start tool space)

theorem lookup_visitAll (tool : KeyTool) (root : String) (hpaths : Enumerates space paths)
    (fingerprint : String) :
    (visitAll tool root space paths).library.lookup fingerprint =
      paths.find? fun path => (inspect tool path space).fingerprint = some fingerprint := by
  rw [(scanState_visitAll tool root hpaths).2, lookup_addAll, find?_found]
  rfl

/-- With a tool or without one, all that a search does is to add public halves. -/
theorem scan_gains (maker : Option KeyTool) (hnamed : space.tree.WellNamed) (root : String) :
    space.Throughout (GainsPublicHalves maker space root) (scan maker space root).space := by
  cases maker with
  | none => exact .start fun _ => Or.inl rfl
  | some tool =>
    have hstate := (scanState_visitAll tool root (enumerates_candidates hnamed root)).1
    exact hstate.moments.imp fun _ hold => hold.gains (List.Subset.refl _)

/-- What is said of visits to the candidates of a directory, in whatever order they come. -/
theorem visitAll_adds (tool : KeyTool) (hnamed : space.tree.WellNamed)
    (hpaths : paths.Perm (candidates space root)) :
    let scan := visitAll tool root space paths
    space.Throughout (GainsPublicHalves (some tool) space root) scan.space ∧
    (∀ fingerprint, scan.library.lookup fingerprint =
      paths.find? fun path => (inspect tool path space).fingerprint = some fingerprint) ∧
    (∀ others : List String, others.Perm (candidates space root) →
      let other := visitAll tool root space others
      (∀ fingerprint, (other.library.lookup fingerprint).isSome =
        (scan.library.lookup fingerprint).isSome) ∧
      ∀ place, other.space.tree.entry? place = scan.space.tree.entry? place) ∧
    candidates scan.space root = candidates space root ∧
    (visitAll tool root scan.space paths).space = scan.space ∧
    (visitAll tool root scan.space paths).library = scan.library := by
  intro scan
  have henumerates : Enumerates space paths := (enumerates_candidates hnamed root).perm hpaths
  obtain ⟨hstate, hlibrary⟩ := scanState_visitAll tool root henumerates
  refine ⟨hstate.moments.imp fun _ hold => hold.gains hpaths.subset,
    lookup_visitAll tool root henumerates, ?orders, ?candidates, ?again⟩
  case orders =>
    intro others hothers other
    have hperm : others.Perm paths := hothers.trans hpaths.symm
    have hother := henumerates.perm hperm
    refine ⟨fun fingerprint => ?_, fun place => ?_⟩
    · rw [lookup_visitAll tool root hother, lookup_visitAll tool root henumerates,
        Bool.eq_iff_iff, List.find?_isSome, List.find?_isSome]
      simp only [hperm.mem_iff]
    · exact (scanState_visitAll tool root hother).1.entry?_eq hstate hperm.subset
        hperm.symm.subset place
  case candidates =>
    obtain ⟨more, hentries, hmore⟩ := hstate.listed
    refine candidates_append hnamed hstate.here_eq hstate.kept hentries fun entry hentry => ?_
    obtain ⟨path, hpath, half, hgenerates⟩ := hmore entry hentry
    refine ⟨hgenerates.entry?_eq_none, path, hpaths.subset hpath, ?_⟩
    obtain ⟨parent, name, key, hkey, hplace, -⟩ := hgenerates
    exact ⟨parent, name, key, hkey, hplace⟩
  case again =>
    have hstill : ∀ path ∈ paths,
        (inspect tool path scan.space).fingerprint = (inspect tool path space).fingerprint ∧
          (inspect tool path scan.space).space = scan.space :=
      fun _ hpath => hstate.again henumerates hpath
    obtain ⟨hspace, hagain⟩ := visits_of_still ⟨scan.space, .empty root, []⟩
      fun path hpath => (hstill path hpath).2
    refine ⟨hspace, hagain.trans ?_⟩
    have hfound : found tool scan.space paths = found tool space paths :=
      List.filterMap_congr fun path hpath => by rw [(hstill path hpath).1]
    rw [hfound, hlibrary]

/-- **A search for keys adds public halves that were missing, and nothing else.** With a tool or
    without one,

    * at every moment the tree is the old one, but for public halves of candidates at places where
      nothing was;
    * a fingerprint belongs to the first candidate that has it, and it has it from the beginning;
    * the candidates are the same afterwards, and a second search writes nothing and finds the same.

    And in whatever order the candidates are visited, all this is true as well. Which fingerprints
    there are and which files are written is the same for every order. -/
theorem search_only_adds_public_halves (maker : Option KeyTool) (hnamed : space.tree.WellNamed)
    (root : String) :
    let found := scan maker space root
    space.Throughout (GainsPublicHalves maker space root) found.space ∧
    (∀ fingerprint, found.library.lookup fingerprint = maker.bind fun tool =>
      (candidates space root).find? fun path =>
        (inspect tool path space).fingerprint = some fingerprint) ∧
    candidates found.space root = candidates space root ∧
    (scan maker found.space root).space = found.space ∧
    (scan maker found.space root).library = found.library ∧
    ∀ tool ∈ maker, ∀ paths : List String, paths.Perm (candidates space root) →
      let visits := visitAll tool root space paths
      space.Throughout (GainsPublicHalves maker space root) visits.space ∧
      (∀ fingerprint, visits.library.lookup fingerprint =
        paths.find? fun path => (inspect tool path space).fingerprint = some fingerprint) ∧
      (∀ fingerprint, (visits.library.lookup fingerprint).isSome =
        (found.library.lookup fingerprint).isSome) ∧
      (∀ place, visits.space.tree.entry? place = found.space.tree.entry? place) ∧
      candidates visits.space root = candidates space root ∧
      (visitAll tool root visits.space paths).space = visits.space ∧
      (visitAll tool root visits.space paths).library = visits.library := by
  intro found
  cases maker with
  | none => exact ⟨.start fun _ => Or.inl rfl, fun _ => rfl, rfl, rfl, rfl, fun _ h => by cases h⟩
  | some tool =>
    obtain ⟨hmoments, hlookup, horders, hsame, hspace, hlibrary⟩ :=
      visitAll_adds tool hnamed (List.Perm.refl (candidates space root))
    -- The second search has the same candidates in the same order.
    have hagain : scan (some tool) found.space root =
        visitAll tool root found.space (candidates space root) :=
      congrArg (visitAll tool root found.space) hsame
    refine ⟨hmoments, hlookup, hsame, by rw [hagain]; exact hspace, by rw [hagain]; exact hlibrary,
      fun other hother paths hpaths => ?_⟩
    cases hother
    obtain ⟨hmoments, hlookup, -, hsame, hspace, hlibrary⟩ := visitAll_adds tool hnamed hpaths
    obtain ⟨hfingerprints, hentries⟩ := horders paths hpaths
    exact ⟨hmoments, hlookup, hfingerprints, hentries, hsame, hspace, hlibrary⟩

/-- A tool that knows a key by its public half, and for which a key is its own public half. -/
def mirror : KeyTool where
  describe? _ publicHalf :=
    match publicHalf with
    | some (.file half) => some half
    | _ => none
  publicHalf? key := some key

/-- Two files with one key, and no public half of it. -/
def ring : Workspace :=
  .start ⟨.ofList [(["k"], .directory), (["k", "a"], .file "256 x me (R)".toUTF8),
    (["k", "b"], .file "256 x me (R)".toUTF8)]⟩ []

/-- The key belongs to the file that comes first, and both get their public halves. -/
theorem ring_gains_public_halves :
    let found := scan (some mirror) ring "/k"
    let visits := visitAll mirror "/k" ring ["/k/b", "/k/a"]
    ring.Throughout (GainsPublicHalves (some mirror) ring "/k") found.space ∧
      found.library.lookup "x" = some "/k/a" ∧ visits.library.lookup "x" = some "/k/b" ∧
      visits.space.tree.entry? ["k", "a.pub"] = some (.file "256 x me (R)".toUTF8) ∧
      found.space.tree.entry? ["k", "a.pub"] = some (.file "256 x me (R)".toUTF8) ∧
      (scan (some mirror) found.space "/k").space = found.space := by
  intro found visits
  have hnamed : ring.tree.WellNamed := by decide +kernel
  have hpaths : ["/k/b", "/k/a"].Perm (candidates ring "/k") := by decide +kernel
  obtain ⟨hmoments, hfirst, -, hagain, -, hvisits⟩ :=
    search_only_adds_public_halves (some mirror) hnamed "/k"
  obtain ⟨-, hlookup, -, hentries, -⟩ := hvisits mirror rfl ["/k/b", "/k/a"] hpaths
  have hhalf : visits.space.tree.entry? ["k", "a.pub"] = some (.file "256 x me (R)".toUTF8) := by
    decide +kernel
  exact ⟨hmoments, (hfirst "x").trans (by decide +kernel), (hlookup "x").trans (by decide +kernel),
    hhalf, (hentries _).symm.trans hhalf, hagain⟩

end KeyLibrary
end SshTemplate
