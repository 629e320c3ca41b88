import SshTemplate.FileTree.Workspace
import SshTemplate.Proofs.Files.Names
import SshTemplate.Logged

/-!
# `Proofs.Files.Places` — which entry a path names

There are no links, so where a path leads can be worked out on paper: `.` stays, `..` goes back, any
other name goes on. `denoted` does that without a look at the tree. The tree only decides whether
one gets there, and it does so by its directories: of two trees, a path that can be followed in the
one can be followed to the same place in the other if that has at least the same directories
(`locate_mono`). So what a command does to *files* never changes what another path means, and a
statement about a path becomes one about the entry at a place.

A path that leads to a file ends in a name, and what is put behind it joins that name
(`locate_append`). The files that commands write beside others are found this way.
-/

set_option autoImplicit false

namespace SshTemplate
namespace FileTree

open Text

variable {tree tree' : FileTree} {here : Place} {path : String}

/-! ## Entries -/

theorem entry?_of_ne_nil (tree : FileTree) {place : Place} (h : place ≠ []) :
    tree.entry? place = tree.entries.get? place := by
  cases place with
  | nil => exact absurd rfl h
  | cons name rest => rfl

@[simp]
theorem entry?_put (tree : FileTree) {place : Place} (h : place ≠ []) (entry : Entry)
    (other : Place) :
    entry? (tree.put place entry) other =
      if other = place then some entry else tree.entry? other := by
  cases other with
  | nil =>
    rw [if_neg (Ne.symm h)]
    rfl
  | cons name rest => exact Dictionary.get?_insert tree.entries place (name :: rest) entry

/-- The directories of the one are directories of the other. -/
def DirectoriesKept (tree tree' : FileTree) : Prop :=
  ∀ place, tree.entry? place = some .directory → tree'.entry? place = some .directory

/-- The directories of the one are those of the other. -/
def SameDirectories (tree tree' : FileTree) : Prop :=
  ∀ place, tree'.entry? place = some .directory ↔ tree.entry? place = some .directory

theorem SameDirectories.kept (h : SameDirectories tree tree') : DirectoriesKept tree tree' :=
  fun place => (h place).2

theorem SameDirectories.symm (h : SameDirectories tree tree') : SameDirectories tree' tree :=
  fun place => (h place).symm

theorem SameDirectories.trans {tree'' : FileTree} (h : SameDirectories tree tree')
    (h' : SameDirectories tree' tree'') : SameDirectories tree tree'' := fun place =>
  (h' place).trans (h place)

/-! ## Following names -/

/-- One name further, on paper. -/
def stepOnPaper (place : Place) (name : String) : Place :=
  if name = "." then place else if name = ".." then place.dropLast else place ++ [name]

/-- Where a path leads, if it leads anywhere. -/
def denoted (here : Place) (path : String) : Place :=
  (pathNames path).foldl stepOnPaper (if Path.isAbsolute path then [] else here)

/-- A name is followed where it leads on paper, if that is a directory. -/
theorem enter_eq_ok_iff {place next : Place} {name : String} :
    tree.enter place name = .ok next ↔ next = stepOnPaper place name ∧
      (name = "." ∨ name = ".." ∨
        byteLength name.toList ≤ maxName ∧ tree.entry? (place ++ [name]) = some .directory) := by
  unfold enter stepOnPaper
  by_cases hdot : name = "."
  · simp [hdot, eq_comm]
  by_cases hdots : name = ".."
  · simp [hdots, eq_comm]
  rw [if_neg hdot, if_neg hdots, if_neg hdot, if_neg hdots]
  by_cases hlong : maxName < byteLength name.toList
  · simp [hlong, Nat.not_le.2 hlong, hdot, hdots]
  rw [if_neg hlong]
  have hshort : byteLength name.toList ≤ maxName := Nat.le_of_not_lt hlong
  cases tree.entry? (place ++ [name]) with
  | none => simp [hdot, hdots]
  | some entry =>
    cases entry with
    | file content => simp [hdot, hdots]
    | directory => simp [hshort, eq_comm]

theorem foldlM_enter_eq_ok {start place : Place} {names : List String}
    (h : names.foldlM tree.enter start = .ok place) :
    place = names.foldl stepOnPaper start ∧ ∀ {tree' : FileTree}, DirectoriesKept tree tree' →
      names.foldlM tree'.enter start = .ok place := by
  induction names generalizing start with
  | nil =>
    obtain rfl : start = place := Except.ok.inj h
    exact ⟨rfl, fun _ => rfl⟩
  | cons name rest ih =>
    rw [List.foldlM_cons] at h
    obtain ⟨next, hnext, hrest⟩ := exists_of_bind_eq_ok h
    obtain ⟨hplace, hmono⟩ := ih hrest
    obtain ⟨rfl, hfollow⟩ := enter_eq_ok_iff.1 hnext
    refine ⟨hplace, fun {tree'} hdirs => ?_⟩
    have hnext' : tree'.enter start name = .ok (stepOnPaper start name) :=
      enter_eq_ok_iff.2 ⟨rfl, hfollow.imp_right fun h => h.imp_right fun h => ⟨h.1, hdirs _ h.2⟩⟩
    rw [List.foldlM_cons, hnext']
    exact hmono hdirs

/-! ## Following paths -/

/-- The place that a target speaks of. -/
def Target.place (target : Target) : Place :=
  match target.step with
  | .directory place => place
  | .name name _ => target.parent ++ [name]

theorem follow_concat (tree : FileTree) (start : Place) (before : List String) (last : String)
    (slash : Bool) :
    tree.follow start (before ++ [last]) slash = before.foldlM tree.enter start >>= fun parent =>
      if last = "." then pure ⟨parent, .directory parent⟩
      else if last = ".." then pure ⟨parent, .directory parent.dropLast⟩
      else pure ⟨parent, .name last slash⟩ := by
  unfold follow
  rw [List.reverse_append, List.reverse_singleton, List.singleton_append]
  dsimp only
  rw [List.reverse_reverse]

/-- Where the names of a path start from. -/
def startOf (here : Place) (path : String) : Place := if Path.isAbsolute path then [] else here

theorem locate_of_pathFault?_eq_none (h : pathFault? path = none) :
    tree.locate here path =
      tree.follow (startOf here path) (pathNames path) (path.toList.getLast? = some '/') := by
  unfold locate
  rw [h]
  rfl

theorem pathFault?_of_locate {target : Target} (h : tree.locate here path = .ok target) :
    pathFault? path = none := by
  unfold locate at h
  cases hfault : pathFault? path with
  | none => rfl
  | some fault => rw [hfault] at h; cases h

/-- **A path leads to one place only**, and to the same one in every tree that keeps the
    directories. -/
theorem locate_eq_ok {target : Target} (h : tree.locate here path = .ok target) :
    target.place = denoted here path ∧ ∀ {tree' : FileTree}, DirectoriesKept tree tree' →
      tree'.locate here path = .ok target := by
  have hfault := pathFault?_of_locate h
  rw [locate_of_pathFault?_eq_none hfault] at h
  have hdenoted : denoted here path = (pathNames path).foldl stepOnPaper (startOf here path) := rfl
  rw [hdenoted]
  rcases List.eq_nil_or_concat (pathNames path) with hnil | ⟨before, last, hnames⟩
  · rw [hnil] at h ⊢
    obtain rfl := Except.ok.inj h
    refine ⟨rfl, fun {tree'} _ => ?_⟩
    rw [locate_of_pathFault?_eq_none hfault, hnil]
    rfl
  · rw [List.concat_eq_append] at hnames
    rw [hnames, follow_concat] at h
    obtain ⟨parent, hparent, h⟩ := exists_of_bind_eq_ok h
    obtain ⟨rfl, hmono⟩ := foldlM_enter_eq_ok hparent
    constructor
    · rw [hnames, List.foldl_append, List.foldl_cons, List.foldl_nil, stepOnPaper]
      split at h
      · next hdot => rw [if_pos hdot, ← Except.ok.inj h]; rfl
      · next hdot =>
        rw [if_neg hdot]
        split at h
        · next hdots => rw [if_pos hdots, ← Except.ok.inj h]; rfl
        · next hdots => rw [if_neg hdots, ← Except.ok.inj h]; rfl
    · intro tree' hdirs
      rw [locate_of_pathFault?_eq_none hfault, hnames, follow_concat, hmono hdirs]
      exact h

theorem locate_mono {target : Target} (hdirs : DirectoriesKept tree tree')
    (h : tree.locate here path = .ok target) : tree'.locate here path = .ok target :=
  (locate_eq_ok h).2 hdirs

/-- A path asks for a name in a directory: its last name, in the directory that the others lead
    to. -/
theorem locate_eq_name_iff {parent : Place} {name : String} {slash : Bool} :
    tree.locate here path = .ok ⟨parent, .name name slash⟩ ↔
      pathFault? path = none ∧ slash = decide (path.toList.getLast? = some '/') ∧
        name ≠ "." ∧ name ≠ ".." ∧ ∃ before, pathNames path = before ++ [name] ∧
          before.foldlM tree.enter (startOf here path) = .ok parent := by
  constructor
  · intro h
    have hfault := pathFault?_of_locate h
    rw [locate_of_pathFault?_eq_none hfault] at h
    rcases List.eq_nil_or_concat (pathNames path) with hnil | ⟨before, last, hnames⟩
    · rw [hnil] at h
      cases h
    · rw [List.concat_eq_append] at hnames
      rw [hnames, follow_concat] at h
      obtain ⟨place, hplace, h⟩ := exists_of_bind_eq_ok h
      split at h
      · cases h
      · next hdot =>
        split at h
        · cases h
        · next hdots =>
          cases h
          exact ⟨hfault, rfl, hdot, hdots, before, hnames, hplace⟩
  · rintro ⟨hfault, rfl, hdot, hdots, before, hnames, hparent⟩
    rw [locate_of_pathFault?_eq_none hfault, hnames, follow_concat, hparent]
    show (if name = "." then _ else if name = ".." then _ else _) = _
    rw [if_neg hdot, if_neg hdots]
    rfl

/-! ## Lengthened paths -/

/-- Why a lengthened path leads nowhere, whatever the tree holds: it may be too long. -/
theorem pathFault?_append {path suffix : String} (h : pathFault? path = none)
    (hnul : '\x00' ∉ suffix.toList) :
    pathFault? (path ++ suffix) =
      if pathLimit ≤ byteLength (path ++ suffix).toList then some .nameTooLong else none := by
  unfold pathFault? at h ⊢
  split at h
  · cases h
  · next hnot =>
    split at h
    · cases h
    · next hne =>
      have hclean : ¬ (path ++ suffix).toList.contains '\x00' = true := by
        simp only [List.contains_iff_mem] at hnot ⊢
        simp [hnot, hnul]
      have hnonempty : ¬ (path ++ suffix).isEmpty = true := by
        simp only [String.isEmpty_iff] at hne ⊢
        simp [hne]
      rw [if_neg hclean, if_neg hnonempty]

/-- What can be put behind a path that leads to a file, for the sake of another file beside it. -/
structure IsSuffix (suffix : String) : Prop where
  no_slash : '/' ∉ suffix.toList
  no_nul : '\x00' ∉ suffix.toList
  /-- so that no name ends up as `.` or `..` -/
  long : 2 < suffix.length

theorem IsSuffix.append_ne {suffix : String} (h : IsSuffix suffix) (name : String) {text : String}
    (htext : text.length ≤ 2) : name ++ suffix ≠ text := by
  rintro rfl
  have hlong := h.long
  rw [String.length_append] at htext
  omega

theorem IsSuffix.isName {name suffix : String} (h : IsSuffix suffix) (hname : IsName name) :
    IsName (name ++ suffix) where
  nonempty := h.append_ne name (by decide)
  no_slash := by simp [hname.no_slash, h.no_slash]
  not_current := h.append_ne name (by decide)
  not_parent := h.append_ne name (by decide)

theorem startOf_append (hne : path ≠ "") (rest : String) :
    startOf here (path ++ rest) = startOf here path := by
  obtain ⟨c, chars, hc⟩ := List.exists_cons_of_ne_nil
    (fun hnil => hne (String.toList_eq_nil_iff.1 hnil))
  unfold startOf Path.isAbsolute
  rw [String.toList_append, hc]
  rfl

theorem ne_empty_of_locate {target : Target} (h : tree.locate here path = .ok target) :
    path ≠ "" := by
  rintro rfl
  exact absurd (pathFault?_of_locate h) (by decide)

/-- What is put behind a path that asks for a name joins that name. -/
theorem pathNames_of_locate {parent : Place} {name suffix : String} (hsuffix : IsSuffix suffix)
    (h : tree.locate here path = .ok ⟨parent, .name name false⟩) :
    ∃ before, pathNames (path ++ suffix) = before ++ [name ++ suffix] ∧
      before.foldlM tree.enter (startOf here (path ++ suffix)) = .ok parent := by
  have hne := ne_empty_of_locate h
  obtain ⟨-, hslash, -, -, before, hnames, hparent⟩ := locate_eq_name_iff.1 h
  have hend : path.toList.getLast? ≠ some '/' := of_decide_eq_false hslash.symm
  obtain ⟨before', name', hnames', hjoined⟩ := pathNames_append hne hend hsuffix.no_slash
  obtain ⟨rfl, hname⟩ := List.append_inj' (hnames.symm.trans hnames') rfl
  obtain rfl := List.singleton_inj.1 hname
  rw [startOf_append hne]
  exact ⟨before, hjoined, hparent⟩

/-- **A lengthened path asks for a lengthened name in the same directory**, unless it is too
    long. -/
theorem locate_append {parent : Place} {name suffix : String} (hsuffix : IsSuffix suffix)
    (h : tree.locate here path = .ok ⟨parent, .name name false⟩) :
    tree.locate here (path ++ suffix) =
      if pathLimit ≤ byteLength (path ++ suffix).toList then .error .nameTooLong
      else .ok ⟨parent, .name (name ++ suffix) false⟩ := by
  have hfault' := pathFault?_append (pathFault?_of_locate h) hsuffix.no_nul
  by_cases hlong : pathLimit ≤ byteLength (path ++ suffix).toList
  · rw [if_pos hlong] at hfault' ⊢
    unfold locate
    rw [hfault']
  · rw [if_neg hlong] at hfault' ⊢
    obtain ⟨before, hjoined, hparent⟩ := pathNames_of_locate hsuffix h
    have hnonempty : suffix ≠ "" := by
      intro hempty
      exact absurd hsuffix.long (by rw [hempty]; decide)
    have hend' : (path ++ suffix).toList.getLast? ≠ some '/' := by
      intro hlast
      rw [getLast?_append_of_ne_empty path hnonempty] at hlast
      exact hsuffix.no_slash (List.mem_of_getLast? hlast)
    exact locate_eq_name_iff.2 ⟨hfault', (decide_eq_false hend').symm,
      hsuffix.append_ne name (by decide), hsuffix.append_ne name (by decide), before, hjoined,
      hparent⟩

/-- On paper a lengthened path leads to the lengthened name, however long it is. -/
theorem denoted_append {parent : Place} {name suffix : String} (hsuffix : IsSuffix suffix)
    (h : tree.locate here path = .ok ⟨parent, .name name false⟩) :
    denoted here (path ++ suffix) = parent ++ [name ++ suffix] := by
  obtain ⟨before, hjoined, hparent⟩ := pathNames_of_locate hsuffix h
  obtain ⟨rfl, -⟩ := foldlM_enter_eq_ok hparent
  show (pathNames (path ++ suffix)).foldl stepOnPaper (startOf here (path ++ suffix)) = _
  rw [hjoined, List.foldl_append, List.foldl_cons, List.foldl_nil, stepOnPaper,
    if_neg (hsuffix.append_ne name (by decide)), if_neg (hsuffix.append_ne name (by decide))]

/-! ## The directories that paths name -/

theorem find_of_enters {place : Place} (hfault : pathFault? path = none)
    (h : (pathNames path).foldlM tree.enter (startOf here path) = .ok place) :
    tree.find here path = .ok (place, .directory) := by
  have hlocate : tree.locate here path = tree.follow _ _ _ := locate_of_pathFault?_eq_none hfault
  rcases List.eq_nil_or_concat (pathNames path) with hnil | ⟨before, last, hnames⟩
  · rw [hnil] at h hlocate
    obtain rfl := Except.ok.inj h
    unfold find
    rw [hlocate]
    rfl
  · rw [List.concat_eq_append] at hnames
    rw [hnames, List.foldlM_append] at h
    obtain ⟨parent, hparent, h⟩ := exists_of_bind_eq_ok h
    obtain ⟨next, hnext, h⟩ := exists_of_bind_eq_ok h
    obtain rfl := Except.ok.inj h
    obtain ⟨rfl, hfollow⟩ := enter_eq_ok_iff.1 hnext
    rw [hnames, follow_concat, hparent] at hlocate
    unfold find stepOnPaper
    rw [hlocate]
    show (if last = "." then _ else if last = ".." then _ else _) >>= _ = _
    by_cases hdot : last = "."
    · rw [if_pos hdot, if_pos hdot]
      rfl
    by_cases hdots : last = ".."
    · rw [if_neg hdot, if_neg hdot, if_pos hdots, if_pos hdots]
      rfl
    obtain ⟨hshort, hentry⟩ := (hfollow.resolve_left hdot).resolve_left hdots
    rw [if_neg hdot, if_neg hdot, if_neg hdots, if_neg hdots]
    show (tree.child? parent last >>= _) = _
    unfold child?
    rw [if_neg (Nat.not_lt.2 hshort), hentry]
    rfl

/-- A path that a name was joined to can be followed if the joined path can. -/
theorem pathFault?_of_append {path rest : String} (hne : path ≠ "")
    (h : pathFault? (path ++ rest) = none) : pathFault? path = none := by
  unfold pathFault? at h ⊢
  split at h
  · cases h
  · next hnul =>
    split at h
    · cases h
    · split at h
      · cases h
      · next hlong =>
        rw [String.toList_append] at hnul hlong
        rw [byteLength_append] at hlong
        rw [if_neg fun hmem => hnul (by simp_all), if_neg (by simpa using hne), if_neg (by omega)]

/-- **The directory of a path**, if that goes on from one with a name. -/
theorem find_of_locate_join {base name last : String} {parent : Place} {slash : Bool}
    (hbase : base ≠ "") (hname : IsName name)
    (h : tree.locate here (Path.join base name) = .ok ⟨parent, .name last slash⟩) :
    last = name ∧ tree.find here base = .ok (parent, .directory) := by
  obtain ⟨hfault, -, -, -, before, hnames, hparent⟩ := locate_eq_name_iff.1 h
  rw [pathNames_join hbase hname] at hnames
  obtain ⟨rfl, hlast⟩ := List.append_inj' hnames rfl
  have hstart : startOf here (Path.join base name) = startOf here base := by
    unfold startOf
    rw [isAbsolute_join hbase hname]
  obtain ⟨rest, hjoin⟩ := exists_join_eq hbase hname
  rw [hjoin] at hfault
  rw [hstart] at hparent
  exact ⟨(List.singleton_inj.1 hlast).symm,
    find_of_enters (pathFault?_of_append hbase hfault) hparent⟩

/-! ## The files that paths name -/

/-- What is found under a path that asks for a name. -/
theorem find_of_locate_name {parent : Place} {name : String}
    (h : tree.locate here path = .ok ⟨parent, .name name false⟩) :
    tree.find here path =
      if maxName < byteLength name.toList then .error .nameTooLong
      else match tree.entry? (parent ++ [name]) with
        | none => .error .notFound
        | some entry => .ok (parent ++ [name], entry) := by
  unfold find
  rw [h]
  show (tree.child? parent name >>= _) = _
  unfold child?
  split
  · rfl
  · cases tree.entry? (parent ++ [name]) with
    | none => rfl
    | some entry => cases entry <;> rfl

/-- The content of the file that a path names. -/
def fileAt (tree : FileTree) (here : Place) (path : String) : Option ByteArray :=
  match tree.find here path with
  | .ok (_, .file content) => some content
  | _ => none

theorem find_eq_file_iff {place : Place} {content : ByteArray} :
    tree.find here path = .ok (place, .file content) ↔
      ∃ parent name, tree.locate here path = .ok ⟨parent, .name name false⟩ ∧
        byteLength name.toList ≤ maxName ∧ place = parent ++ [name] ∧
        tree.entry? (parent ++ [name]) = some (.file content) := by
  constructor
  · intro h
    unfold find at h
    obtain ⟨⟨parent, step⟩, htarget, h⟩ := exists_of_bind_eq_ok h
    cases step with
    | directory _ => cases h
    | name name slash =>
      obtain ⟨found, hfound, h⟩ := exists_of_bind_eq_ok h
      unfold child? at hfound
      split at hfound
      · cases hfound
      · next hlong =>
        obtain rfl := Except.ok.inj hfound
        cases hentry : tree.entry? (parent ++ [name]) with
        | none => rw [hentry] at h; cases h
        | some entry =>
          rw [hentry] at h
          cases entry with
          | directory => cases h
          | file data =>
            cases slash with
            | true => cases h
            | false =>
              cases h
              exact ⟨parent, name, htarget, Nat.le_of_not_lt hlong, rfl, hentry⟩
  · rintro ⟨parent, name, htarget, hshort, rfl, hentry⟩
    rw [find_of_locate_name htarget, if_neg (Nat.not_lt.2 hshort), hentry]

theorem fileAt_eq_some_iff {content : ByteArray} :
    tree.fileAt here path = some content ↔
      ∃ parent name, tree.locate here path = .ok ⟨parent, .name name false⟩ ∧
        byteLength name.toList ≤ maxName ∧
        tree.entry? (parent ++ [name]) = some (.file content) := by
  have hfind : tree.fileAt here path = some content ↔
      ∃ place, tree.find here path = .ok (place, .file content) := by
    unfold fileAt
    split
    · next place data h =>
      rw [h]
      simp
    · next h =>
      simp only [reduceCtorEq, false_iff, not_exists]
      exact fun place hplace => h place content hplace
  rw [hfind]
  constructor
  · rintro ⟨place, hplace⟩
    obtain ⟨parent, name, htarget, hshort, -, hentry⟩ := find_eq_file_iff.1 hplace
    exact ⟨parent, name, htarget, hshort, hentry⟩
  · rintro ⟨parent, name, htarget, hshort, hentry⟩
    exact ⟨_, find_eq_file_iff.2 ⟨parent, name, htarget, hshort, rfl, hentry⟩⟩

/-- **A file stays as it is** where the directories do and the entry does that its path leads to. -/
theorem fileAt_congr (hdirs : SameDirectories tree tree')
    (hentry : ∀ parent name, tree.locate here path = .ok ⟨parent, .name name false⟩ →
      tree'.entry? (parent ++ [name]) = tree.entry? (parent ++ [name])) :
    tree'.fileAt here path = tree.fileAt here path := by
  refine Option.ext fun content => ?_
  rw [fileAt_eq_some_iff, fileAt_eq_some_iff]
  constructor
  · rintro ⟨parent, name, htarget, hshort, hfile⟩
    have htarget := locate_mono hdirs.symm.kept htarget
    exact ⟨parent, name, htarget, hshort, hentry parent name htarget ▸ hfile⟩
  · rintro ⟨parent, name, htarget, hshort, hfile⟩
    exact ⟨parent, name, locate_mono hdirs.kept htarget, hshort,
      (hentry parent name htarget).trans hfile⟩

/-- The path leads to the place, and one gets there. -/
def LeadsTo (tree : FileTree) (here : Place) (path : String) (place : Place) : Prop :=
  ∃ target, tree.locate here path = .ok target ∧ target.place = place

/-- Joining goes on on paper as well. -/
theorem denoted_foldl_join {root : String} {names : List String} (hroot : root ≠ "")
    (hnames : ∀ name ∈ names, IsName name) :
    denoted here (names.foldl Path.join root) = denoted here root ++ names := by
  obtain ⟨-, hall, habsolute⟩ := pathNames_foldl_join hroot hnames
  have hsteps : ∀ start : Place, names.foldl stepOnPaper start = start ++ names := by
    clear hall habsolute
    induction names with
    | nil => exact fun start => (List.append_nil _).symm
    | cons name rest ih =>
      intro start
      obtain ⟨hname, hrest⟩ := List.forall_mem_cons.1 hnames
      rw [List.foldl_cons, ih hrest, stepOnPaper, if_neg hname.not_current, if_neg hname.not_parent,
        List.append_assoc]
      rfl
  unfold denoted
  rw [hall, habsolute, List.foldl_append, hsteps]

theorem find_eq_ok {place : Place} {entry : Entry} (h : tree.find here path = .ok (place, entry)) :
    place = denoted here path ∧ path ≠ "" := by
  unfold find at h
  obtain ⟨⟨parent, step⟩, htarget, h⟩ := exists_of_bind_eq_ok h
  refine ⟨?_, ?_⟩
  · rw [← (locate_eq_ok htarget).1]
    cases step with
    | directory _ => cases h; rfl
    | name name slash =>
      obtain ⟨found, -, h⟩ := exists_of_bind_eq_ok h
      split at h
      · cases h
      · cases h; rfl
      · split at h
        · cases h
        · cases h; rfl
  · exact ne_empty_of_locate htarget

/-- Every entry of the one tree is an entry of the other, at the same place. -/
def EntriesKept (tree tree' : FileTree) : Prop :=
  ∀ place entry, tree.entry? place = some entry → tree'.entry? place = some entry

theorem EntriesKept.directoriesKept (h : EntriesKept tree tree') : DirectoriesKept tree tree' :=
  fun place hplace => h place _ hplace

theorem find_mono (hkept : EntriesKept tree tree') {place : Place} {entry : Entry}
    (h : tree.find here path = .ok (place, entry)) : tree'.find here path = .ok (place, entry) := by
  unfold find at h ⊢
  obtain ⟨⟨parent, step⟩, htarget, h⟩ := exists_of_bind_eq_ok h
  rw [locate_mono hkept.directoriesKept htarget]
  cases step with
  | directory _ => exact h
  | name name slash =>
    obtain ⟨found, hfound, h⟩ := exists_of_bind_eq_ok h
    unfold child? at hfound
    split at hfound
    · cases hfound
    · next hshort =>
      obtain rfl := Except.ok.inj hfound
      show (tree'.child? parent name >>= _) = _
      unfold child?
      rw [if_neg hshort]
      cases hentry : tree.entry? (parent ++ [name]) with
      | none => rw [hentry] at h; cases h
      | some other =>
        rw [hentry] at h
        rw [hkept _ _ hentry]
        exact h

end FileTree

namespace Workspace

open FileTree Text

variable {space : Workspace} {path : String}

theorem holds_eq_isSome (space : Workspace) (path : String) :
    space.holds path = (space.entry? path).isSome := by
  unfold holds FileTree.holds Workspace.entry?
  cases space.tree.find space.here path with
  | error fault => rfl
  | ok found => rfl

theorem entry?_of_locate_name {parent : Place} {name : String}
    (h : space.tree.locate space.here path = .ok ⟨parent, .name name false⟩) :
    space.entry? path =
      if byteLength name.toList ≤ maxName then space.tree.entry? (parent ++ [name]) else none := by
  unfold Workspace.entry?
  rw [find_of_locate_name h]
  by_cases hlong : maxName < byteLength name.toList
  · rw [if_pos hlong, if_neg (Nat.not_le.2 hlong)]
  · rw [if_neg hlong, if_pos (Nat.le_of_not_lt hlong)]
    cases space.tree.entry? (parent ++ [name]) with
    | none => rfl
    | some entry => rfl

theorem entry?_eq_file_iff {content : ByteArray} :
    space.entry? path = some (.file content) ↔
      ∃ parent name, space.tree.locate space.here path = .ok ⟨parent, .name name false⟩ ∧
        byteLength name.toList ≤ maxName ∧
        space.tree.entry? (parent ++ [name]) = some (.file content) := by
  rw [← fileAt_eq_some_iff]
  unfold Workspace.entry? fileAt
  cases space.tree.find space.here path with
  | error fault => simp
  | ok found =>
    obtain ⟨place, entry⟩ := found
    cases entry <;> simp

end Workspace
end SshTemplate
