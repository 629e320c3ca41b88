import SshTemplate.Proofs.Commands.Update

/-!
# `Proofs.Commands.Remains` — what is left of an update that failed

An update that has something to write can still fail twice: the text cannot be written beside the
output, or it cannot be moved into place. After the first nothing has changed but for public halves.
After the second the text is lying beside the output, and nobody takes it away.

The second failure can be told in advance. Where the text could be written, the output path leads
into the same directory, and the move succeeds unless the output is a directory itself
(`rename_partial_iff`). So the rest is left exactly there: where the output is a directory that a
file can be put beside, or into if the path ends in a slash.
-/

set_option autoImplicit false

namespace SshTemplate

open FileTree KeyLibrary Text

/-! ## Paths of directories -/

namespace FileTree

variable {tree tree' : FileTree} {here : Place} {path : String}

theorem leadsToDirectory_iff :
    tree.leadsToDirectory here path = true ↔
      ∃ place, tree.find here path = .ok (place, .directory) := by
  unfold leadsToDirectory
  cases tree.find here path with
  | error fault => simp
  | ok found =>
    obtain ⟨place, entry⟩ := found
    cases entry <;> simp

theorem find_directory_mono (hdirs : DirectoriesKept tree tree') {place : Place}
    (h : tree.find here path = .ok (place, .directory)) :
    tree'.find here path = .ok (place, .directory) := by
  unfold find at h ⊢
  obtain ⟨⟨parent, step⟩, htarget, h⟩ := exists_of_bind_eq_ok h
  rw [locate_mono hdirs htarget]
  cases step with
  | directory _ => exact h
  | name name slash =>
    obtain ⟨found, hfound, h⟩ := exists_of_bind_eq_ok h
    obtain ⟨hshort, hentry⟩ := child?_eq_ok_iff.1 hfound
    cases found with
    | none => cases h
    | some entry =>
      cases entry with
      | directory =>
        show (tree'.child? parent name >>= _) = _
        rw [child?_eq_ok_iff.2 ⟨hshort, hdirs _ hentry⟩]
        exact h
      | file content => cases slash <;> cases h

/-- Which paths name directories depends on the directories only. -/
theorem leadsToDirectory_congr (hdirs : SameDirectories tree tree') :
    tree'.leadsToDirectory here path = tree.leadsToDirectory here path := by
  rw [Bool.eq_iff_iff, leadsToDirectory_iff, leadsToDirectory_iff]
  constructor
  · rintro ⟨place, hplace⟩
    exact ⟨place, find_directory_mono hdirs.symm.kept hplace⟩
  · rintro ⟨place, hplace⟩
    exact ⟨place, find_directory_mono hdirs.kept hplace⟩

/-- The path is not empty and names no directory. It need not name anything. -/
def Replaceable (tree : FileTree) (here : Place) (path : String) : Prop :=
  path ≠ "" ∧ tree.leadsToDirectory here path = false

instance (tree : FileTree) (here : Place) (path : String) :
    Decidable (tree.Replaceable here path) := inferInstanceAs (Decidable (_ ∧ _))

theorem replaceable_congr (hdirs : SameDirectories tree tree') :
    tree'.Replaceable here path ↔ tree.Replaceable here path := by
  unfold Replaceable
  rw [leadsToDirectory_congr hdirs]

/-- A path that names no directory ends in a proper name: by a dot or two it would name the
    directory that the names before them lead to, or the one above. -/
theorem last_ne_dots (hfault : pathFault? path = none)
    (hfile : tree.leadsToDirectory here path = false) {before : List String} {name : String}
    {parent : Place} (hnames : pathNames path = before ++ [name])
    (hparent : before.foldlM tree.enter (startOf here path) = .ok parent) :
    name ≠ "." ∧ name ≠ ".." := by
  have hnowhere : ∀ place, tree.enter parent name ≠ .ok place := by
    intro place hplace
    have henters : (pathNames path).foldlM tree.enter (startOf here path) = .ok place := by
      rw [hnames, List.foldlM_append, hparent]
      show [name].foldlM tree.enter parent = .ok place
      rw [List.foldlM_cons, hplace]
      rfl
    rw [leadsToDirectory_iff.2 ⟨place, find_of_enters hfault henters⟩] at hfile
    cases hfile
  constructor
  · intro hdot
    exact hnowhere _ (enter_eq_ok_iff.2 ⟨rfl, Or.inl hdot⟩)
  · intro hdots
    exact hnowhere _ (enter_eq_ok_iff.2 ⟨rfl, Or.inr (Or.inl hdots)⟩)

end FileTree

namespace CommandLine

/-! ## Moving into place -/

section Moving

variable {tree middle : FileTree} {here parent : Place} {output last : String}
variable {content : ByteArray}

theorem isName_partial : IsName ".sedge-new" := by decide

/-- Where a file can be put beside it, an output that is no directory has a place in the same
    directory. -/
theorem locate_output (h : tree.locate here (partialFile output) = .ok ⟨parent, .name last false⟩)
    (hreplaceable : tree.Replaceable here output) :
    ∃ name, last = name ++ ".sedge-new" ∧
      tree.locate here output = .ok ⟨parent, .name name false⟩ := by
  obtain ⟨hne, hfile⟩ := hreplaceable
  obtain ⟨hfault, -, -, -, before, hnames, hparent⟩ := locate_eq_name_iff.1 h
  have hfault' : pathFault? output = none := pathFault?_of_append hne hfault
  by_cases hend : output.toList.getLast? = some '/'
  · -- Behind the slash the file is in the output, which then is a directory.
    have hjoin : Path.join output ".sedge-new" = partialFile output := by
      have hempty : output.isEmpty = false := by simpa using hne
      unfold Path.join partialFile
      rw [isAbsolute_of_isName isName_partial, hempty, if_neg (by simp), if_pos hend]
    rw [← hjoin] at h
    have hdirectory := leadsToDirectory_iff.2
      ⟨parent, (find_of_locate_join hne isName_partial h).2⟩
    rw [hfile] at hdirectory
    cases hdirectory
  · obtain ⟨before', name, hnames', hjoined⟩ := pathNames_append hne hend isSuffix_partial.no_slash
    obtain ⟨rfl, hlast⟩ := List.append_inj' (hnames.symm.trans hjoined) rfl
    rw [show startOf here (partialFile output) = startOf here output from startOf_append hne _]
      at hparent
    obtain ⟨hdot, hdots⟩ := last_ne_dots hfault' hfile hnames' hparent
    refine ⟨name, List.singleton_inj.1 hlast, locate_eq_name_iff.2 ⟨hfault', ?_, hdot, hdots,
      before, hnames', hparent⟩⟩
    exact (decide_eq_false hend).symm

/-- **What was written beside the output can be moved there**, unless the output is a directory. -/
theorem rename_partial_iff (hwrite : tree.write here (partialFile output) content = .ok middle) :
    (∃ after, middle.rename here (partialFile output) output = .ok after) ↔
      tree.Replaceable here output := by
  have hsame := sameDirectories_of_write hwrite
  obtain ⟨parent, last, hpartial, hlong, -, rfl⟩ := write_eq_ok_iff.1 hwrite
  constructor
  · rintro ⟨after, hrename⟩
    obtain ⟨-, -, target, name, -, -, hnew, -, hshort, -, hentry, -⟩ := rename_eq_ok_iff.1 hrename
    refine ⟨ne_empty_of_locate hnew, ?_⟩
    rw [← leadsToDirectory_congr hsame, ← Bool.not_eq_true, leadsToDirectory_iff]
    rintro ⟨place, hplace⟩
    rw [find_of_locate_name hnew, if_neg (Nat.not_lt.2 hshort)] at hplace
    split at hplace
    · cases hplace
    · next entry hfound =>
      cases hplace
      exact hentry hfound
  · intro hreplaceable
    obtain ⟨name, rfl, houtput⟩ := locate_output hpartial hreplaceable
    have hshort : byteLength name.toList ≤ maxName := by
      rw [String.toList_append, byteLength_append] at hlong
      omega
    have hfree : tree.entry? (parent ++ [name]) ≠ some .directory := by
      intro hentry
      have hfind := find_of_locate_name houtput
      rw [if_neg (Nat.not_lt.2 hshort), hentry] at hfind
      have hfile := hreplaceable.2
      rw [leadsToDirectory_iff.2 ⟨_, hfind⟩] at hfile
      cases hfile
    refine ⟨_, rename_eq_ok_iff.2 ⟨parent, name ++ ".sedge-new", parent, name, content,
      locate_mono hsame.kept hpartial, locate_mono hsame.kept houtput, hlong, hshort, ?_, ?_, rfl⟩⟩
    · rw [entry?_put tree (by simp), if_pos rfl]
    · rw [entry?_put tree (by simp), if_neg (name_ne_partial parent name)]
      exact hfree

/-- Writing changes the entry at one place. -/
theorem entry?_of_write {path : String} (h : tree.write here path content = .ok middle)
    {place : Place} (hplace : place ≠ denoted here path) :
    middle.entry? place = tree.entry? place := by
  obtain ⟨parent, name, htarget, -, -, rfl⟩ := write_eq_ok_iff.1 h
  have hwhere : parent ++ [name] = denoted here path := (locate_eq_ok htarget).1
  rw [entry?_put tree (by simp), hwhere, if_neg hplace]

end Moving

/-! ## What a search leaves alone -/

section Gains

variable {maker : Option KeyTool} {space : Workspace} {root path : String} {tree : FileTree}

/-- A search changes no entry but those whose names end as those of public halves do. -/
theorem entry?_eq_of_gains (h : GainsPublicHalves maker space root tree) {parent : Place}
    {name : String} (hname : ∀ key, name ≠ key ++ ".pub") :
    tree.entry? (parent ++ [name]) = space.tree.entry? (parent ++ [name]) := by
  cases h (parent ++ [name]) with
  | inl hsame => exact hsame
  | inr hnew =>
    obtain ⟨-, candidate, -, hplace, key, half, hkey, -⟩ := hnew
    obtain ⟨parent', name', htarget, -, -⟩ := Workspace.entry?_eq_file_iff.1 hkey
    have hdenoted : denoted space.here (publicPath candidate) = parent' ++ [name' ++ ".pub"] :=
      denoted_append isSuffix_pub htarget
    rw [hdenoted] at hplace
    exact absurd (List.singleton_inj.1 (List.append_inj' hplace rfl).2) (hname name')

theorem fileAt_eq_of_gains (h : GainsPublicHalves maker space root tree)
    (hname : ∀ parent name, space.tree.locate space.here path = .ok ⟨parent, .name name false⟩ →
      ∀ key, name ≠ key ++ ".pub") :
    tree.fileAt space.here path = space.tree.fileAt space.here path := by
  apply fileAt_congr h.sameDirectories
  intro parent name htarget
  exact entry?_eq_of_gains h (hname parent name htarget)

/-- The names of public halves end in a `b`. -/
theorem ne_append_pub {name : String} (h : name.toList.getLast? ≠ some 'b') (key : String) :
    name ≠ key ++ ".pub" := by
  intro heq
  rw [heq, getLast?_append_of_ne_empty key (by decide)] at h
  exact h rfl

/-- The file beside the output bears a name that ends as its path does. -/
theorem exists_name_of_locate_partial {here parent : Place} {output last : String} {slash : Bool}
    (h : tree.locate here (partialFile output) = .ok ⟨parent, .name last slash⟩) :
    ∃ name, last = name ++ ".sedge-new" := by
  obtain ⟨-, -, -, -, before, hnames, -⟩ := locate_eq_name_iff.1 h
  obtain ⟨init, piece, hsplit⟩ := exists_splitOn_eq '/' output.toList
  have hjoined : pathNames (partialFile output) = _ :=
    pathNames_append_of_split hsplit isSuffix_partial.no_slash (by simp)
  rw [hnames] at hjoined
  exact ⟨String.ofList piece, List.singleton_inj.1 (List.append_inj' hjoined rfl).2⟩

end Gains

/-- Nothing is left of an attempt: the tree has gained public halves that were missing, what is
    beside the output is what was there, and so are the host names. -/
structure LeftAlone (machine : Machine) (space : Workspace) (options : Options) (output : String)
    (tree : FileTree) : Prop where
  halves : ∃ root, keyPath machine options = .ok root ∧
    GainsPublicHalves machine.keyTool space root tree
  beside : tree.fileAt space.here (partialFile output) =
    space.tree.fileAt space.here (partialFile output)
  hosts : ∀ home ∈ machine.home,
    tree.fileAt space.here (hostsFile home) = space.tree.fileAt space.here (hostsFile home)

/-- The text lies beside the output, and every other entry is what it was before. -/
structure LeftBeside (before : FileTree) (here : Place) (output : String) (rendering : Rendering)
    (tree : FileTree) : Prop where
  beside : tree.fileAt here (partialFile output) = some rendering.text.toUTF8
  others : ∀ place, place ≠ denoted here (partialFile output) →
    tree.entry? place = before.entry? place

section Failing

variable {machine : Machine} {options : Options} {space : Workspace} {tree : FileTree}
variable {output : String} {scan : Scan} {rendering : Rendering} {ending : Ending}

/-- Where the text cannot be written, nothing is done. -/
theorem replaceOutput_of_write_error {fault : FileFault}
    (h : space.tree.write space.here (partialFile output) rendering.text.toUTF8 = .error fault) :
    (replaceOutput machine output space rendering).status = 1 ∧
      (replaceOutput machine output space rendering).space = space := by
  have hperform : space.perform (.write (partialFile output) rendering.text.toUTF8) =
      .error fault := by
    unfold Workspace.perform FileTree.apply
    dsimp only
    rw [h]
  exact replaceOutput_of_unwritten hperform

/-- **Where it can be written, it stays there unless it can be moved away**, and that depends on the
    output path only. -/
theorem replaceOutput_of_write
    (h : space.tree.write space.here (partialFile output) rendering.text.toUTF8 = .ok tree) :
    let ending := replaceOutput machine output space rendering
    (space.tree.Replaceable space.here output → ending.status = 0) ∧
      (¬ space.tree.Replaceable space.here output →
        ending.status = 1 ∧ ending.space.tree = tree) := by
  intro ending
  have hwritten : space.perform (.write (partialFile output) rendering.text.toUTF8) = .ok _ :=
    Workspace.perform_eq_ok_iff.2 ⟨tree, h, rfl⟩
  rw [← rename_partial_iff h]
  constructor
  · rintro ⟨after, hrename⟩
    exact (replaceOutput_of_moved hwritten
      (Workspace.perform_eq_ok_iff.2 ⟨after, hrename, rfl⟩)).1
  · intro hstays
    cases hmoved : Workspace.perform _ (.rename (partialFile output) output) with
    | error fault =>
      obtain ⟨hstatus, hspace⟩ := replaceOutput_of_unmoved hwritten hmoved
      exact ⟨hstatus, by rw [hspace]⟩
    | ok moved => exact absurd ⟨_, Workspace.apply_of_perform hmoved⟩ hstays

/-- Public halves are in nobody's way. -/
theorem leftAlone_of_gains {root : String} (hroot : keyPath machine options = .ok root)
    (h : GainsPublicHalves machine.keyTool space root tree) :
    LeftAlone machine space options output tree where
  halves := ⟨root, hroot, h⟩
  beside := by
    apply fileAt_eq_of_gains h
    intro parent last htarget
    obtain ⟨name, rfl⟩ := exists_name_of_locate_partial htarget
    apply ne_append_pub
    rw [getLast?_append_of_ne_empty name (by decide)]
    decide
  hosts := by
    intro home hhome
    apply fileAt_eq_of_gains h
    intro parent name htarget
    rw [(locate_hostsFile htarget).1]
    apply ne_append_pub
    decide

/-- Writing beside the output does not touch the host names. -/
theorem fileAt_hostsFile_of_write {here : Place} {home : String} {content : ByteArray}
    {after : FileTree} (h : tree.write here (partialFile output) content = .ok after) :
    after.fileAt here (hostsFile home) = tree.fileAt here (hostsFile home) := by
  apply fileAt_congr (sameDirectories_of_write h)
  intro parent name htarget
  obtain ⟨parent', last, hpartial, -, -, rfl⟩ := write_eq_ok_iff.1 h
  obtain ⟨before, rfl⟩ := exists_name_of_locate_partial hpartial
  rw [(locate_hostsFile htarget).1, entry?_put tree (by simp), if_neg]
  intro heq
  have hname := List.singleton_inj.1 (List.append_inj' heq rfl).2
  have hlast : "hosts".toList.getLast? = (before ++ ".sedge-new").toList.getLast? := by
    rw [hname]
  rw [getLast?_append_of_ne_empty before (by decide)] at hlast
  revert hlast
  decide

/-- **The text cannot be written**: the search for keys is all that was done. -/
theorem update_of_write_error {fault : FileFault} (hnamed : space.tree.WellNamed)
    (houtput : outputPath machine options = .ok output)
    (hrenders : Renders machine space options scan rendering)
    (hending : update machine space options = some ending)
    (h : scan.space.tree.write space.here (partialFile output) rendering.text.toUTF8 =
      .error fault) :
    ending.status = 1 ∧ space.Throughout (LeftAlone machine space options output) ending.space := by
  obtain ⟨document, -, hsearch, -⟩ := id hrenders
  obtain ⟨root, hroot, hscan⟩ := exists_gains hnamed hsearch
  obtain ⟨hstatus, hspace⟩ := update_of_output hrenders houtput hending
  rw [← hscan.here_eq] at h
  obtain ⟨hfailed, hunchanged⟩ := replaceOutput_of_write_error h
  rw [hstatus, hspace, hunchanged]
  exact ⟨hfailed, hscan.imp fun _ hgains => leftAlone_of_gains hroot hgains⟩

/-- **The text can be written**: what the output path was before the search decides what happens. -/
theorem update_of_write (hnamed : space.tree.WellNamed)
    (houtput : outputPath machine options = .ok output)
    (hrenders : Renders machine space options scan rendering)
    (hending : update machine space options = some ending)
    (h : scan.space.tree.write space.here (partialFile output) rendering.text.toUTF8 = .ok tree) :
    (space.tree.Replaceable space.here output → ending.status = 0) ∧
      (¬ space.tree.Replaceable space.here output →
        ending.status = 1 ∧ ending.space.tree = tree) := by
  obtain ⟨document, -, hsearch, -⟩ := id hrenders
  obtain ⟨root, -, hscan⟩ := exists_gains hnamed hsearch
  obtain ⟨hstatus, hspace⟩ := update_of_output hrenders houtput hending
  rw [← hscan.here_eq] at h
  rw [hstatus, hspace, ← replaceable_congr hscan.last.sameDirectories, ← hscan.here_eq]
  exact replaceOutput_of_write h

end Failing

/-- **A failed update leaves nothing behind, unless its output is a directory.** Whatever files
    there are, whatever comes back from servers, and whichever step fails:

    * Where the text cannot be written beside the output, the update fails, and at no moment has it
      changed anything but for public halves that were missing.
    * The same holds of every update that fails, if its output path names no directory.
    * An update fails exactly if the text cannot be written or the output is a directory.
    * If the output is a directory and the text can be written beside it, or into it, the text stays
      there. Every other entry is what it was after the search for keys, the host names too. -/
theorem failed_update_leaves_nothing (machine : Machine) (options : Options) {tree : FileTree}
    {here : Place} {output : String} {scan : Scan} {rendering : Rendering} (hnamed : tree.WellNamed)
    (houtput : outputPath machine options = .ok output)
    (hrenders : Renders machine (.start tree here) options scan rendering) :
    let space := Workspace.start tree here
    let found := scan.space.tree
    let writing := found.write here (partialFile output) rendering.text.toUTF8
    ∃ ending, run machine space ⟨options, .update⟩ = some ending ∧
      (∀ fault, writing = .error fault →
        ending.status = 1 ∧
          space.Throughout (LeftAlone machine space options output) ending.space) ∧
      (ending.status ≠ 0 → tree.Replaceable here output →
        space.Throughout (LeftAlone machine space options output) ending.space) ∧
      (ending.status = 0 ↔ (∃ written, writing = .ok written) ∧ tree.Replaceable here output) ∧
      ∀ written, writing = .ok written → ¬ tree.Replaceable here output →
        ending.status = 1 ∧ LeftBeside found here output rendering ending.space.tree ∧
          ∀ home ∈ machine.home, ending.space.tree.fileAt here (hostsFile home) =
            tree.fileAt here (hostsFile home) := by
  intro space found writing
  obtain ⟨document, hload, hsearch, -⟩ := id hrenders
  obtain ⟨root, hroot, hscan⟩ := exists_gains hnamed hsearch
  obtain ⟨ending, hending⟩ : ∃ ending, update machine space options = some ending :=
    ⟨_, update_eq_some_iff.2 ⟨_, hload, rfl⟩⟩
  have hunwritten : ∀ fault, writing = .error fault →
      ending.status = 1 ∧
        space.Throughout (LeftAlone machine space options output) ending.space :=
    fun _ hfault => update_of_write_error hnamed houtput hrenders hending hfault
  have hwritten : ∀ written, writing = .ok written →
      (tree.Replaceable here output → ending.status = 0) ∧
      (¬ tree.Replaceable here output → ending.status = 1 ∧ ending.space.tree = written) :=
    fun _ hwrite => update_of_write hnamed houtput hrenders hending hwrite
  refine ⟨ending, hending, hunwritten, ?_, ?_, ?_⟩
  · intro hfailed hreplaceable
    cases hwrite : writing with
    | error fault => exact (hunwritten fault hwrite).2
    | ok written => exact absurd ((hwritten written hwrite).1 hreplaceable) hfailed
  · constructor
    · intro hzero
      cases hwrite : writing with
      | error fault =>
        rw [(hunwritten fault hwrite).1] at hzero
        cases hzero
      | ok written =>
        refine ⟨⟨written, rfl⟩, ?_⟩
        by_contra hdirectory
        rw [((hwritten written hwrite).2 hdirectory).1] at hzero
        cases hzero
    · rintro ⟨⟨written, hwrite⟩, hreplaceable⟩
      exact (hwritten written hwrite).1 hreplaceable
  · intro written hwrite hdirectory
    obtain ⟨hfailed, htree⟩ := (hwritten written hwrite).2 hdirectory
    have hleft : LeftAlone machine space options output found :=
      leftAlone_of_gains hroot hscan.last
    rw [htree]
    refine ⟨hfailed, ⟨fileAt_of_write hwrite, fun place hplace => entry?_of_write hwrite hplace⟩,
      fun home hhome => ?_⟩
    exact (fileAt_hostsFile_of_write hwrite).trans (hleft.hosts home hhome)

theorem eq_ok_of_toOption {ε α : Type} {x : Except ε α} {a : α} (h : x.toOption = some a) :
    x = .ok a := by
  cases x with
  | error error => cases h
  | ok b => exact congrArg _ (Option.some.inj h)

theorem exists_renders (machine : Machine) (space : Workspace) (options : Options)
    (h : ((load machine space options).bind fun loaded => loaded.toOption.bind fun document =>
      (searchKeys machine space options).toOption.bind fun scan =>
        (document.render scan.library).toOption).isSome = true) :
    ∃ scan rendering, Renders machine space options scan rendering := by
  obtain ⟨rendering, hall⟩ := Option.isSome_iff_exists.1 h
  obtain ⟨loaded, hload, hread⟩ := Option.bind_eq_some_iff.1 hall
  obtain ⟨document, hdocument, hsearch⟩ := Option.bind_eq_some_iff.1 hread
  obtain ⟨scan, hscan, hrender⟩ := Option.bind_eq_some_iff.1 hsearch
  rw [eq_ok_of_toOption hdocument] at hload
  exact ⟨scan, rendering, document, hload, eq_ok_of_toOption hscan, eq_ok_of_toOption hrender⟩

/-- The household with a directory where the new text is to be written. -/
def blocked : FileTree := household.put ["h", ".ssh", "config.sedge-new"] .directory

/-- The household with a directory in the place of the output. -/
def occupied : FileTree := household.put ["h", ".ssh", "config"] .directory

/-- The update fails, the public half is there, and so is nothing else. -/
theorem blocked_is_left_alone :
    blocked.WellNamed ∧ outputPath cottage bare = .ok "/h/.ssh/config" ∧
      ∃ scan rendering ending, Renders cottage (.start blocked []) bare scan rendering ∧
        run cottage (.start blocked []) ⟨bare, .update⟩ = some ending ∧ ending.status = 1 ∧
        LeftAlone cottage (.start blocked []) bare "/h/.ssh/config" ending.space.tree := by
  have hnamed : blocked.WellNamed := by decide +kernel
  have houtput : outputPath cottage bare = .ok "/h/.ssh/config" := by decide +kernel
  have hstatus : (run cottage (.start blocked []) ⟨bare, .update⟩).map Ending.status = some 1 := by
    decide +kernel
  have hreplaceable : blocked.Replaceable [] "/h/.ssh/config" := by decide +kernel
  obtain ⟨scan, rendering, hrenders⟩ :=
    exists_renders cottage (.start blocked []) bare (by decide +kernel)
  obtain ⟨ending, hending, -, hleft, -⟩ :=
    failed_update_leaves_nothing cottage bare hnamed houtput hrenders
  rw [hending] at hstatus
  have hone : ending.status = 1 := Option.some.inj hstatus
  have hfailed : ending.status ≠ 0 := by
    rw [hone]
    decide
  exact ⟨hnamed, houtput, scan, rendering, ending, hrenders, hending, hone,
    (hleft hfailed hreplaceable).last⟩

/-- **An output that is a directory keeps the new text beside it**, though the update fails. -/
theorem occupied_keeps_partial_file :
    ¬ ∀ machine options (tree : FileTree) here output scan rendering ending, tree.WellNamed →
      outputPath machine options = .ok output →
      Renders machine (.start tree here) options scan rendering →
      run machine (.start tree here) ⟨options, .update⟩ = some ending → ending.status ≠ 0 →
        LeftAlone machine (.start tree here) options output ending.space.tree := by
  intro hall
  have hnamed : occupied.WellNamed := by decide +kernel
  have houtput : outputPath cottage bare = .ok "/h/.ssh/config" := by decide +kernel
  have hafter : ∃ ending, run cottage (.start occupied []) ⟨bare, .update⟩ = some ending ∧
      ending.status = 1 ∧
        (ending.space.tree.fileAt [] (partialFile "/h/.ssh/config")).isSome = true := by
    have hrun : (run cottage (.start occupied []) ⟨bare, .update⟩).map (fun ending =>
        (ending.status, (ending.space.tree.fileAt [] (partialFile "/h/.ssh/config")).isSome)) =
          some (1, true) := by
      decide +kernel
    obtain ⟨ending, hending, heq⟩ := Option.map_eq_some_iff.1 hrun
    exact ⟨ending, hending, Prod.mk.inj heq⟩
  obtain ⟨scan, rendering, hrenders⟩ :=
    exists_renders cottage (.start occupied []) bare (by decide +kernel)
  obtain ⟨ending, hending, hone, hthere⟩ := hafter
  have hfailed : ending.status ≠ 0 := by
    rw [hone]
    decide
  have hbefore : occupied.fileAt [] (partialFile "/h/.ssh/config") = none := by decide +kernel
  have hbeside :=
    (hall cottage bare occupied [] _ scan rendering ending hnamed houtput hrenders hending
      hfailed).beside
  have hnone : ending.space.tree.fileAt [] (partialFile "/h/.ssh/config") = none :=
    hbeside.trans hbefore
  rw [hnone] at hthere
  cases hthere

end CommandLine
end SshTemplate
