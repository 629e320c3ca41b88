import SshTemplate.Dictionary
import SshTemplate.FileFault
import SshTemplate.Text.Numeral
import SshTemplate.Path

/-!
# `FileTree.Basic` — files and directories as a value

Commands read and change files, and what they leave behind — on success and at every point where
they can fail — is what has to be said about them. So the file system is a value here: a finite map
from places to entries, and each operation either gives the tree after it or the fault it failed
with and no change.

The faults, and which of two comes first, are those of a Linux file system: a path is followed name
by name, every name but the last has to be a directory, `..` is followed where it stands, and a
trailing slash asks for a directory. There are no links and no permissions.
-/

set_option autoImplicit false

namespace SshTemplate

open Text

inductive Entry where
  | file (content : ByteArray)
  | directory

/-- Files are compared byte by byte. -/
instance : DecidableEq Entry
  | .file a, .file b =>
    decidable_of_iff (a.data = b.data)
      ⟨fun h => congrArg Entry.file (ByteArray.ext h), fun h => by cases h; rfl⟩
  | .directory, .directory => isTrue rfl
  | .file _, .directory => isFalse nofun
  | .directory, .file _ => isFalse nofun

/-- Where an entry is: the names on the way from the root directory. -/
abbrev Place := List String

/-- All entries but the root directory, in the order in which they are enumerated. -/
structure FileTree where
  entries : Dictionary Place Entry

namespace FileTree

/-- The longest name of an entry, in bytes. -/
def maxName : Nat := 255

/-- The shortest path that is too long, in bytes. -/
def pathLimit : Nat := 4096

def empty : FileTree := ⟨.empty⟩

def entry? (tree : FileTree) : Place → Option Entry
  | [] => some .directory
  | place => tree.entries.get? place

/-- Puts an entry at a place, over what is there. -/
def put (tree : FileTree) (place : Place) (entry : Entry) : FileTree :=
  ⟨tree.entries.insert place entry⟩

def remove (tree : FileTree) (place : Place) : FileTree := ⟨tree.entries.erase place⟩

/-! ## Following paths -/

/-- What the last step of a path asks for, in the directory that the others lead to. -/
inductive Step where
  /-- The directory itself, or another one that is sure to exist. -/
  | directory (place : Place)
  /-- The entry of that name; `slash` if the path goes on with a slash. -/
  | name (name : String) (slash : Bool)

structure Target where
  parent : Place
  step : Step

/-- Follows one step that others come after. -/
def enter (tree : FileTree) (place : Place) (name : String) : Except FileFault Place :=
  if name = "." then .ok place
  else if name = ".." then .ok place.dropLast
  else if maxName < byteLength name.toList then .error .nameTooLong
  else
    match tree.entry? (place ++ [name]) with
    | none => .error .notFound
    | some (.file _) => .error .notADirectory
    | some .directory => .ok (place ++ [name])

/-- Why a path leads nowhere, whatever the tree holds. -/
def pathFault? (path : String) : Option FileFault :=
  if path.toList.contains '\x00' then some .nulInPath
  else if path.isEmpty then some .notFound
  else if pathLimit ≤ byteLength path.toList then some .nameTooLong
  else none

/-- The names between the slashes of a path. -/
def pathNames (path : String) : List String :=
  ((splitOn '/' path.toList).filter fun piece => !piece.isEmpty).map String.ofList

/-- Follows names from a directory. -/
def follow (tree : FileTree) (start : Place) (names : List String) (slash : Bool) :
    Except FileFault Target :=
  match names.reverse with
  | [] => .ok ⟨start, .directory start⟩
  | last :: before => do
    let parent ← before.reverse.foldlM tree.enter start
    if last = "." then pure ⟨parent, .directory parent⟩
    else if last = ".." then pure ⟨parent, .directory parent.dropLast⟩
    else pure ⟨parent, .name last slash⟩

/-- Where a path leads, from the directory `here`. -/
def locate (tree : FileTree) (here : Place) (path : String) : Except FileFault Target :=
  match pathFault? path with
  | some fault => .error fault
  | none =>
    tree.follow (if Path.isAbsolute path then [] else here) (pathNames path)
      (path.toList.getLast? = some '/')

/-- The entry of a name in a directory, if there is one. -/
def child? (tree : FileTree) (parent : Place) (name : String) : Except FileFault (Option Entry) :=
  if maxName < byteLength name.toList then .error .nameTooLong
  else .ok (tree.entry? (parent ++ [name]))

/-- The entry that a path names, and its place. -/
def find (tree : FileTree) (here : Place) (path : String) : Except FileFault (Place × Entry) := do
  let target ← tree.locate here path
  match target.step with
  | .directory place => pure (place, .directory)
  | .name name slash =>
    match ← tree.child? target.parent name with
    | none => throw .notFound
    | some .directory => pure (target.parent ++ [name], .directory)
    | some (.file content) =>
      if slash then throw .notADirectory else pure (target.parent ++ [name], .file content)

/-- Whether the path names anything. -/
def holds (tree : FileTree) (here : Place) (path : String) : Bool :=
  match tree.find here path with
  | .ok _ => true
  | .error _ => false

/-! ## Operations -/

/-- The text of a file. -/
def readText (tree : FileTree) (here : Place) (path : String) : Except FileFault String := do
  match ← tree.find here path with
  | (_, .directory) => throw .isADirectory
  | (_, .file content) =>
    match String.fromUTF8? content with
    | some text => pure text
    | none => throw .notText

/-- Writes a file, over the one that is there. -/
def write (tree : FileTree) (here : Place) (path : String) (content : ByteArray) :
    Except FileFault FileTree := do
  let target ← tree.locate here path
  match target.step with
  | .directory _ => throw .isADirectory
  | .name name slash =>
    if slash then throw .isADirectory
    match ← tree.child? target.parent name with
    | some .directory => throw .isADirectory
    | _ => pure (tree.put (target.parent ++ [name]) (.file content))

/-- Writes a file where nothing is. -/
def create (tree : FileTree) (here : Place) (path : String) (content : ByteArray) :
    Except FileFault FileTree := do
  let target ← tree.locate here path
  match target.step with
  | .directory _ => throw .alreadyExists
  | .name name slash =>
    if slash then throw .isADirectory
    match ← tree.child? target.parent name with
    | some _ => throw .alreadyExists
    | none => pure (tree.put (target.parent ++ [name]) (.file content))

/-- Moves a file over another one, or to where nothing is. -/
def rename (tree : FileTree) (here : Place) (old new : String) : Except FileFault FileTree := do
  let source ← tree.locate here old
  let target ← tree.locate here new
  match source.step, target.step with
  | .name oldName oldSlash, .name newName newSlash =>
    match ← tree.child? source.parent oldName with
    | none => throw .notFound
    | some .directory => throw .isADirectory
    | some (.file content) =>
      -- Both ends are looked up before either is judged.
      let replaced ← tree.child? target.parent newName
      if oldSlash || newSlash then throw .notADirectory
      if replaced = some .directory then throw .isADirectory
      pure ((tree.remove (source.parent ++ [oldName])).put (target.parent ++ [newName])
        (.file content))
  | _, _ => throw .busy

/-- Makes one directory. -/
def makeDirectory (tree : FileTree) (here : Place) (path : String) : Except FileFault FileTree := do
  let target ← tree.locate here path
  match target.step with
  | .directory _ => throw .alreadyExists
  | .name name _ =>
    match ← tree.child? target.parent name with
    | some _ => throw .alreadyExists
    | none => pure (tree.put (target.parent ++ [name]) .directory)

/-- Whether the path names a directory. -/
def leadsToDirectory (tree : FileTree) (here : Place) (path : String) : Bool :=
  match tree.find here path with
  | .ok (_, .directory) => true
  | _ => false

/-- Makes a directory and, where they are missing, those on the way to it, of which there are at
    most `depth`. -/
def makeDirectoriesWithin (tree : FileTree) (here : Place) :
    Nat → String → Except FileFault FileTree
  | 0, _ => .error .notFound
  | depth + 1, path =>
    if path.isEmpty then .ok tree
    else
      match tree.makeDirectory here path with
      | .ok tree => .ok tree
      | .error .notFound => do
        let parent ← (Path.parent? path).elim (.error .notFound) .ok
        let tree ← tree.makeDirectoriesWithin here depth parent
        match tree.makeDirectory here path with
        | .ok tree => pure tree
        | .error fault => if tree.leadsToDirectory here path then pure tree else throw fault
      | .error fault => if tree.leadsToDirectory here path then .ok tree else .error fault

def makeDirectories (tree : FileTree) (here : Place) (path : String) : Except FileFault FileTree :=
  tree.makeDirectoriesWithin here ((Path.components path).length + 1) path

/-- The files that a path leads to: itself, if it is a file, or every file below it, with the path
    on which each is reached. -/
def filesBelow (tree : FileTree) (here : Place) (path : String) : List String :=
  match tree.find here path with
  | .error _ => []
  | .ok (_, .file _) => [path]
  | .ok (place, .directory) =>
    tree.entries.entries.filterMap fun (there, entry) =>
      match entry with
      | .directory => none
      | .file _ =>
        if place.isPrefixOf there then
          some ((there.drop place.length).foldl Path.join path)
        else none

end FileTree
end SshTemplate
