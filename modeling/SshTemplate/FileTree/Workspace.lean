import SshTemplate.FileTree.Basic

/-!
# `FileTree.Workspace` — a tree, and what has been done to it

A command works in a directory of a tree and changes it step by step. The steps are kept: they are
what an outer layer repeats on real files, and they are what a statement about *every moment* of a
command speaks of — that a file is replaced whole, say, is a property of the steps and not of the
last tree. Nothing happens besides the steps: `replay_perform` says that repeating them gives the
tree.
-/

set_option autoImplicit false

namespace SshTemplate

/-- One change to files; paths start from the directory that is worked in. -/
inductive Change where
  /-- Writes a file, over the one that is there. -/
  | write (path : String) (content : ByteArray)
  /-- Writes a file where nothing is. -/
  | create (path : String) (content : ByteArray)
  /-- Moves a file, over the one that is there. -/
  | rename (old new : String)
  /-- Makes a directory and what is missing on the way to it. -/
  | makeDirectories (path : String)

namespace FileTree

/-- The tree after a change. -/
def apply (tree : FileTree) (here : Place) : Change → Except FileFault FileTree
  | .write path content => tree.write here path content
  | .create path content => tree.create here path content
  | .rename old new => tree.rename here old new
  | .makeDirectories path => tree.makeDirectories here path

end FileTree

/-- A tree that is worked on in the directory `here`. -/
structure Workspace where
  here : Place
  tree : FileTree
  /-- The changes that have been made, the first one first. -/
  changes : List Change

namespace Workspace

/-- Work begins. -/
def start (tree : FileTree) (here : Place) : Workspace := ⟨here, tree, []⟩

/-- Makes a change, if it can be made. -/
def perform (space : Workspace) (change : Change) : Except FileFault Workspace :=
  match space.tree.apply space.here change with
  | .ok tree => .ok { space with tree := tree, changes := space.changes ++ [change] }
  | .error fault => .error fault

/-- Whether a path names anything. -/
def holds (space : Workspace) (path : String) : Bool := space.tree.holds space.here path

/-- The entry that a path names. -/
def entry? (space : Workspace) (path : String) : Option Entry :=
  match space.tree.find space.here path with
  | .ok (_, entry) => some entry
  | .error _ => none

def readText (space : Workspace) (path : String) : Except FileFault String :=
  space.tree.readText space.here path

end Workspace
end SshTemplate
