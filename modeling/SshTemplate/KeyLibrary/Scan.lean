import SshTemplate.KeyLibrary
import SshTemplate.FileTree.Workspace
import SshTemplate.Text.Utf8

/-!
# `KeyLibrary.Scan` — finding key files

Every file below a directory is a candidate, apart from those whose names say that they are no
private keys. What a candidate's fingerprint is, a separate tool knows (`KeyTool`); of its answers
only the form is fixed here. A tool that knows nothing about a private key without its public half
gets a second chance: the public half is generated once, next to the key, and the tool asked again.

So a scan writes files, but only ever new ones named `<key>.pub`.
-/

set_option autoImplicit false

namespace SshTemplate

open Text

/-- A tool that knows about keys. Its answers depend on the key file and on what there is under the
    name of its public half. -/
structure KeyTool where
  /-- Describes the key; none if it cannot. -/
  describe? (key : ByteArray) (publicHalf : Option Entry) : Option ByteArray
  /-- Computes the public half; none if it cannot. -/
  publicHalf? (key : ByteArray) : Option ByteArray

namespace KeyLibrary

/-- The fingerprint in a description: the second of exactly four words. -/
def fingerprintOf? (description : List Char) : Option String :=
  match words description with
  | [_, fingerprint, _, _] => some (String.ofList fingerprint)
  | _ => none

/-- Names of files in a key directory that are never keys. -/
def otherFiles : List String := ["config", "known_hosts", "known_hosts.old", "authorized_keys"]

/-- Whether a file with the name may hold a private key. -/
def isCandidate (name : String) : Bool :=
  !".".toList.isPrefixOf name.toList && !".pub".toList.isSuffixOf name.toList &&
    !otherFiles.contains name

/-- The files below a directory that may hold private keys. -/
def candidates (space : Workspace) (root : String) : List String :=
  (space.tree.filesBelow space.here root).filter fun path =>
    isCandidate ((Path.fileName? path).getD path)

/-- The path of a key's public half. -/
def publicPath (key : String) : String := key ++ ".pub"

/-- What looking at one candidate comes to. -/
structure Inspection where
  space : Workspace
  fingerprint : Option String
  notes : List KeyNote

/-- Reads the fingerprint out of a tool's answer. -/
def readAnswer (space : Workspace) (path : String) (answer : ByteArray) : Inspection :=
  let description := decodeLossy answer.toList
  match fingerprintOf? description with
  | some fingerprint => ⟨space, some fingerprint, []⟩
  | none => ⟨space, none, [.unreadableFingerprint path (String.ofList (trim description))]⟩

/-- Generates the public half of a key that lacks one, and asks the tool again. -/
def inspectAgain (tool : KeyTool) (path : String) (key : ByteArray) (space : Workspace) :
    Inspection :=
  if space.holds (publicPath path) then ⟨space, none, []⟩
  else
    match tool.publicHalf? key with
    | none => ⟨space, none, [.generating path]⟩
    | some publicHalf =>
      match space.perform (.write (publicPath path) publicHalf) with
      | .error fault => ⟨space, none, [.generating path, .notWritten (publicPath path) fault]⟩
      | .ok space =>
        let notes : List KeyNote := [.generating path, .generated (publicPath path)]
        match tool.describe? key (space.entry? (publicPath path)) with
        | none => ⟨space, none, notes⟩
        | some answer =>
          let inspection := readAnswer space path answer
          { inspection with notes := notes ++ inspection.notes }

/-- Asks the tool about one candidate. -/
def inspect (tool : KeyTool) (path : String) (space : Workspace) : Inspection :=
  match space.entry? path with
  | some (.file key) =>
    match tool.describe? key (space.entry? (publicPath path)) with
    | some answer => readAnswer space path answer
    | none => inspectAgain tool path key space
  | _ => ⟨space, none, []⟩

/-- A search under way. -/
structure Scan where
  space : Workspace
  library : KeyLibrary
  notes : List KeyNote

/-- Looks at one candidate and adds it to the library if it has a fingerprint. -/
def Scan.visit (tool : KeyTool) (scan : Scan) (path : String) : Scan :=
  let inspection := inspect tool path scan.space
  match inspection.fingerprint with
  | none => { scan with space := inspection.space, notes := scan.notes ++ inspection.notes }
  | some fingerprint =>
    ⟨inspection.space, scan.library.add fingerprint path,
      scan.notes ++ inspection.notes ++ (scan.library.noteOf? fingerprint path).toList⟩

/-- Looks at candidates in order. -/
def visitAll (tool : KeyTool) (root : String) (space : Workspace) (paths : List String) : Scan :=
  paths.foldl (Scan.visit tool) ⟨space, .empty root, []⟩

/-- Searches a directory. Without a tool no file is looked at, and a missing directory holds
    nothing. -/
def scan (tool : Option KeyTool) (space : Workspace) (root : String) : Scan :=
  match tool with
  | none => ⟨space, .empty root, []⟩
  | some tool => visitAll tool root space (candidates space root)

end KeyLibrary
end SshTemplate
