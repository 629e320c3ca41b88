import SshTemplate.Address
import SshTemplate.CommandLine.Run

/-!
# `Main` — the program

The outer layer, and the only place with `IO`. It takes a picture of the files that a command may
look at, lets `CommandLine.run` decide everything on that picture, repeats its changes on the real
files, one by one and in their order — so a configuration is replaced by a rename here as well — and
prints what it says.

Which files a template includes is only known after reading it, so the picture is taken in rounds:
the template is read, what it asked for is added, and it is read again until it asks for nothing
new. No other program is started and no server is asked: there is no key tool and no agent.
-/

set_option autoImplicit false

namespace SshTemplate
namespace CommandLine

/-! ## Taking the picture -/

/-- What is really under a path. -/
def probe (path : String) : IO (Option Entry) := do
  try
    let real ← IO.FS.realPath path
    if ← real.isDir then return some .directory
    return some (.file (← IO.FS.readBinFile real))
  catch _ => return none

/-- Adds what the names lead to, one after the other, from a place with the real path `real`. -/
def picture (tree : FileTree) (place : Place) (real : String) : List String → IO FileTree
  | [] => return tree
  | name :: rest => do
    let place :=
      if name = "." then place else if name = ".." then place.dropLast else place ++ [name]
    let real := Path.join real name
    match ← probe real with
    | none => return tree
    | some entry =>
      let tree := if place.isEmpty then tree else tree.put place entry
      picture tree place real rest

/-- Adds what a path leads to. -/
def addPath (space : Workspace) (path : String) : IO Workspace := do
  let tree ←
    if Path.isAbsolute path then picture space.tree [] "/" (FileTree.pathNames path)
    else picture space.tree space.here "." (FileTree.pathNames path)
  return { space with tree }

/-- The path of a source in the tree, as far as it is a text. -/
def localPath? : Source → Option String
  | .https _ => none
  | .file path => String.fromUTF8? ⟨path.toArray⟩
  | .path path => some path

/-- The local paths that reading the template asks for. -/
def includedPaths (machine : Machine) (space : Workspace) (options : Options) : List String :=
  match openTemplate machine space options, machine.connect (!options.noVerify) with
  | .ok (path, text), .ok client =>
    let out : Document.Outside :=
      ⟨machine.readUrl, machine.home, space.tree.fetch space.here client⟩
    match Document.readUpTo out machine.depth path text with
    | some reading => reading.log.filterMap localPath?
    | none => []
  | _, _ => []

/-- Adds included files in rounds, until reading asks for no path that has not been looked at. -/
partial def addIncludes (machine : Machine) (options : Options) (seen : List String)
    (space : Workspace) : IO Workspace := do
  let fresh := (includedPaths machine space options).filter fun path => !seen.contains path
  if fresh.isEmpty then return space
  let space ← fresh.foldlM addPath space
  addIncludes machine options (seen ++ fresh) space

/-! ## Repeating the changes -/

def repeatChange : Change → IO Unit
  | .write path content => IO.FS.writeBinFile path content
  | .create path content => IO.FS.writeBinFile path content
  | .rename old new => IO.FS.rename old new
  | .makeDirectories path => if path.isEmpty then pure () else IO.FS.createDirAll path

/-! ## The program -/

def usage : String :=
  "usage: sedge [-c FILE] [-o FILE] [-k DIR] [-n] [-v] " ++
    "(update | init | keys list | keys add | dev document | dev stanzas [-F ssh|json|yaml])"

/-- What there is besides the files: no key tool and no agent, and no way to a server. Then what is
    included has a path, so the memory for all different paths is enough. -/
def machine (home : Option String) : Machine where
  readUrl := Address.reader
  home := home
  connect _ := .ok (Client.unreachable fun _ => ["no way to a server"])
  depth := FileTree.pathCount + 1
  keyTool := none
  agent := none

/-- Runs a command on the real files. -/
def perform (home : Option String) (invocation : Invocation) : IO UInt32 := do
  let machine := machine home
  let options := invocation.options
  let here := FileTree.pathNames (toString (← IO.currentDir))
  let bare : Workspace := .start .empty here
  let outputs := match outputPath machine options with
    | .ok output => [output, partialFile output]
    | .error _ => []
  let paths := ["."] ++ home.toList ++ (configPath machine options).toOption.toList ++ outputs ++
    home.toList.map hostsFile
  let space ← addIncludes machine options [] (← paths.foldlM addPath bare)
  match run machine { space with changes := [] } invocation with
  | none =>
    IO.eprintln "out of memory"
    return 1
  | some ending =>
    for change in ending.space.changes do
      repeatChange change
    for warning in ending.warnings do
      IO.eprintln ("WARN " ++ warning.message)
    IO.print ending.output
    for error in ending.errors do
      IO.eprintln error
    return UInt32.ofNat ending.status

end CommandLine
end SshTemplate

def main (args : List String) : IO UInt32 := do
  match SshTemplate.CommandLine.parse? args with
  | none =>
    IO.eprintln SshTemplate.CommandLine.usage
    return 2
  | some invocation => SshTemplate.CommandLine.perform (← IO.getEnv "HOME") invocation
