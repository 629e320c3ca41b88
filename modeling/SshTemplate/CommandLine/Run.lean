import SshTemplate.CommandLine.Options
import SshTemplate.CommandLine.Starter
import SshTemplate.FileTree.Fetcher
import SshTemplate.Document.Reading
import SshTemplate.KeyLibrary.Scan
import SshTemplate.Rendering
import SshTemplate.Format.Json
import SshTemplate.Format.Outline
import SshTemplate.Format.Yaml

/-!
# `CommandLine.Run` — the commands

Each command is a function of the files it finds, and its `Ending` says everything it does: what is
printed, what went wrong, and the files afterwards together with every change on the way. The order
of the changes is the point of `update`: the new configuration is written beside the old one and
moved over it, so at no moment is the old one half replaced, and a text that could not be rendered
is never written at all.
-/

set_option autoImplicit false

namespace SshTemplate
namespace CommandLine

/-! ## Surroundings and endings -/

/-- What an agent did when keys were handed to it. -/
structure AgentReply where
  output : String
  status : Nat

/-- What there is besides the files. -/
structure Machine where
  readUrl : UrlReader
  /-- The path of the home directory, if one is known. -/
  home : Option String
  /-- Makes ready for asking servers, with their certificates verified or not, unless there are
      causes why it cannot be done, nearest first. -/
  connect : (verify : Bool) → Except (List String) Client
  /-- How many documents can be read one inside another; there is no memory for more. -/
  depth : Nat
  keyTool : Option KeyTool
  /-- Hands key files to the agent; none if there is no way to. -/
  agent : Option (List String → AgentReply)

/-- How a command ended. -/
structure Ending where
  space : Workspace
  output : String
  /-- What went wrong, outermost first; nothing if the command succeeded. -/
  errors : List String
  warnings : List Warning
  notes : List KeyNote

namespace Ending

def status (ending : Ending) : Nat := if ending.errors.isEmpty then 0 else 1

def success (space : Workspace) (output : String) : Ending := ⟨space, output, [], [], []⟩

def failure (space : Workspace) (errors : List String) : Ending := ⟨space, "", errors, [], []⟩

end Ending

/-! ## Where things are -/

/-- The path that was given, or one in the home directory. -/
def located (machine : Machine) (given : Option String) (inHome : String → String) :
    Except (List String) String :=
  match given, machine.home with
  | some path, _ => .ok path
  | none, some home => .ok (inHome home)
  | none, none => .error ["Unable to determine the home directory"]

def configPath (machine : Machine) (options : Options) : Except (List String) String :=
  located machine options.configPath fun home => Path.join (Path.join home ".sedge") "config"

def outputPath (machine : Machine) (options : Options) : Except (List String) String :=
  located machine options.outputPath fun home => Path.join (Path.join home ".ssh") "config"

def keyPath (machine : Machine) (options : Options) : Except (List String) String :=
  located machine options.keyPath fun home => Path.join home ".ssh"

/-- Where a new configuration is written before it is moved into place. -/
def partialFile (output : String) : String := output ++ ".sedge-new"

/-- Where host names are kept for completion. -/
def hostsFile (home : String) : String := Path.join (Path.join home ".sedge") "hosts"

/-! ## Reading and rendering -/

/-- The template that the options name: its path and its text. -/
def openTemplate (machine : Machine) (space : Workspace) (options : Options) :
    Except (List String) (String × String) :=
  match configPath machine options with
  | .error errors => .error errors
  | .ok path =>
    match space.readText path with
    | .error fault => .error ["Failed to read " ++ path, fault.message]
    | .ok text => .ok (path, text)

/-- Reads the template that the options name, with everything it includes; none if that takes more
    memory than there is. -/
def load (machine : Machine) (space : Workspace) (options : Options) :
    Option (Except (List String) Document) :=
  match openTemplate machine space options with
  | .error errors => some (.error errors)
  | .ok (path, text) =>
    match machine.connect (!options.noVerify) with
    | .error causes => some (.error (FetchFailure.request causes).report)
    | .ok client =>
      let out : Document.Outside :=
        ⟨machine.readUrl, machine.home, space.tree.fetch space.here client⟩
      (Document.readUpTo out machine.depth path text).map fun reading =>
        reading.outcome.mapError Error.report

/-- Searches the key directory that the options name. -/
def searchKeys (machine : Machine) (space : Workspace) (options : Options) :
    Except (List String) KeyLibrary.Scan :=
  (keyPath machine options).map (KeyLibrary.scan machine.keyTool space)

/-- Searches for keys and renders the document; then goes on with what was rendered. -/
def renderWith (machine : Machine) (space : Workspace) (options : Options)
    (proceed : Workspace → Rendering → Ending) (document : Document) : Ending :=
  match searchKeys machine space options with
  | .error errors => .failure space errors
  | .ok scan =>
    match document.render scan.library with
    | .error error => { Ending.failure scan.space error.report with notes := scan.notes }
    | .ok rendering =>
      { proceed scan.space rendering with warnings := rendering.warnings, notes := scan.notes }

/-- Reads the template and goes on with it. -/
def withDocument (machine : Machine) (space : Workspace) (options : Options)
    (proceed : Document → Ending) : Option Ending :=
  (load machine space options).map fun loaded =>
    match loaded with
    | .error errors => .failure space errors
    | .ok document => proceed document

/-! ## Commands -/

/-- The host names that complete a command line, one per line. -/
def hostsText (rendering : Rendering) : String :=
  String.join (rendering.completionNames.map (· ++ "\n"))

/-- Keeps the host names in a file, as far as that is possible. -/
def writeHosts (path : String) (space : Workspace) (rendering : Rendering) : Workspace :=
  match space.perform (.makeDirectories ((Path.parent? path).getD "")) with
  | .error _ => space
  | .ok space =>
    match space.perform (.write path (hostsText rendering).toUTF8) with
    | .error _ => space
    | .ok space => space

/-- Keeps the host names for completion, if there is a home directory to keep them in. -/
def recordHosts (machine : Machine) (space : Workspace) (rendering : Rendering) : Workspace :=
  match machine.home with
  | none => space
  | some home => writeHosts (hostsFile home) space rendering

/-- Writes the rendered text beside its target and moves it into place. -/
def replaceOutput (machine : Machine) (output : String) (space : Workspace)
    (rendering : Rendering) : Ending :=
  match space.perform (.write (partialFile output) rendering.text.toUTF8) with
  | .error fault =>
    .failure space ["Failed to write " ++ partialFile output, fault.message]
  | .ok space =>
    match space.perform (.rename (partialFile output) output) with
    | .error fault => .failure space ["Failed to replace " ++ output, fault.message]
    -- Completion is a convenience: that its file cannot be written is no failure.
    | .ok space => .success (recordHosts machine space rendering) ""

/-- Writes the rendered text to where the options say. -/
def writeOutput (machine : Machine) (options : Options) (space : Workspace)
    (rendering : Rendering) : Ending :=
  match outputPath machine options with
  | .error errors => .failure space errors
  | .ok output => replaceOutput machine output space rendering

def update (machine : Machine) (space : Workspace) (options : Options) : Option Ending :=
  withDocument machine space options
    (renderWith machine space options (writeOutput machine options))

/-- Writes a first template at a path where there is none. -/
def createTemplate (path : String) (space : Workspace) : Ending :=
  match space.perform (.create path starterText.toUTF8) with
  | .ok space => .success space ("Created " ++ path ++ "\n")
  | .error .alreadyExists => .success space (path ++ " already exists, leaving it untouched\n")
  | .error fault => .failure space ["Failed to create " ++ path, fault.message]

/-- Writes a first template where there is none, in a directory that is made if it is missing. -/
def init (machine : Machine) (space : Workspace) (options : Options) : Ending :=
  match configPath machine options with
  | .error errors => .failure space errors
  | .ok path =>
    match Path.parent? path with
    | none => createTemplate path space
    | some parent =>
      match space.perform (.makeDirectories parent) with
      | .error fault => .failure space ["Failed to create " ++ parent, fault.message]
      | .ok space => createTemplate path space

/-- Fingerprints, aligned to the right, and the files of their keys. The column is as many
    characters wide as the longest fingerprint has bytes. -/
def keyList (library : KeyLibrary) : String :=
  let width := (library.keys.map fun key => key.1.utf8ByteSize).foldl max 0
  String.join <| library.keys.map fun (fingerprint, path) =>
    let filling := String.ofList (List.replicate (width - fingerprint.length) ' ')
    filling ++ fingerprint ++ "  " ++ path ++ "\n"

/-- Searches for keys and goes on with those that were found. -/
def withKeys (machine : Machine) (space : Workspace) (options : Options)
    (proceed : KeyLibrary.Scan → Ending) : Ending :=
  match searchKeys machine space options with
  | .error errors => .failure space errors
  | .ok scan => { proceed scan with notes := scan.notes }

def listKeys (scan : KeyLibrary.Scan) : Ending := .success scan.space (keyList scan.library)

/-- Hands every key that was found to the agent. -/
def addKeys (machine : Machine) (scan : KeyLibrary.Scan) : Ending :=
  let files := scan.library.paths
  if files.isEmpty then .failure scan.space ["No keys found in " ++ scan.library.root]
  else
    match machine.agent with
    | none => .failure scan.space ["Failed to run ssh-add", FileFault.notFound.message]
    | some agent =>
      let reply := agent files
      if reply.status = 0 then .success scan.space reply.output
      else
        { Ending.failure scan.space
            ["ssh-add failed (exit status: " ++ toString reply.status ++ ")"] with
          output := reply.output }

def showDocument (space : Workspace) (document : Document) : Ending :=
  .success space (Format.Outline.ofDocument document).text

def formatted (format : OutputFormat) (rendering : Rendering) : String :=
  match format with
  | .ssh => rendering.text
  | .json => Format.Json.stanzas rendering.stanzas
  | .yaml => Format.Yaml.stanzas rendering.stanzas

def showStanzas (format : OutputFormat) (space : Workspace) (rendering : Rendering) : Ending :=
  .success space (formatted format rendering)

/-- Runs a command. There is no ending if it takes more memory than there is; nothing has been
    changed then, since it is the reading of the template that takes it. -/
def run (machine : Machine) (space : Workspace) (invocation : Invocation) : Option Ending :=
  let options := invocation.options
  match invocation.command with
  | .update => update machine space options
  | .init => some (init machine space options)
  | .listKeys => some (withKeys machine space options listKeys)
  | .addKeys => some (withKeys machine space options (addKeys machine))
  | .showDocument => withDocument machine space options (showDocument space)
  | .showStanzas format =>
    withDocument machine space options (renderWith machine space options (showStanzas format))

end CommandLine
end SshTemplate
