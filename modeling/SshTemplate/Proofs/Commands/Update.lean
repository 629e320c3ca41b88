import SshTemplate.Main
import SshTemplate.Proofs.Keys.Scanning
import SshTemplate.Proofs.Reading.Stopping

/-!
# `Proofs.Commands.Update` — the output is replaced whole or not at all

An update searches for keys, writes the new text beside the output, moves it into place and keeps
the host names. Each of these can fail, and what is to be said about the output holds at every
moment between them. So each is taken for itself: what it can come to, and what it leaves of the
file that the output path names.

* A search only adds public halves, so it leaves the file alone unless the path leads to one.
* What is written goes to a path that is the output's with something behind it, and that leads to
  the same directory and to another name there (`locate_append`).
* The move is the one change to the file, and it brings the text that was written (`InPlace`).
* Keeping host names makes directories, which is adding, and writes to a place of its own.

That the output path cannot lead to the file beside the output is proved. It may lead to the host
names or to a public half, though, and then they are written where the output is; that it does not is
assumed.
-/

set_option autoImplicit false

namespace SshTemplate
namespace CommandLine

open FileTree KeyLibrary Text

/-! ## The file beside the output -/

section Beside

variable {tree middle after : FileTree} {here : Place} {output : String} {content : ByteArray}

theorem isSuffix_partial : IsSuffix ".sedge-new" := ⟨by decide, by decide, by decide⟩

theorem name_ne_partial (parent : Place) (name : String) :
    parent ++ [name] ≠ parent ++ [name ++ ".sedge-new"] := by
  intro heq
  have hname := List.singleton_inj.1 (List.append_cancel_left heq)
  have hlength := congrArg String.length hname
  rw [String.length_append] at hlength
  have hsuffix : ".sedge-new".length = 10 := by decide
  omega

/-- The file `name` in the directory `parent` is what the output path names, it has the content, and
    there is no file beside it. -/
structure InPlace (tree : FileTree) (here : Place) (output : String) (content : ByteArray)
    (parent : Place) (name : String) : Prop where
  target : tree.locate here output = .ok ⟨parent, .name name false⟩
  short : byteLength name.toList ≤ maxName
  entry : tree.entry? (parent ++ [name]) = some (.file content)
  beside : tree.locate here (partialFile output) =
    .ok ⟨parent, .name (name ++ ".sedge-new") false⟩
  gone : ∀ data, tree.entry? (parent ++ [name ++ ".sedge-new"]) ≠ some (.file data)

namespace InPlace

variable {parent : Place} {name : String}

theorem makeDirectories (h : InPlace tree here output content parent name)
    (hadded : OnlyDirectoriesAdded tree after) : InPlace after here output content parent name where
  target := locate_mono hadded.directoriesKept h.target
  short := h.short
  entry := by
    rcases hadded (parent ++ [name]) with hsame | ⟨hnone, -⟩
    · rw [hsame, h.entry]
    · rw [h.entry] at hnone
      cases hnone
  beside := locate_mono hadded.directoriesKept h.beside
  gone := by
    intro data hdata
    rcases hadded (parent ++ [name ++ ".sedge-new"]) with hsame | ⟨-, hdirectory⟩
    · exact h.gone data (hsame ▸ hdata)
    · rw [hdirectory] at hdata
      cases hdata

/-- Another file is written elsewhere, and not beside the output. -/
theorem write (h : InPlace tree here output content parent name) {path : String}
    {data : ByteArray} {parent' : Place} {name' : String}
    (hwrite : tree.write here path data = .ok after)
    (htarget : tree.locate here path = .ok ⟨parent', .name name' false⟩)
    (hapart : parent' ++ [name'] ≠ parent ++ [name]) (hname : name' ≠ name ++ ".sedge-new") :
    InPlace after here output content parent name := by
  have hdirs := (sameDirectories_of_write hwrite).kept
  obtain ⟨_, _, hother, -, -, rfl⟩ := write_eq_ok_iff.1 hwrite
  cases htarget.symm.trans hother
  refine ⟨locate_mono hdirs h.target, h.short, ?_, locate_mono hdirs h.beside, fun other => ?_⟩
  · rw [entry?_put tree (by simp), if_neg (Ne.symm hapart), h.entry]
  · rw [entry?_put tree (by simp), if_neg]
    · exact h.gone other
    · intro heq
      exact hname (List.singleton_inj.1 (List.append_inj' heq rfl).2).symm

end InPlace

end Beside

/-! ## The host names -/

section Hosts

variable {machine : Machine} {home : String} {space : Workspace} {rendering : Rendering}

theorem isName_hosts : IsName "hosts" := by decide

/-- The host names are kept in a file `hosts`. -/
theorem locate_hostsFile {tree : FileTree} {here parent : Place} {name : String} {slash : Bool}
    (h : tree.locate here (hostsFile home) = .ok ⟨parent, .name name slash⟩) :
    name = "hosts" ∧
      tree.find here (Path.join home ".sedge") = .ok (parent, .directory) :=
  find_of_locate_join (join_ne_empty home (by decide)) isName_hosts h

end Hosts

/-! ## Replacing the output -/

section Replacing

variable {machine : Machine} {space : Workspace} {output : String} {rendering : Rendering}

theorem success_eq (space : Workspace) (output : String) :
    (Ending.success space output).status = 0 ∧ (Ending.success space output).space = space :=
  ⟨rfl, rfl⟩

theorem replaceOutput_of_unwritten {fault : FileFault}
    (h : space.perform (.write (partialFile output) rendering.text.toUTF8) = .error fault) :
    (replaceOutput machine output space rendering).status = 1 ∧
      (replaceOutput machine output space rendering).space = space := by
  unfold replaceOutput
  rw [h]
  exact ⟨rfl, rfl⟩

theorem replaceOutput_of_unmoved {written : Workspace} {fault : FileFault}
    (hwritten : space.perform (.write (partialFile output) rendering.text.toUTF8) = .ok written)
    (h : written.perform (.rename (partialFile output) output) = .error fault) :
    (replaceOutput machine output space rendering).status = 1 ∧
      (replaceOutput machine output space rendering).space = written := by
  unfold replaceOutput
  rw [hwritten]
  dsimp only
  rw [h]
  exact ⟨rfl, rfl⟩

theorem replaceOutput_of_moved {written moved : Workspace}
    (hwritten : space.perform (.write (partialFile output) rendering.text.toUTF8) = .ok written)
    (h : written.perform (.rename (partialFile output) output) = .ok moved) :
    (replaceOutput machine output space rendering).status = 0 ∧
      (replaceOutput machine output space rendering).space =
        recordHosts machine moved rendering := by
  unfold replaceOutput
  rw [hwritten]
  dsimp only
  rw [h]
  exact success_eq _ _

end Replacing

/-! ## The command -/

section Command

variable {machine : Machine} {options : Options} {space : Workspace} {rendering : Rendering}
variable {document : Document} {scan : Scan} {errors : List String} {ending : Ending}

/-- **Reading the template ends if the memory allows for every name that has an answer**: for all
    paths there can be, and for the addresses that servers answer for. -/
theorem isSome_load {client : Client} {limit : ℕ}
    (hconnect : machine.connect (!options.noVerify) = .ok client) (hclient : client.Limited limit)
    (hdepth : pathCount + limit < machine.depth) : (load machine space options).isSome = true := by
  unfold load
  cases openTemplate machine space options with
  | error errors => rfl
  | ok template =>
    let around : Document.Surroundings :=
      ⟨machine.readUrl, machine.home, space.tree.fetcher space.here client limit hclient⟩
    have hread : Document.readUpTo around.outside machine.depth template.1 template.2 =
        some (Document.read around template.1 template.2) :=
      Document.readUpTo_of_lt hdepth template.1 template.2
    dsimp only
    rw [hconnect]
    exact congrArg (fun reading => (Option.map _ reading).isSome) hread

/-- **The program always comes to an end**: it reaches no server, and has memory for all paths. -/
theorem isSome_run_machine (home : Option String) (space : Workspace) (invocation : Invocation) :
    (run (CommandLine.machine home) space invocation).isSome = true := by
  have hdepth : pathCount + 0 < (CommandLine.machine home).depth := by
    unfold CommandLine.machine
    generalize pathCount = paths
    exact Nat.lt_succ_self paths
  have hload : (load (CommandLine.machine home) space invocation.options).isSome = true :=
    isSome_load rfl (Client.limited_unreachable _) hdepth
  obtain ⟨loaded, hload⟩ := Option.isSome_iff_exists.1 hload
  unfold run update withDocument
  cases invocation.command with
  | update => simp [hload]
  | init => rfl
  | listKeys => rfl
  | addKeys => rfl
  | showDocument => simp [hload]
  | showStanzas format => simp [hload]

theorem searchKeys_eq_ok_iff :
    searchKeys machine space options = .ok scan ↔
      ∃ root, keyPath machine options = .ok root ∧
        KeyLibrary.scan machine.keyTool space root = scan := by
  unfold searchKeys
  cases keyPath machine options with
  | error errors => simp [Except.map]
  | ok root => simp [Except.map]

/-- The template is read, the keys are found, and this is what it is rendered to. -/
def Renders (machine : Machine) (space : Workspace) (options : Options) (scan : Scan)
    (rendering : Rendering) : Prop :=
  ∃ document, load machine space options = some (.ok document) ∧
    searchKeys machine space options = .ok scan ∧
    document.render scan.library = .ok rendering

theorem update_eq_some_iff :
    update machine space options = some ending ↔
      ∃ loaded, load machine space options = some loaded ∧
        (match loaded with
          | .error errors => .failure space errors
          | .ok document =>
            renderWith machine space options (writeOutput machine options) document) = ending := by
  unfold update withDocument
  exact Option.map_eq_some_iff

/-- What was read is rendered. -/
theorem update_of_read (h : load machine space options = some (.ok document))
    (hending : update machine space options = some ending) :
    ending = renderWith machine space options (writeOutput machine options) document := by
  obtain ⟨loaded, hload, rfl⟩ := update_eq_some_iff.1 hending
  cases h.symm.trans hload
  rfl

/-- A search for keys only adds public halves. -/
theorem exists_gains (hnamed : space.tree.WellNamed)
    (h : searchKeys machine space options = .ok scan) :
    ∃ root, keyPath machine options = .ok root ∧
      space.Throughout (GainsPublicHalves machine.keyTool space root) scan.space := by
  obtain ⟨root, hroot, rfl⟩ := searchKeys_eq_ok_iff.1 h
  exact ⟨root, hroot, scan_gains machine.keyTool hnamed root⟩

theorem update_of_rendered (h : Renders machine space options scan rendering)
    (hending : update machine space options = some ending) :
    ending.status = (writeOutput machine options scan.space rendering).status ∧
      ending.space = (writeOutput machine options scan.space rendering).space := by
  obtain ⟨document, hload, hscan, hrender⟩ := h
  rw [update_of_read hload hending]
  unfold renderWith
  rw [hscan]
  dsimp only
  rw [hrender]
  exact ⟨rfl, rfl⟩

theorem update_of_output {output : String} (h : Renders machine space options scan rendering)
    (houtput : outputPath machine options = .ok output)
    (hending : update machine space options = some ending) :
    ending.status = (replaceOutput machine output scan.space rendering).status ∧
      ending.space = (replaceOutput machine output scan.space rendering).space := by
  have hsame := update_of_rendered h hending
  unfold writeOutput at hsame
  rw [houtput] at hsame
  exact hsame

/-- The output path leads neither to the host names nor to the public half of a candidate, whether
    or not there are such files. -/
structure Apart (machine : Machine) (space : Workspace) (options : Options) (output : String) :
    Prop where
  hosts : ∀ home ∈ machine.home,
    ¬ space.tree.LeadsTo space.here output (denoted space.here (hostsFile home))
  halves : ∀ root, keyPath machine options = .ok root → ∀ path ∈ candidates space root,
    ¬ space.tree.LeadsTo space.here output (denoted space.here (publicPath path))

end Command

/-- Everything is where it is looked for, `mirror` knows the keys, and one server answers. -/
def cottage : Machine where
  readUrl := Address.reader
  home := some "/h"
  connect _ := .ok fun address =>
    if address = "https://a.example/b" then .ok ⟨200, .ok "Host far\nPort 2\n"⟩
    else .error ["no way to a server"]
  depth := 2
  keyTool := some mirror
  agent := none

/-- No option is given. -/
def bare : Options := ⟨none, none, none, false, false⟩

/-- A template with a host, a pattern and a document from the server, and a key without a public
    half. -/
def household : FileTree :=
  ⟨.ofList [(["h"], .directory), (["h", ".sedge"], .directory), (["h", ".ssh"], .directory),
    (["h", ".ssh", "id"], .file "256 x me (R)".toUTF8),
    (["h", ".sedge", "config"],
      .file ("@key k x\nHost web\n@identity k\nHost *.com\nUser me\n" ++
        "@include https://a.example/b\n").toUTF8)]⟩

end CommandLine
end SshTemplate
