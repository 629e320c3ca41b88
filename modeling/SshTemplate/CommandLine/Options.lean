/-!
# `CommandLine.Options` — what the command line asks for

Arguments are options and the words of a command, in any order: the options below are understood
before, between and after the words. A command of two words is read level by level, and an option
may be given once on each level; of two, the one nearer to the end of the command counts. Whatever
does not fit is a usage error, which is reported by its exit status alone here.
-/

set_option autoImplicit false

namespace SshTemplate
namespace CommandLine

inductive OutputFormat where
  | ssh
  | json
  | yaml
  deriving DecidableEq

inductive Command where
  /-- Render into the ssh configuration. -/
  | update
  /-- Write a first template. -/
  | init
  /-- List the keys in the key directory. -/
  | listKeys
  /-- Hand the keys in the key directory to the agent. -/
  | addKeys
  /-- Show what the template was read as. -/
  | showDocument
  /-- Show what the template is rendered to. -/
  | showStanzas (format : OutputFormat)
  deriving DecidableEq

/-- Options that every command understands. -/
structure Options where
  configPath : Option String
  outputPath : Option String
  keyPath : Option String
  noVerify : Bool
  verbose : Bool
  deriving DecidableEq

structure Invocation where
  options : Options
  command : Command
  deriving DecidableEq

/-! ## Options as they are written -/

/-- The options, by what they set. -/
inductive OptionName where
  | configPath
  | outputPath
  | keyPath
  | noVerify
  | verbose
  | outputFormat
  deriving DecidableEq

namespace OptionName

def takesValue : OptionName → Bool
  | noVerify | verbose => false
  | _ => true

/-- The option of a single letter. -/
def ofLetter? : Char → Option OptionName
  | 'c' => some configPath
  | 'o' => some outputPath
  | 'k' => some keyPath
  | 'n' => some noVerify
  | 'v' => some verbose
  | 'F' => some outputFormat
  | _ => none

/-- The option of a whole word. -/
def ofWord? : String → Option OptionName
  | "config-file" => some configPath
  | "output-file" => some outputPath
  | "key-directory" => some keyPath
  | "no-verify" => some noVerify
  | "verbose" => some verbose
  | "output-format" => some outputFormat
  | _ => none

end OptionName

/-- An option, with its value if it takes one. -/
structure Setting where
  name : OptionName
  value : String
  deriving DecidableEq

/-- Reads letters after a single dash. Letters of options without a value may stand together; a
    value follows its letter directly, after an equals sign, or as the next argument, which is
    what `none` asks for. -/
def readLetters? : List Char → Option (List Setting × Option OptionName)
  | [] => some ([], none)
  | letter :: rest => do
    let name ← OptionName.ofLetter? letter
    if name.takesValue then
      match rest with
      | [] => some ([], some name)
      | '=' :: value => some ([⟨name, String.ofList value⟩], none)
      | value => some ([⟨name, String.ofList value⟩], none)
    else
      let (settings, awaiting) ← readLetters? rest
      some (⟨name, ""⟩ :: settings, awaiting)

/-- Reads a word after two dashes, with its value after an equals sign if it stands there. -/
def readWord? (word : List Char) : Option (List Setting × Option OptionName) := do
  let text := word.takeWhile (· != '=')
  let name ← OptionName.ofWord? (String.ofList text)
  match word.drop text.length with
  | [] => if name.takesValue then some ([], some name) else some ([⟨name, ""⟩], none)
  | _ :: value => if name.takesValue then some ([⟨name, String.ofList value⟩], none) else none

/-! ## Levels -/

/-- The words of a command read so far. -/
inductive Level where
  | top
  | keys
  | dev
  | complete (command : Command)
  deriving DecidableEq

/-- The level that a word leads to. -/
def Level.next? : Level → String → Option Level
  | top, "update" => some (complete .update)
  | top, "init" => some (complete .init)
  | top, "keys" => some keys
  | top, "dev" => some dev
  | keys, "list" => some (complete .listKeys)
  | keys, "add" => some (complete .addKeys)
  | dev, "document" => some (complete .showDocument)
  | dev, "stanzas" => some (complete (.showStanzas .ssh))
  | _, _ => none

/-- Whether an option may be given on a level: the format only where there is one. -/
def Level.allows (level : Level) (name : OptionName) : Bool :=
  name ≠ .outputFormat || level = .complete (.showStanzas .ssh)

/-- The arguments read so far. -/
structure Progress where
  level : Level
  /-- Options given on this level, each of which may be given once. -/
  here : List Setting
  /-- Options given on earlier levels. -/
  before : List Setting

/-- Takes one option. A value may not be empty. -/
def Progress.set? (progress : Progress) (setting : Setting) : Option Progress :=
  let repeated := progress.here.any fun given => given.name = setting.name
  let missing := setting.name.takesValue && setting.value.isEmpty
  if !progress.level.allows setting.name || repeated || missing then none
  else some { progress with here := progress.here ++ [setting] }

def Progress.setAll? (progress : Progress) (settings : List Setting) : Option Progress :=
  settings.foldlM Progress.set? progress

/-- Goes on with one word of the command. -/
def Progress.step? (progress : Progress) (word : String) : Option Progress :=
  (progress.level.next? word).map fun level => ⟨level, [], progress.before ++ progress.here⟩

/-- Whether an argument is an option: a lone dash is none. -/
def isOption (arg : String) : Bool :=
  match arg.toList with
  | '-' :: _ :: _ => true
  | _ => false

/-- Reads arguments. `awaiting` is the option whose value comes next; after `--` nothing may
    come. -/
def readArguments? (progress : Progress) (awaiting : Option OptionName) :
    List String → Option Progress
  | [] => if awaiting.isSome then none else some progress
  | arg :: rest =>
    if arg = "--" then if awaiting.isSome || !rest.isEmpty then none else some progress
    else if isOption arg then
      if awaiting.isSome then none
      else
        let read :=
          match arg.toList with
          | '-' :: '-' :: word => readWord? word
          | letters => readLetters? (letters.drop 1)
        match read with
        | none => none
        | some (settings, awaiting) =>
          match progress.setAll? settings with
          | none => none
          | some progress => readArguments? progress awaiting rest
    else
      match awaiting with
      | some name =>
        match progress.set? ⟨name, arg⟩ with
        | none => none
        | some progress => readArguments? progress none rest
      | none =>
        match progress.step? arg with
        | none => none
        | some progress => readArguments? progress none rest

/-- The value of an option: the last one given. -/
def lastValue? (settings : List Setting) (name : OptionName) : Option String :=
  ((settings.filter fun given => given.name = name).getLast?).map Setting.value

def OutputFormat.ofName? : String → Option OutputFormat
  | "ssh" => some .ssh
  | "json" => some .json
  | "yaml" => some .yaml
  | _ => none

/-- The command with the format that was asked for; none if there is no such format. -/
def Command.withFormat? (command : Command) : Option String → Option Command
  | none => some command
  | some name => (OutputFormat.ofName? name).map Command.showStanzas

/-- Reads a command line; none if it is malformed. -/
def parse? (args : List String) : Option Invocation := do
  let progress ← readArguments? ⟨.top, [], []⟩ none args
  match progress.level with
  | .complete command =>
    let given := progress.before ++ progress.here
    let command ← command.withFormat? (lastValue? given .outputFormat)
    some {
      options := {
        configPath := lastValue? given .configPath
        outputPath := lastValue? given .outputPath
        keyPath := lastValue? given .keyPath
        noVerify := (lastValue? given .noVerify).isSome
        verbose := (lastValue? given .verbose).isSome }
      command }
  | _ => none

end CommandLine
end SshTemplate
