import SshTemplate.Dictionary
import SshTemplate.Order
import SshTemplate.Path
import SshTemplate.FileFault

/-!
# `KeyLibrary` — key files by fingerprint

Templates name keys by fingerprint, because a fingerprint is the same on every machine and the file
that holds the key is not. A library is filled in the order in which key files are found, and the
first file with a fingerprint keeps it; later ones are noted and left alone.

Notes are what the program logs while it looks for keys. They are values here, with their wording
beside them, for the same reason as issues are.
-/

set_option autoImplicit false

namespace SshTemplate

/-! ## Notes -/

/-- What is noted about a key file. -/
inductive KeyNote where
  /-- Its fingerprint belongs to another file already. -/
  | duplicate (key other : String)
  /-- The key tool's answer holds no fingerprint. -/
  | unreadableFingerprint (key answer : String)
  /-- Its public half is missing and will be asked for. -/
  | generating (key : String)
  | generated (publicKey : String)
  /-- Its public half could not be written. -/
  | notWritten (publicKey : String) (fault : FileFault)
  deriving DecidableEq

namespace KeyNote

def level : KeyNote → String
  | generated _ => "INFO"
  | _ => "WARN"

def message : KeyNote → String
  | duplicate .. => "key has the same fingerprint as another key, ignoring duplicate key"
  | unreadableFingerprint .. => "public key fingerprint couldn't be parsed"
  | generating _ =>
    "public key does not exist for private key, attempting to generate; " ++
      "you may be prompted for a pass phrase"
  | generated _ => "generated public key"
  | notWritten .. => "unable to write public key"

/-- Names and values that go with the message. -/
def fields : KeyNote → List (String × String)
  | duplicate key other => [("key", key), ("other", other)]
  | unreadableFingerprint key answer => [("key", key), ("output", answer)]
  | generating key => [("key", key)]
  | generated publicKey => [("key", publicKey)]
  | notWritten publicKey fault => [("key", publicKey), ("err", fault.message)]

end KeyNote

/-! ## The library -/

structure KeyLibrary where
  /-- The directory that was searched; notes name files by their place below it. -/
  root : String
  /-- Fingerprints and the files that hold their keys, in the order in which they were found. -/
  files : Dictionary String String

namespace KeyLibrary

def empty (root : String) : KeyLibrary := ⟨root, .empty⟩

def isEmpty (library : KeyLibrary) : Bool := library.files.entries.isEmpty

/-- The file that holds the key with the fingerprint. -/
def lookup (library : KeyLibrary) (fingerprint : String) : Option String :=
  library.files.get? fingerprint

/-- Adds a key file, unless its fingerprint is known. -/
def add (library : KeyLibrary) (fingerprint path : String) : KeyLibrary :=
  { library with files := library.files.insertNew fingerprint path }

/-- What is noted when a key file is added. -/
def noteOf? (library : KeyLibrary) (fingerprint path : String) : Option KeyNote :=
  (library.lookup fingerprint).map fun other =>
    .duplicate (Path.relativeTo library.root path) (Path.relativeTo library.root other)

/-- Adds key files one after the other. -/
def addAll (library : KeyLibrary) (pairs : List (String × String)) : KeyLibrary :=
  pairs.foldl (fun library pair => library.add pair.1 pair.2) library

/-- What is noted while key files are added. -/
def notesOf (library : KeyLibrary) : List (String × String) → List KeyNote
  | [] => []
  | (fingerprint, path) :: rest =>
    (library.noteOf? fingerprint path).toList ++ (library.add fingerprint path).notesOf rest

def ofPairs (pairs : List (String × String)) : KeyLibrary := (empty "").addAll pairs

/-- Fingerprints with their files, by path; keys in one file stay in the order they were found. -/
def keys (library : KeyLibrary) : List (String × String) :=
  Order.sort (fun a b => Path.le a.2 b.2) library.files.entries

/-- The key files by path; of several spellings of one path the first found is listed. -/
def paths (library : KeyLibrary) : List String :=
  Order.dropRepeats Path.same (Order.sort Path.le library.files.values)

end KeyLibrary
end SshTemplate
