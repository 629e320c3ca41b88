import SshTemplate.Directive
import SshTemplate.Dictionary
import SshTemplate.Shell.Word
import SshTemplate.Template.Substitution

/-!
# `Document.Basic` — sections and documents

A document is what its own lines say, its `Contents`, and the documents it includes. The two are
kept apart as types because they never meet: an include adds to the list of included documents and
leaves the contents of the including one alone (`Contents.obey` maps an include to no change), and a
child starts from empty contents with a copy of the key definitions.

`Contents.obey` is the meaning of one directive. It is a pure step on contents; reading in
`Document.Reading` is iterating it over the lines.
-/

set_option autoImplicit false

namespace SshTemplate

open Template (Variables substituteBound)

/-! ## Sections -/

inductive SectionKind where
  /-- The globals of a document, before any other section. -/
  | root
  /-- `@HostAttrs`: only ever inherited. -/
  | bundle
  /-- `Host`: written once per combination of its template variables. -/
  | host (declarations : List TemplateVariable)
  deriving DecidableEq

/-- A named scope. What it inherits and which identities it uses are kept apart from its lines. -/
structure Section where
  name : String
  kind : SectionKind
  lines : List Line
  /-- The sections it inherits, by name. -/
  parents : List String
  identities : List String
  deriving DecidableEq

namespace Section

def opened (name : String) (kind : SectionKind) : Section := ⟨name, kind, [], [], []⟩

def isHost (s : Section) : Bool :=
  match s.kind with
  | .host _ => true
  | _ => false

def templateVariables (s : Section) : List TemplateVariable :=
  match s.kind with
  | .host declarations => declarations
  | _ => []

def addLine (line : Line) (s : Section) : Section := { s with lines := s.lines ++ [line] }

def addParent (name : String) (s : Section) : Section := { s with parents := s.parents ++ [name] }

def addIdentity (name : String) (s : Section) : Section :=
  { s with identities := s.identities ++ [name] }

end Section

/-! ## Documents -/

/-- Names of keys and their fingerprints, of which any may be the one there is a file for. -/
abbrev KeyDefinitions := Dictionary String (List String)

/-- What a document says by its own lines. -/
structure Contents where
  /-- How the document was named, by the user or by the including document. -/
  locator : String
  included : Bool
  root : Section
  /-- `@with` declarations waiting for the next host. -/
  pending : List TemplateVariable
  bindings : Variables
  /-- Bundles and hosts in the order in which they were opened. -/
  sections : List Section
  keys : KeyDefinitions

/-- A document and the documents it includes, in the order of its `@include` lines. -/
structure Document where
  contents : Contents
  includes : List Document

namespace Contents

/-- A document before its first line. -/
def start (locator : String) (included : Bool) (keys : KeyDefinitions) : Contents :=
  ⟨locator, included, .opened "Root" .root, [], .empty, [], keys⟩

def hosts (own : Contents) : List Section := own.sections.filter Section.isHost

/-- Changes the section that was opened last, the root if none was. -/
def amend (change : Section → Section) (own : Contents) : Contents :=
  match own.sections.getLast? with
  | none => { own with root := change own.root }
  | some current => { own with sections := own.sections.dropLast ++ [change current] }

/-- Replaces the variables known so far; the other spans are bound when hosts are written. -/
def resolve (own : Contents) (text : String) : String :=
  substituteBound own.bindings.get? text

/-- The command that reaches a host through a gateway. -/
def gatewayCommand (gateway : String) : String :=
  "ssh " ++ Shell.quote gateway ++ " nc %h %p 2> /dev/null"

/-- Binds what the including document supplied; a document that nothing included has no use for
    it. -/
def bindArguments (own : Contents) (names : List String) : Option (List String) →
    Except Issue Contents
  | none => .ok own
  | some supplied =>
    if supplied.length = names.length then
      .ok { own with bindings := own.bindings.extend (names.zip supplied) }
    else .error (.missingArguments own.locator names supplied.length)

/-- What a directive does to the contents of the document it stands in. `supplied` are the
    arguments that the including document passed, if there is one. -/
def obey (supplied : Option (List String)) (own : Contents) : Directive → Except Issue Contents
  | .hostAttrs name =>
    if own.pending.isEmpty then .ok { own with sections := own.sections ++ [.opened name .bundle] }
    else .error .withOnHostAttrs
  | .host name =>
    .ok { own with sections := own.sections ++ [.opened name (.host own.pending)], pending := [] }
  | .withVariable declared => .ok { own with pending := own.pending ++ [declared] }
  | .inherits name =>
    if own.sections.isEmpty then .error .isOnRoot else .ok (own.amend (.addParent name))
  | .via gateway =>
    .ok (own.amend (.addLine ⟨"ProxyCommand", [gatewayCommand (own.resolve gateway)]⟩))
  | .identity name => .ok (own.amend (.addIdentity (own.resolve name)))
  | .key name fingerprints => .ok { own with keys := own.keys.insert name fingerprints }
  | .assign key value =>
    .ok { own with bindings := own.bindings.insert (own.resolve key) (own.resolve value) }
  | .args names => own.bindArguments names supplied
  | .includes _ _ => .ok own
  | .literal line => .ok (own.amend (.addLine line))

end Contents
end SshTemplate
