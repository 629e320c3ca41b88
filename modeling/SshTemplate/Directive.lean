import SshTemplate.Line

/-!
# `Directive` — what a line asks for

Every line is classified once, here. `Host` and the keywords that start with `@` belong to the
template language and have to fit their form; every other keyword is passed on as it is. Nothing
downstream looks at a keyword again, so this file is the whole vocabulary of the language.
-/

set_option autoImplicit false

namespace SshTemplate

/-- A template variable and the tokens of its domain, `@with <name> <token>...`. -/
structure TemplateVariable where
  name : String
  domain : List String
  deriving DecidableEq

inductive Directive where
  /-- `Host <name>` opens a host. -/
  | host (name : String)
  /-- `@HostAttrs <name>` opens a bundle of attributes. -/
  | hostAttrs (name : String)
  /-- `@with <name> <token>...` declares a variable of the next host. -/
  | withVariable (declared : TemplateVariable)
  /-- `@is <name>` inherits another section. -/
  | inherits (name : String)
  /-- `@via <gateway>` goes through a gateway. -/
  | via (gateway : String)
  /-- `@identity <name>` uses a named key. -/
  | identity (name : String)
  /-- `@key <name> <fingerprint>...` names a key. -/
  | key (name : String) (fingerprints : List String)
  /-- `@include <source> [arg...]` splices another document in. -/
  | includes (source : String) (args : List String)
  /-- `@set <key> <value>` binds a variable. -/
  | assign (key value : String)
  /-- `@args <name>...` binds what the including document supplied. -/
  | args (names : List String)
  /-- Any other keyword. -/
  | literal (line : Line)
  deriving DecidableEq

namespace Directive

/-- The directive with exactly one argument, or its usage. -/
def unary (form : String) (args : List String) (make : String → Directive) :
    Except Issue Directive :=
  match args with
  | [name] => .ok (make name)
  | _ => .error (.usage form args)

/-- Classifies a line by its keyword; case matters. -/
def ofLine (line : Line) : Except Issue Directive :=
  match line.keyword with
  | "Host" => unary "Host <hostname>" line.args host
  | "@HostAttrs" => unary "@HostAttrs <hostname>" line.args hostAttrs
  | "@with" =>
    match line.args with
    | name :: domain => .ok (withVariable ⟨name, domain⟩)
    | [] => .error (.usage "@with <variable> <value>..." [])
  | "@is" => unary "@is <HostAttrName>" line.args inherits
  | "@via" => unary "@via <Hostname>" line.args via
  | "@identity" => unary "@identity <name>" line.args identity
  | "@key" =>
    match line.args with
    | name :: fingerprint :: more => .ok (key name (fingerprint :: more))
    | found => .error (.usage "@key <name> [fingerprint]..." found)
  | "@include" =>
    match line.args with
    | source :: passed => .ok (includes source passed)
    | [] => .error (.usage "@include <https://...|/path/to/file.sedge> [arg ...]" [])
  | "@set" =>
    match line.args with
    | [name, value] => .ok (assign name value)
    | found => .error (.usage "@set <key> <value>" found)
  | "@args" =>
    match line.args with
    | name :: names => .ok (args (name :: names))
    | [] => .error (.usage "@args arg-name ..." [])
  | keyword =>
    if keyword.toList.head? = some '@' then .error (.unknownDirective keyword)
    else .ok (literal line)

/-- Reads a raw line and classifies it. -/
def read (raw : String) : Except Issue Directive := Line.read raw >>= ofLine

end Directive
end SshTemplate
