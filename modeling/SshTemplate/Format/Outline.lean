import SshTemplate.Document.Basic
import SshTemplate.Text.Quoted

/-!
# `Format.Outline` — a document tree, spelled out

What a document was read as, for people who wonder why it renders as it does. Every field is shown
by name, every text in quotes, and everything that has parts spans lines, its parts indented by four
more blanks and followed by a comma. What has no parts stays on one line.
-/

set_option autoImplicit false

namespace SshTemplate
namespace Format

/-- Something to be shown: a text as it is, or a heading with parts between two brackets. -/
inductive Outline where
  | leaf (text : String)
  | node (heading : String) (opening closing : String) (parts : List (String × Outline))

namespace Outline

mutual

/-- The lines of an outline; `label` goes in front of the first and `ending` after the last. -/
def linesFrom (indent label ending : String) : Outline → List String
  | leaf text => [indent ++ label ++ text ++ ending]
  | node heading opening closing [] => [indent ++ label ++ heading ++ opening ++ closing ++ ending]
  | node heading opening closing (part :: parts) =>
    [indent ++ label ++ heading ++ opening] ++ partLines (indent ++ "    ") (part :: parts) ++
      [indent ++ closing ++ ending]

/-- The lines of parts, each with its label and a comma. -/
def partLines (indent : String) : List (String × Outline) → List String
  | [] => []
  | (label, part) :: rest => linesFrom indent label "," part ++ partLines indent rest

end

/-- The outline as text, with a final line end. -/
def text (outline : Outline) : String := String.join ((linesFrom "" "" "" outline).map (· ++ "\n"))

/-! ## Shapes -/

def quoted (s : String) : Outline := leaf (Text.quoted s)

def list (items : List Outline) : Outline := node "" "[" "]" (items.map (("", ·)))

def texts (items : List String) : Outline := list (items.map quoted)

/-- Bindings with their keys in quotes. -/
def dictionary (entries : List (String × Outline)) : Outline :=
  node "" "\x7b" "\x7d" (entries.map fun entry => (Text.quoted entry.1 ++ ": ", entry.2))

/-- Named fields after the name of their structure. -/
def record (name : String) (fields : List (String × Outline)) : Outline :=
  node (name ++ " ") "\x7b" "\x7d" (fields.map fun field => (field.1 ++ ": ", field.2))

/-! ## Documents -/

def ofLine (line : Line) : Outline :=
  record "Line" [("keyword", quoted line.keyword), ("args", texts line.args)]

def ofVariable (declared : TemplateVariable) : Outline :=
  record "TemplateVar" [("name", quoted declared.name), ("domain", texts declared.domain)]

def ofKind : SectionKind → Outline
  | .root => leaf "Root"
  | .bundle => leaf "HostAttrs"
  | .host declarations =>
    record "Host" [("template_vars", list (declarations.map ofVariable))]

def ofSection (s : Section) : Outline :=
  record "Section" [("name", quoted s.name), ("kind", ofKind s.kind),
    ("lines", list (s.lines.map ofLine)), ("bundle_refs", texts s.parents),
    ("identity_refs", texts s.identities)]

/-- The fields of a document's own contents. -/
def contentsFields (own : Contents) : List (String × Outline) :=
  [("locator", quoted own.locator),
    ("via_include", leaf (if own.included then "true" else "false")),
    ("root", ofSection own.root),
    ("pending_with", list (own.pending.map ofVariable)),
    ("variables", dictionary (own.bindings.entries.map fun entry => (entry.1, quoted entry.2))),
    ("sections", list (own.sections.map ofSection)),
    ("key_definitions", dictionary (own.keys.entries.map fun entry => (entry.1, texts entry.2)))]

mutual

def ofDocument : Document → Outline
  | ⟨own, includes⟩ =>
    record "Document" (contentsFields own ++ [("includes", list (ofIncludes includes))])

def ofIncludes : List Document → List Outline
  | [] => []
  | ⟨own, includes⟩ :: rest =>
    record "Include"
      [("locator", quoted own.locator), ("document", ofDocument ⟨own, includes⟩)] :: ofIncludes rest

end

end Outline
end Format
end SshTemplate
