import SshTemplate.Template.Combinations
import SshTemplate.Template.Substitution
import SshTemplate.Stanza

/-!
# `Template.Expansion` — one host, many stanzas

The lines of a host are collected and rendered once, spans and all, into a `HostTemplate`. Each
combination of its template variables then gives one stanza, on its own: no binding outlives its
combination, and a span that is unbound in one of them is an issue of that stanza alone.
-/

set_option autoImplicit false

namespace SshTemplate
namespace Template

/-- A host before substitution: its name and its rendered lines. -/
structure HostTemplate where
  host : String
  lines : List String
  deriving DecidableEq

/-- The value of a name: the first template variable of that name decides, and only if there is
    none the document's variables are asked. -/
def bound (combination : Combination) (bindings : Variables) (name : String) : Option String :=
  match combination.find? fun binding => binding.1 = name with
  | some (_, value) => some value
  | none => bindings.get? name

/-- The stanza for one set of bindings; the name is substituted before the lines. -/
def HostTemplate.instantiate (template : HostTemplate) (lookup : String → Option String) :
    Except Issue Stanza := do
  let host ← substitute lookup template.host
  let lines ← template.lines.mapM (substitute lookup)
  pure ⟨some host, headerOf host :: lines⟩

/-- One stanza, or one issue, per combination, in the order of the combinations. -/
def HostTemplate.expand (template : HostTemplate) (combinations : Combinations)
    (bindings : Variables) : List (Except Issue Stanza) :=
  combinations.toList.map fun combination => template.instantiate (bound combination bindings)

end Template
end SshTemplate
