import SshTemplate.Line

/-!
# `Stanza` — blocks of a written configuration

The output is a list of stanzas: one with the global lines, then one per host. A stanza keeps the
host's name beside its lines although the first line shows it, because names are compared and
listed while lines are only written.
-/

set_option autoImplicit false

namespace SshTemplate

/-- Indentation of the lines of a host. -/
def indentation : String := "    "

/-- Writes one line. A single argument is written after an equals sign, so that it can hold
    anything; any other number of arguments is written with blanks between them and without quotes,
    so none of them may hold one. -/
def writeLine (indent : String) (line : Line) : Except Unwritable String :=
  match line.args with
  | [arg] => .ok (indent ++ line.keyword ++ " = " ++ arg)
  | args =>
    match args.find? fun arg => arg.toList.contains '"' with
    | some arg => .error (.quoteInArgument line.keyword arg)
    | none => .ok (indent ++ line.keyword ++ String.join (args.map (" " ++ ·)))

/-- The first line of a host's stanza. -/
def headerOf (host : String) : String := "Host = " ++ host

structure Stanza where
  /-- The host's name; none for the global lines. -/
  host : Option String
  lines : List String
  deriving DecidableEq

namespace Stanza

/-- The configuration text: stanzas that have lines, with an empty line between them. -/
def textOf (stanzas : List Stanza) : String :=
  let written := (stanzas.filter fun stanza => !stanza.lines.isEmpty).map fun stanza =>
    String.join (stanza.lines.map (· ++ "\n"))
  "\n".intercalate written

end Stanza
end SshTemplate
