import SshTemplate.Stanza
import SshTemplate.Text.Quoted

/-!
# `Format.Json` — stanzas as JSON

An array of objects `host`, `lines`, laid out with two blanks of indentation and without a final
line end. An empty array stays on one line.
-/

set_option autoImplicit false

namespace SshTemplate
namespace Format
namespace Json

/-- Four hexadecimal digits. -/
def hex4 (n : Nat) : List Char :=
  let digits := Text.hex n
  List.replicate (4 - digits.length) '0' ++ digits

/-- A character inside a JSON string: only controls, quotes and backslashes are escaped. -/
def escapeChar (c : Char) : List Char :=
  if c = '"' then ['\\', '"']
  else if c = '\\' then ['\\', '\\']
  else if c = '\x08' then ['\\', 'b']
  else if c = '\x0C' then ['\\', 'f']
  else if c = '\n' then ['\\', 'n']
  else if c = '\r' then ['\\', 'r']
  else if c = '\t' then ['\\', 't']
  else if c.toNat < 0x20 then ['\\', 'u'] ++ hex4 c.toNat
  else [c]

def string (s : String) : String :=
  String.ofList (['"'] ++ s.toList.flatMap escapeChar ++ ['"'])

/-- Items on lines of their own between brackets, `indent` being that of the closing one. -/
def array (indent : String) (items : List String) : String :=
  if items.isEmpty then "[]"
  else "[\n" ++ ",\n".intercalate (items.map (indent ++ "  " ++ ·)) ++ "\n" ++ indent ++ "]"

def stanza (s : Stanza) : String :=
  let host := match s.host with
    | some name => string name
    | none => "null"
  "\x7b\n    \"host\": " ++ host ++ ",\n    \"lines\": " ++
    array "    " (s.lines.map string) ++ "\n  \x7d"

def stanzas (items : List Stanza) : String := array "" (items.map stanza)

end Json
end Format
end SshTemplate
