import SshTemplate.Text.Glyph

/-!
# `Text.Quoted` — text in quotes, with escapes

Messages and the structure dump show arbitrary text between double quotes. The written form never
spans lines and never shows a character without a glyph: those are written by number.
-/

set_option autoImplicit false

namespace SshTemplate
namespace Text

/-- The digits of a number in base sixteen, lower case, without leading zeros. -/
def hex (n : Nat) : List Char := Nat.toDigits 16 n

/-- One character of a quoted text. A single quote needs no escape between double quotes. -/
def escapeChar (c : Char) : List Char :=
  if c = '\x00' then ['\\', '0']
  else if c = '\t' then ['\\', 't']
  else if c = '\r' then ['\\', 'r']
  else if c = '\n' then ['\\', 'n']
  else if c = '"' then ['\\', '"']
  else if c = '\\' then ['\\', '\\']
  else if hasGlyph c then [c]
  else ['\\', 'u', '{'] ++ hex c.toNat ++ ['}']

def quoted (s : String) : String :=
  String.ofList (['"'] ++ s.toList.flatMap escapeChar ++ ['"'])

/-- Quoted texts between brackets, on one line. -/
def quotedList (items : List String) : String :=
  "[" ++ ", ".intercalate (items.map quoted) ++ "]"

end Text
end SshTemplate
