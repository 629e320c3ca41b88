/-!
# `Shell.Word` — any text as one word of a shell command

`ProxyCommand` is run by a shell, and `IdentityFile` is split like one splits, so what is put there
from data is written as a single word. Text made of characters that no shell reads specially stays
as it is, and everything else goes between single quotes, where only the single quote itself is
special: each one closes the quotes, stands between double quotes, and opens them again.
-/

set_option autoImplicit false

namespace SshTemplate
namespace Shell

/-- Never special to a shell, anywhere in a word. -/
def isPlain (c : Char) : Bool := c.isAlphanum || "@%+=:,./-_".toList.contains c

/-- A character between single quotes. -/
def quoteChar (c : Char) : List Char := if c = '\'' then ['\'', '"', '\'', '"', '\''] else [c]

/-- The word that a shell reads as `value`. The empty word needs its quotes. -/
def quote (value : String) : String :=
  if value.isEmpty then "''"
  else if value.toList.all isPlain then value
  else String.ofList (['\''] ++ value.toList.flatMap quoteChar ++ ['\''])

end Shell
end SshTemplate
