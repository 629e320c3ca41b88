/-!
# `Text.Ranges` — sets of characters as data

Classes of characters that the Unicode Standard gives by enumeration are tables in this library:
`Text.Glyph` has one, and the labels of a domain name need several. They all have this shape and
are asked by the same function.
-/

set_option autoImplicit false

namespace SshTemplate
namespace Text

/-- A set of code points: ranges, ends included, ascending and apart. -/
abbrev Ranges := List (Nat × Nat)

/-- Whether the character is in the set. What begins behind it need not be looked at. -/
def Ranges.contains (c : Char) : Ranges → Bool
  | [] => false
  | (low, high) :: rest => low ≤ c.toNat && (c.toNat ≤ high || Ranges.contains c rest)

end Text
end SshTemplate
