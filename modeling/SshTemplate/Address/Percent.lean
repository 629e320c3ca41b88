import SshTemplate.Text.Utf8

/-!
# `Address.Percent` — percent-encoding

Each part of an address has its own set of bytes that may not stand in it. The sets are nested in
the way the URL Standard nests them, and every one of them contains the controls and all bytes
outside ASCII, so an encoded part is always printable ASCII. Encoding leaves `%` alone: a sequence
that is already encoded stays as it was written.
-/

set_option autoImplicit false

namespace SshTemplate
namespace Address

open Text

/-! ## The sets -/

/-- Bytes to be encoded everywhere. -/
def isControl (b : Nat) : Bool := b < 0x20 || 0x7F ≤ b

def inSet (more : String) (b : Nat) : Bool :=
  isControl b || more.toList.any fun c => c.toNat == b

def fragmentSet : Nat → Bool := inSet " \"<>\x60"

def querySet : Nat → Bool := inSet " \"#<>'"

def pathSet : Nat → Bool := inSet " \"<>\x60#?\x7b\x7d"

def userinfoSet : Nat → Bool := inSet " \"<>\x60#?\x7b\x7d/:;=@[\\]^|"

/-! ## Encoding and decoding -/

/-- A hexadecimal digit, upper case. -/
def hexDigit (n : Nat) : Char := if n < 10 then Char.ofNat (0x30 + n) else Char.ofNat (0x37 + n)

def encodeByte (b : Nat) : List Char := ['%', hexDigit (b / 16), hexDigit (b % 16)]

/-- Writes every byte of `text` that is in the set as `%` and two digits. -/
def encode (set : Nat → Bool) (text : List Char) : List Char :=
  (utf8 text).flatMap fun b => if set b.toNat then encodeByte b.toNat else [Char.ofNat b.toNat]

def hexValue? (c : Char) : Option Nat :=
  let n := c.toNat
  if 0x30 ≤ n ∧ n ≤ 0x39 then some (n - 0x30)
  else if 0x41 ≤ n ∧ n ≤ 0x46 then some (n - 0x37)
  else if 0x61 ≤ n ∧ n ≤ 0x66 then some (n - 0x57)
  else none

/-- The byte that two hexadecimal digits denote. -/
def hexPair? (high low : Char) : Option UInt8 :=
  match hexValue? high, hexValue? low with
  | some h, some l => some (UInt8.ofNat (h * 16 + l))
  | _, _ => none

/-- The bytes of a text in which `%` and two digits denote a byte. A `%` that is not followed by
    two digits denotes itself. -/
def decode : List Char → List UInt8
  | [] => []
  | '%' :: high :: low :: rest =>
    match hexPair? high low with
    | some byte => byte :: decode rest
    | none => 0x25 :: decode (high :: low :: rest)
  | c :: rest => String.utf8EncodeChar c ++ decode rest

end Address
end SshTemplate
