import SshTemplate.Address.Label
import SshTemplate.Address.Percent
import SshTemplate.Text.Blank

/-!
# `Address.Host` — the host of an address

A host is an IPv4 address, an IPv6 address or a name, and each has one written form: `0x7f.1`
becomes `127.0.0.1`, runs of zeros in an IPv6 address are shortened, names are lower case. What
counts is also when a text is *no* host, because an address without a valid host is no address at
all and its text is taken for a path.

The hosts of addresses with a scheme that servers are asked under (`readDomain?`) are decoded and
normalised; those of other schemes (`readOpaque?`) are only checked.
-/

set_option autoImplicit false

namespace SshTemplate
namespace Address

open Text

inductive Host where
  | name (text : List Char)
  | ipv4 (value : Nat)
  /-- Eight groups of sixteen bits. -/
  | ipv6 (groups : List Nat)
  deriving DecidableEq

/-! ## IPv4 -/

/-- The value of digits in the base; none unless all of them are digits of it. -/
def valueIn? (base : Nat) (digits : List Char) : Option Nat :=
  digits.foldlM (fun value c =>
    match hexValue? c with
    | some d => if d < base then some (value * base + d) else none
    | none => none) 0

/-- One number of an IPv4 address: hexadecimal after `0x`, octal after `0`, decimal otherwise. No
    digits after a leading zero are the number zero. -/
def ipv4Number? : List Char → Option Nat
  | [] => none
  | '0' :: 'x' :: digits | '0' :: 'X' :: digits => valueIn? 16 digits
  | '0' :: d :: digits => valueIn? 8 (d :: digits)
  | digits => valueIn? 10 digits

/-- The labels of a name, without the empty one after a final dot. -/
def labels (name : List Char) : List (List Char) :=
  match (splitOn '.' name).reverse with
  | [] :: more => if more.isEmpty then [[]] else more.reverse
  | all => all.reverse

/-- Whether the last label is a number: then the name is an IPv4 address or invalid. -/
def endsInNumber (name : List Char) : Bool :=
  match (labels name).getLast? with
  | none => false
  | some last => (!last.isEmpty && last.all Char.isDigit) || (ipv4Number? last).isSome

/-- How many values `n` bytes have. -/
def bytesBound (n : Nat) : Nat := 1 <<< (8 * n)

/-- Up to four numbers; all but the last are one byte, the last one fills what is left. -/
def readIpv4? (name : List Char) : Option Host := do
  let numbers ← (labels name).mapM ipv4Number?
  match numbers.reverse with
  | [] => none
  | last :: before =>
    let filled := bytesBound (5 - numbers.length)
    if numbers.length ≤ 4 ∧ before.all (· ≤ 255) ∧ last < filled then
      let high := before.reverse.foldl (fun value byte => value * 256 + byte) 0
      some (.ipv4 (high * filled + last))
    else none

/-! ## IPv6 -/

/-- One to four hexadecimal digits. -/
def ipv6Group? (digits : List Char) : Option Nat :=
  if digits.isEmpty || 4 < digits.length then none else valueIn? 16 digits

/-- A decimal number up to 255 without leading zeros. -/
def ipv6Byte? (digits : List Char) : Option Nat :=
  match digits with
  | [] => none
  | '0' :: _ :: _ => none
  | _ =>
    match valueIn? 10 digits with
    | some value => if value ≤ 255 then some value else none
    | none => none

/-- The two groups that four decimal numbers denote. -/
def ipv6Dotted? (text : List Char) : Option (List Nat) :=
  match (splitOn '.' text).mapM ipv6Byte? with
  | some [a, b, c, d] => some [a * 256 + b, c * 256 + d]
  | _ => none

/-- Groups between colons. The last one may be written in dotted form where `final` allows it. -/
def ipv6Groups? (final : Bool) : List (List Char) → Option (List Nat)
  | [] => some []
  | [last] =>
    if final && last.contains '.' then ipv6Dotted? last
    else (ipv6Group? last).map fun group => [group]
  | group :: rest => do
    let value ← ipv6Group? group
    let values ← ipv6Groups? final rest
    pure (value :: values)

/-- The text before and after the first pair of colons. -/
def cutAtPair? : List Char → Option (List Char × List Char)
  | [] => none
  | ':' :: ':' :: rest => some ([], rest)
  | c :: rest => (cutAtPair? rest).map fun cut => (c :: cut.1, cut.2)

/-- Groups of a part that may be empty. -/
def ipv6Part? (final : Bool) (text : List Char) : Option (List Nat) :=
  if text.isEmpty then some [] else ipv6Groups? final (splitOn ':' text)

/-- Eight groups, or fewer with one pair of colons that stands for the missing zeros, of which
    there is at least one. -/
def readIpv6? (text : List Char) : Option Host :=
  match cutAtPair? text with
  | none => do
    let groups ← ipv6Groups? true (splitOn ':' text)
    if groups.length = 8 then some (.ipv6 groups) else none
  | some (before, after) => do
    let high ← ipv6Part? false before
    let low ← ipv6Part? true after
    -- The pair of colons has to stand for something.
    let written := high.length + low.length
    if written ≤ 7 then some (.ipv6 (high ++ List.replicate (8 - written) 0 ++ low)) else none

/-! ## Names -/

/-- ASCII characters that no name holds, after decoding: controls, the blank and what delimits the
    parts of an address. -/
def isForbidden (c : Char) : Bool :=
  c.toNat ≤ 0x20 || c.toNat == 0x7F || "%#/:<>?@[\\]^|".toList.contains c

/-- A text in square brackets. -/
def bracketed? : List Char → Option (List Char)
  | '[' :: rest =>
    match rest.reverse with
    | ']' :: inner => some inner.reverse
    | _ => none
  | _ => none

/-- Reads the host of an address that a server is asked under: an IPv6 address in brackets, or a
    name that is decoded first and is an IPv4 address if it ends in a number. Capitals are ASCII
    capitals: a character outside ASCII is expected as labels show it. -/
def readDomain? (text : List Char) : Option Host :=
  if text.head? = some '[' then bracketed? text >>= readIpv6?
  else do
    let decoded ← String.fromUTF8? ⟨(decode text).toArray⟩
    let name := composed (decoded.toList.map Char.toLower)
    if name.isEmpty || name.any isForbidden || !isName name then none
    else if endsInNumber name then readIpv4? name
    else some (.name name)

/-- Characters that no host of another scheme holds. -/
def isForbiddenOpaque (c : Char) : Bool :=
  "\x00\t\n\r #/:<>?@[\\]^|".toList.contains c

/-- Checks the host of an address with another scheme; it may be empty. -/
def readOpaque? (text : List Char) : Option Host :=
  if text.head? = some '[' then bracketed? text >>= readIpv6?
  else if text.any isForbiddenOpaque then none
  else some (.name text)

/-! ## Writing -/

def ipv4Text (value : Nat) : List Char :=
  ['.'].intercalate <|
    [3, 2, 1, 0].map fun place => Nat.toDigits 10 (value / bytesBound place % 256)

/-- The length of the run of zeros at the front. -/
def zerosAhead (groups : List Nat) : Nat := (groups.takeWhile (· == 0)).length

/-- Where the longest run of zeros begins, and its length; of equally long ones the first. -/
def longestZeros : List Nat → Nat × Nat
  | [] => (0, 0)
  | group :: rest =>
    let (start, length) := longestZeros rest
    let here := zerosAhead (group :: rest)
    if length ≤ here then (0, here) else (start + 1, length)

def groupsText (groups : List Nat) : List Char :=
  [':'].intercalate (groups.map (Nat.toDigits 16))

/-- The longest run of at least two zero groups is left out. -/
def ipv6Text (groups : List Nat) : List Char :=
  let (start, length) := longestZeros groups
  let inner :=
    if length < 2 then groupsText groups
    else groupsText (groups.take start) ++ [':', ':'] ++ groupsText (groups.drop (start + length))
  ['['] ++ inner ++ [']']

def Host.text : Host → List Char
  | name text => text
  | ipv4 value => ipv4Text value
  | ipv6 groups => ipv6Text groups

end Address
end SshTemplate
