import SshTemplate.Address.Host
import SshTemplate.Address.Segments
import SshTemplate.Source

/-!
# `Address` — a reader of URLs

A reader that `Source.classify` can be run with. It goes by the URL Standard's parser as far as an
include needs it, and it expects the hosts of servers in the form that labels show: it maps no
character outside ASCII to another. What is said about sources is said of any reader.

Whether a text *is* an address decides what kind of source it names, so every way to fail matters
here as much as every way to succeed: a text with an invalid host or port is no address, and falls
back to being a path.

Three outcomes are kept, for the three things that can happen to an address: `https` ones are
written back in their normal form, `file` ones become paths, and of all others only the scheme is
reported. The parts that nobody asks for — the path of an `ssh:` address, say — are not kept.

Before anything else, controls and spaces are trimmed off both ends. Tabs and line ends do not count
wherever they stand.
-/

set_option autoImplicit false

namespace SshTemplate
namespace Address

open Text

/-! ## The scheme -/

def isSchemeChar (c : Char) : Bool := c.isAlphanum || c == '+' || c == '-' || c == '.'

/-- A letter, and then letters, digits and a few marks. -/
def isScheme : List Char → Bool
  | [] => false
  | first :: rest => first.isAlpha && rest.all isSchemeChar

/-- The scheme in lower case and what follows its colon. -/
def cutScheme? (text : List Char) : Option (List Char × List Char) :=
  match cutFirst? (· = ':') text with
  | some (written, rest) =>
    let scheme := kept written
    if isScheme scheme then some (scheme.map Char.toLower, rest) else none
  | none => none

/-- The schemes of which the Standard says more than of others, and the port that goes without
    saying. In their addresses a backslash is as good as a slash. -/
def defaultPort? (scheme : List Char) : Option Nat :=
  if scheme = "http".toList ∨ scheme = "ws".toList then some 80
  else if scheme = "https".toList ∨ scheme = "wss".toList then some 443
  else if scheme = "ftp".toList then some 21
  else none

/-! ## Authority: user information, host, port -/

/-- Whether the character ends an authority. -/
def endsAuthority (special : Bool) (c : Char) : Bool :=
  c == '/' || c == '?' || c == '#' || (special && c == '\\')

/-- User information as it is written before the `@`, which goes with it. Only the first colon
    separates a password; an empty password loses its colon, and if the name is empty as well
    nothing is written at all. -/
def userinfoText (text : List Char) : List Char :=
  let (user, password) := (cutFirst? (· = ':') text).getD (text, [])
  let written := encode userinfoSet user ++
    if password.isEmpty then [] else ':' :: encode userinfoSet password
  if written.isEmpty then [] else written ++ ['@']

/-- Cuts user information off the front of an authority: it reaches to the last `@`. After an `@`
    with nothing before it, the host must not be missing. -/
def cutUserinfo? (special : Bool) (text : List Char) : Option (List Char × List Char) :=
  let authority := text.takeWhile fun c => !endsAuthority special c
  match cutLast? (· = '@') authority with
  | none => some ([], text)
  | some (userinfo, host) =>
    let rest := host ++ text.drop authority.length
    -- Where the text ends with the `@`, reading the host decides.
    if userinfo.isEmpty && host.isEmpty && authority.length < text.length then none
    else some (userinfoText userinfo, rest)

/-- The text of a host, up to a colon outside brackets or the end of the authority. -/
def hostLength (special inBrackets : Bool) : List Char → Nat
  | [] => 0
  | c :: rest =>
    if endsAuthority special c || (c == ':' && !inBrackets) then 0
    else
      let inBrackets := if c = '[' then true else if c = ']' then false else inBrackets
      hostLength special inBrackets rest + 1

/-- Reads digits of a port up to the end of the authority; none of them is no port. -/
def readPort? (text : List Char) : Option (Option Nat × List Char) :=
  let digits := text.takeWhile Char.isDigit
  let rest := text.drop digits.length
  let ended :=
    match rest with
    | [] => true
    | c :: _ => endsAuthority true c
  match valueIn? 10 digits with
  | some value =>
    if ended && value ≤ 0xFFFF then some (if digits.isEmpty then none else some value, rest)
    else none
  | none => none

structure Authority where
  /-- Encoded, with its `@`. -/
  userinfo : List Char
  host : Host
  /-- None if it is the scheme's own. -/
  port : Option Nat

def Authority.text (authority : Authority) : List Char :=
  authority.userinfo ++ authority.host.text ++
    match authority.port with
    | some port => ':' :: Nat.toDigits 10 port
    | none => []

/-- Reads what follows two slashes. A scheme with a default port needs a host; without a host there
    is neither user information nor a port. -/
def readAuthority? (defaultPort : Option Nat) (text : List Char) :
    Option (Authority × List Char) := do
  let special := defaultPort.isSome
  let (userinfo, rest) ← cutUserinfo? special text
  let written := rest.take (hostLength special false rest)
  let rest := rest.drop written.length
  let host ← if special then readDomain? written else readOpaque? written
  let hostless := host = .name []
  match rest with
  | ':' :: digits =>
    -- A port without a host belongs to nothing.
    if hostless then none
    else
      let (port, rest) ← readPort? digits
      some (⟨userinfo, host, if port = defaultPort then none else port⟩, rest)
  | _ => if hostless && !userinfo.isEmpty then none else some (⟨userinfo, host, none⟩, rest)

/-! ## Addresses -/

/-- A query with its mark and a fragment with its own, encoded. -/
def suffixText (text : List Char) : List Char :=
  let (query, fragment) :=
    match cutFirst? (· = '#') text with
    | some (query, fragment) => (query, '#' :: encode fragmentSet fragment)
    | none => (text, [])
  let query :=
    match query with
    | '?' :: rest => '?' :: encode querySet rest
    | _ => []
  query ++ fragment

end Address

/-- An absolute address, as far as it is used. -/
inductive Address where
  /-- Under `https`, in normal form. -/
  | https (text : String)
  /-- Under `file`: whether it names another machine, and the encoded segments of its path. -/
  | file (remote : Bool) (segments : List (List Char))
  /-- Under any other scheme. -/
  | other (scheme : String)
  deriving DecidableEq

namespace Address

open Text

/-- The normal form of an `https` address, from what follows the scheme's colon. Any number of
    slashes may introduce the authority. -/
def readHttps? (rest : List Char) : Option Address := do
  let (authority, rest) ← readAuthority? (some 443) (rest.dropWhile isSlash)
  let (path, suffix) := cutPath rest
  let segments := normalSegments (splitAtSlashes (dropSlash path))
  some <| .https <| String.ofList <|
    "https://".toList ++ authority.text ++ segments.flatMap ('/' :: ·) ++ suffixText suffix

/-- A `file` address, from what follows the scheme's colon: after two slashes a host comes first,
    unless a drive stands in its place. A host before a drive is this machine. Where no host is
    named, or this machine by name, the slash that ends the host is an empty segment of the path,
    so that no drive comes first; in all other addresses it is dropped. -/
def readFile? (rest : List Char) : Option Address :=
  let address (remote : Bool) (path : List Char) : Address :=
    let path := LocalPath.ofSegments (splitAtSlashes (cutPath path).1)
    .file (remote && !path.drive) path.segments
  match cutSlash? rest with
  | none => some (address false rest)
  | some after =>
    match cutSlash? after with
    | none => some (address false after)
    | some after =>
      let written := after.takeWhile fun c => !isSlash c && c != '?' && c != '#'
      let host := kept written
      let path := after.drop written.length
      if isDrive host then some (address false after)
      else if host.isEmpty then some (address false path)
      else
        match readDomain? host with
        | none => none
        | some read =>
          if read = .name "localhost".toList then some (address false path)
          else some (address true (dropSlash path))

/-- Whether an address of a scheme without a default port is well formed: only two slashes can
    introduce something malformed. -/
def isOtherAddress (rest : List Char) : Bool :=
  match rest with
  | '/' :: '/' :: authority => (readAuthority? none authority).isSome
  | _ => true

/-- Reads a text as an absolute address. -/
def read? (text : String) : Option Address := do
  let trimmed := ((text.toList.dropWhile (· ≤ ' ')).reverse.dropWhile (· ≤ ' ')).reverse
  let (scheme, rest) ← cutScheme? trimmed
  if scheme = "https".toList then readHttps? (kept rest)
  else if scheme = "file".toList then readFile? rest
  else
    let rest := kept rest
    let wellFormed :=
      match defaultPort? scheme with
      | some port => (readAuthority? (some port) (rest.dropWhile isSlash)).isSome
      | none => isOtherAddress rest
    if wellFormed then some (.other (String.ofList scheme)) else none

/-- The bytes of the path on this machine that the segments of a `file` address denote. It ends in a
    slash when it ends in a drive, or in anything that looks like one. -/
def localPath (segments : List (List Char)) : List UInt8 :=
  let path := segments.flatMap fun segment => 0x2F :: decode segment
  let drive :=
    match path.reverse with
    | mark :: letter :: _ :: _ => isDrive [Char.ofNat letter.toNat, Char.ofNat mark.toNat]
    | _ => false
  if drive then path ++ [0x2F] else path

/-- What an address says that is written as `written`. Only `https` addresses are shown, so the others
    are not brought into normal form. -/
def url (written : String) : Address → Url
  | .https text => ⟨"https", text, none⟩
  | .file remote segments =>
    ⟨"file", written, if remote then none else some (localPath segments)⟩
  | .other scheme => ⟨scheme, written, none⟩

/-- The reader. -/
def reader : UrlReader := fun text => (read? text).map (url text)

end Address
end SshTemplate
