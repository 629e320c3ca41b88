import SshTemplate.Address.Percent
import SshTemplate.Text.Blank

/-!
# `Address.Segments` — the path of an address

A path is a list of segments, and it is built from the left: an ordinary segment goes to the end, a
dot stays where it is, and two dots take back the segment before them. What has been built is kept
last segment first, so that all three are one step.

A path on this machine (`LocalPath`) may begin with a drive. As its first segment a drive is
written with a colon, and it settles that the path is a local one, whatever host stands before it.
Only the first segment is read this way: `C:x` is an ordinary segment, and so is a drive further on.
-/

set_option autoImplicit false

namespace SshTemplate
namespace Address

open Text

/-! ## Characters that do not count -/

/-- Tabs and line ends are left out of an address wherever they stand. -/
def isIgnored (c : Char) : Bool := c == '\t' || c == '\n' || c == '\r'

/-- A text without its ignored characters. -/
def kept (text : List Char) : List Char := text.filter fun c => !isIgnored c

/-! ## Segments -/

def isSlash (c : Char) : Bool := c == '/' || c == '\\'

/-- Whether the segment is `.`, also as `%2e`. -/
def isDot (segment : List Char) : Bool :=
  [".", "%2e", "%2E"].any fun dot => dot.toList == segment

/-- Whether the segment is `..`, with either dot possibly as `%2e`. -/
def isDotDot (segment : List Char) : Bool :=
  ["..", "%2e.", "%2E.", ".%2e", ".%2E", "%2e%2e", "%2e%2E", "%2E%2e", "%2E%2E"].any
    fun dots => dots.toList == segment

/-- A letter and a colon or bar: a drive, which `..` does not leave. -/
def isDrive : List Char → Bool
  | [letter, mark] => letter.isAlpha && (mark == ':' || mark == '|')
  | _ => false

/-- Adds a segment to those before it, which come last one first. -/
def addSegment (before : List (List Char)) (segment : List Char) : List (List Char) :=
  if isDotDot segment then
    match before with
    | [] => []
    | last :: earlier => if isDrive last then before else earlier
  else if isDot segment then before
  else encode pathSet segment :: before

/-- Whether the last segment is a dot or two: then the path ends in a slash, that is, in an empty
    segment. -/
def endsInDots (segments : List (List Char)) : Bool :=
  let last := kept (segments.getLast?.getD [])
  isDot last || isDotDot last

/-- The segments of a path, in order. -/
def normalSegments (segments : List (List Char)) : List (List Char) :=
  let before := segments.foldl addSegment []
  (if endsInDots segments then [] :: before else before).reverse

/-- The pieces between slashes of either kind. -/
def splitAtSlashes (text : List Char) : List (List Char) :=
  splitOn '/' (text.map fun c => if c = '\\' then '/' else c)

/-- The text of a path and what follows it. -/
def cutPath (text : List Char) : List Char × List Char :=
  let path := text.takeWhile fun c => c != '?' && c != '#'
  (path, text.drop path.length)

/-- What follows a slash at the front. -/
def cutSlash? (text : List Char) : Option (List Char) :=
  match text.dropWhile isIgnored with
  | c :: rest => if isSlash c then some rest else none
  | [] => none

/-- Drops one slash from the front. -/
def dropSlash (text : List Char) : List Char := (cutSlash? text).getD text

/-! ## Paths on this machine -/

/-- A path on this machine as far as it has been read. -/
structure LocalPath where
  /-- The segments, the last one first. -/
  before : List (List Char)
  /-- Whether a drive leads them. -/
  drive : Bool

/-- A drive with its colon and the rest of its segment, if ignored characters stand between them.
    The drive ends there, and the rest is a segment of its own, taken as it is. -/
def cutDrive? (written : List Char) : Option (List Char × List Char) :=
  match written.dropWhile isIgnored with
  | letter :: afterLetter =>
    match afterLetter.dropWhile isIgnored with
    | ':' :: c :: rest =>
      if letter.isAlpha && isIgnored c && !(kept rest).isEmpty then some ([letter, ':'], kept rest)
      else none
    | _ => none
  | [] => none

/-- Adds a segment, as it is written. -/
def LocalPath.add (path : LocalPath) (written : List Char) : LocalPath :=
  let segment := kept written
  match path.before, cutDrive? written with
  | [], some (drive, rest) => { path with before := [encode pathSet rest, drive] }
  | [], none =>
    if isDrive segment then ⟨[segment.take 1 ++ [':']], true⟩
    else { path with before := addSegment [] segment }
  | before, _ => { path with before := addSegment before segment }

/-- Reads the path from its segments. -/
def LocalPath.ofSegments (segments : List (List Char)) : LocalPath :=
  let path := segments.foldl LocalPath.add ⟨[], false⟩
  if endsInDots segments then { path with before := [] :: path.before } else path

/-- The segments in order, without empty ones at the front; one is always left. -/
def LocalPath.segments (path : LocalPath) : List (List Char) :=
  let kept := path.before.reverse.dropWhile List.isEmpty
  if kept.isEmpty then [[]] else kept

end Address
end SshTemplate
