import SshTemplate.Order
import SshTemplate.Text.Blank

/-!
# `Path` — paths as texts, compared by their components

A path is shown exactly as it was given, so it stays a text and is never normalised. Two questions
look through the spelling: in which order paths are listed, and whether two of them are the same
file name. Both are asked of the components — `/k/a` comes before `/k-a`, and `b//c`, `b/c`,
`b/./c` and `b/c/` are one — so equality here is equality of component lists, and the order is
lexicographic on them.
-/

set_option autoImplicit false

namespace SshTemplate
namespace Path

open Text

inductive Component where
  /-- The leading slash. -/
  | root
  /-- A leading `.`; any other one says nothing and is no component. -/
  | current
  | parent
  | name (text : String)
  deriving DecidableEq

namespace Component

/-- The kinds of components in their order. -/
def rank : Component → Nat
  | root => 0
  | current => 1
  | parent => 2
  | name _ => 3

def lt : Component → Component → Bool
  | name a, name b => a < b
  | a, b => a.rank < b.rank

end Component

/-- A piece between slashes, after the first one of the path. -/
def laterComponent? : List Char → Option Component
  | [] => none
  | ['.'] => none
  | ['.', '.'] => some .parent
  | piece => some (.name (String.ofList piece))

/-- What a path names, step by step. -/
def components (path : String) : List Component :=
  match splitOn '/' path.toList with
  | [] => []
  | first :: rest =>
    let start : List Component :=
      match first with
      | [] => if path.isEmpty then [] else [.root]
      | ['.'] => [.current]
      | piece => (laterComponent? piece).toList
    start ++ rest.filterMap laterComponent?

/-- The order in which paths are listed. -/
def le (a b : String) : Bool := Order.lexicographic Component.lt (components a) (components b)

/-- Whether two spellings name the same path. -/
def same (a b : String) : Bool := components a == components b

/-! ## Joining and cutting -/

def isAbsolute (path : String) : Bool := path.toList.head? = some '/'

/-- Goes on from `base` along `rest`; an absolute `rest` starts over. -/
def join (base rest : String) : String :=
  if isAbsolute rest || base.isEmpty then rest
  else if base.toList.getLast? = some '/' then base ++ rest
  else base ++ "/" ++ rest

/-- Drops slashes and `.` pieces from the front of what follows a component. -/
def skipEmptyPieces : List (List Char) → List (List Char)
  | [] => []
  | piece :: rest => if (laterComponent? piece).isSome then piece :: rest else skipEmptyPieces rest

/-- Drops pieces that are no components from the end. -/
def trimPieces (pieces : List (List Char)) : List (List Char) :=
  (skipEmptyPieces pieces.reverse).reverse

/-- The pieces left after the first `n` pieces that are components. -/
def dropComponents : Nat → List (List Char) → List (List Char)
  | 0, pieces => skipEmptyPieces pieces
  | _ + 1, [] => []
  | n + 1, piece :: rest =>
    if (laterComponent? piece).isSome then dropComponents n rest else dropComponents (n + 1) rest

/-- How a path below `base` is shown beside it: without the components of `base`. A path that is
    not below `base` is shown whole; below the empty path everything is, shown without what follows
    its last component. -/
def relativeTo (base path : String) : String :=
  let here := components path
  let there := components base
  if there.isPrefixOf here then
    let pieces := splitOn '/' path.toList
    let rest :=
      match there with
      | [] => if isAbsolute path && here.length = 1 then [[], []] else
          match pieces with
          | first :: more => first :: trimPieces more
          | [] => []
      | .root :: more => trimPieces (dropComponents more.length (pieces.drop 1))
      | .current :: more => trimPieces (dropComponents more.length (pieces.drop 1))
      | more => trimPieces (dropComponents more.length pieces)
    String.ofList (['/'].intercalate rest)
  else path

/-- The directory of a path: everything before its last component, without trailing slashes. -/
def parent? (path : String) : Option String :=
  match components path, splitOn '/' path.toList with
  | [], _ | [.root], _ | _, [] => none
  | _, first :: rest =>
    match (trimPieces rest).reverse with
    | [] => some ""
    | _ :: before =>
      let base := String.ofList (['/'].intercalate (first :: trimPieces before.reverse))
      some (if base.isEmpty && isAbsolute path then "/" else base)

/-- The last component, if it is a name. -/
def fileName? (path : String) : Option String :=
  match (components path).getLast? with
  | some (.name text) => some text
  | _ => none

end Path
end SshTemplate
