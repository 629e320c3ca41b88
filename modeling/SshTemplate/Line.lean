import SshTemplate.Order
import SshTemplate.Text.Blank
import SshTemplate.Issue

/-!
# `Line` — a keyword and its arguments

The unit of an ssh configuration, and of a template for one. Two written forms lead here and the
first `=` of the line decides between them, before any quote is looked at:

* `Keyword = value` has exactly one argument, whatever stands in it, blanks and quotes included;
* `Keyword a "b c" d` has the arguments its grammar finds, possibly none.

So the number of arguments is not only data: a line with exactly one argument is one that the first
form can write back whatever the argument is, and every other line has arguments that the second
form produced — non-empty, without `"` and without `=`. `Stanza.writeLine` chooses the form by the
same count.
-/

set_option autoImplicit false

namespace SshTemplate

open Text

structure Line where
  keyword : String
  args : List String
  deriving DecidableEq

namespace Line

/-! ## Arguments -/

/-- A finished argument; an empty one is none at all, so `""` passes nothing. `word` holds its
    characters, the last one first. -/
def finished (word : List Char) : List String :=
  if word.isEmpty then [] else [String.ofList word.reverse]

/-- Reads arguments from the middle of one: `inQuote` says whether a quote is open, `word` holds
    what has been read of the argument, the last character first.

    A quote opens only where no bare word is being read, and closing it ends the argument; what
    follows at once is the next one. -/
def readArguments (inQuote : Bool) (word : List Char) : List Char → Except Issue (List String)
  | [] => if inQuote then .error .unterminatedQuote else .ok (finished word)
  | c :: rest =>
    if inQuote then
      if c = '"' then (finished word ++ ·) <$> readArguments false [] rest
      else readArguments true (c :: word) rest
    else if c = '"' then
      if word.isEmpty then readArguments true [] rest else .error .quoteWithinArgument
    else if isBlank c then (finished word ++ ·) <$> readArguments false [] rest
    else readArguments false (c :: word) rest

/-! ## Lines -/

/-- Whether a raw line carries no directive: it is blank, or a comment. -/
def isRemark (raw : String) : Bool :=
  match trim raw.toList with
  | [] => true
  | c :: _ => c = '#'

/-- Reads a raw line. -/
def read (raw : String) : Except Issue Line :=
  let line := trim raw.toList
  match cutFirst? (· = '=') line with
  | some (keyword, value) =>
    .ok ⟨String.ofList (trimEnd keyword), [String.ofList (trimStart value)]⟩
  | none =>
    let (keyword, arguments) := (cutFirst? isBlank line).getD (line, [])
    (⟨String.ofList keyword, ·⟩) <$> readArguments false [] (trim arguments)

/-! ## Order -/

/-- Lines are ordered by keyword, then by arguments, both character by character. -/
def le (a b : Line) : Bool :=
  a.keyword < b.keyword ||
    (a.keyword == b.keyword && Order.lexicographic (fun x y => decide (x < y)) a.args b.args)

end Line
end SshTemplate
