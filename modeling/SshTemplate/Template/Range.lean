import SshTemplate.Text.Numeral
import SshTemplate.Issue

/-!
# `Template.Range` — the values of a domain token

A domain token is a literal, or an inclusive range of integers in braces: `{A..B}` counts by one,
`{A..B/C}` by `C`. Reading a range and listing it are kept apart. `Range.read` decides whether the
token is one — and in which of two ways it fails — and the values are then a matter of arithmetic on
`Range` alone: `start + k * step` for `k` below `count`.

The bounds may be written with surrounding blanks and still count towards the *written* width of a
bound, which is what decides on zero-padding: both bounds take as many bytes as each other.
-/

set_option autoImplicit false

namespace SshTemplate
namespace Template

open Text

/-- The most values a single token may have. -/
def valueLimit : Nat := 1000000

/-- `start`, `start + step`, … up to `stop`, each filled up to `width` where there is one. -/
structure Range where
  start : Int
  stop : Int
  step : Int
  width : Option Nat
  step_pos : 1 ≤ step

namespace Range

/-- How many values there are; none if the range runs backwards. -/
def count (range : Range) : Nat :=
  if range.start ≤ range.stop then ((range.stop - range.start) / range.step + 1).toNat else 0

def values (range : Range) : List Int :=
  (List.range range.count).map fun k => range.start + Int.ofNat k * range.step

/-- How a value of the range is written. -/
def written (range : Range) (value : Int) : String :=
  String.ofList <|
    match range.width with
    | some width => zeroPadded width value
    | none => decimal value

/-! ## Reading -/

/-- What stands between an opening and a separate closing brace. -/
def braced? : List Char → Option (List Char)
  | '{' :: rest =>
    match rest.reverse with
    | '}' :: inner => some inner.reverse
    | _ => none
  | _ => none

/-- The parts between the pairs of dots, pairs taken from the left. -/
def splitAtDots : List Char → List (List Char)
  | [] => [[]]
  | '.' :: '.' :: rest => [] :: splitAtDots rest
  | c :: rest =>
    match splitAtDots rest with
    | [] => [[c]]
    | part :: parts => (c :: part) :: parts

/-- Reads the inside of the braces. The step is looked at first, then the number of bounds, then
    the bounds from left to right, then the number of values; `token` is the whole token, for the
    message. -/
def read (token : String) (inner : List Char) : Except Issue Range :=
  let integer (text : List Char) : Except Issue Int :=
    match readInteger? (trim text) with
    | some value => .ok value
    | none => .error (.rangeNotInteger token)
  let (bounds, step) :=
    match cutLast? (· = '/') inner with
    | some (bounds, text) => (bounds, integer text)
    | none => (inner, .ok 1)
  match step with
  | .error issue => .error issue
  | .ok step =>
    if step_pos : 1 ≤ step then
      match splitAtDots bounds with
      | [low, high] => do
        let start ← integer low
        let stop ← integer high
        let width := if byteLength low = byteLength high then some (byteLength high) else none
        let range : Range := ⟨start, stop, step, width, step_pos⟩
        if valueLimit < range.count then .error (.rangeFormat token) else .ok range
      | _ => .error (.rangeFormat token)
    else .error (.rangeFormat token)

end Range

/-! ## Tokens and domains -/

/-- The values of one token: a token that is not in braces stands for itself. -/
def tokenValues (token : String) : Except Issue (List String) :=
  match Range.braced? token.toList with
  | none => .ok [token]
  | some inner => do
    let range ← Range.read token inner
    pure (range.values.map range.written)

/-- The values of all tokens, in order; the first token that is malformed decides the issue. -/
def domainValues (tokens : List String) : Except Issue (List String) :=
  List.flatten <$> tokens.mapM tokenValues

end Template
end SshTemplate
