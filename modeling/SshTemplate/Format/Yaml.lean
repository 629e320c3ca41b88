import SshTemplate.Stanza
import SshTemplate.Text.Utf8
import SshTemplate.Address.Percent

/-!
# `Format.Yaml` — stanzas as YAML

A sequence of mappings `host`, `lines`. All the difficulty is in the scalars: each is written in the
plainest style that reads back as the same text. A text that a YAML reader would take for something
else (`null`, a number, a truth value) goes between single quotes, as does one with blanks at its
ends or with characters that have a meaning in YAML; a text with characters that are not printable
goes between double quotes with escapes; a text with line ends becomes a literal block where that is
possible.

`ScalarKind` collects what the choice depends on in one pass, and `chooseStyle` makes it.
-/

set_option autoImplicit false

namespace SshTemplate
namespace Format
namespace Yaml

open Text

/-! ## Texts that look like other values -/

def isNullText (s : String) : Bool := ["", "~", "null", "Null", "NULL"].contains s

def isTruthText (s : String) : Bool :=
  ["true", "True", "TRUE", "false", "False", "FALSE"].contains s

/-- Drops one sign of either kind. -/
def dropSign : List Char → List Char
  | '+' :: rest | '-' :: rest => rest
  | s => s

def startsWithSign : List Char → Bool
  | '+' :: _ | '-' :: _ => true
  | _ => false

/-- A number with needless leading zeros. -/
def isZeroLed (s : List Char) : Bool :=
  match dropSign s with
  | '0' :: d :: rest => (d :: rest).all Char.isDigit
  | _ => false

/-- The value of digits in a base. -/
def digitsIn? (base : Nat) (digits : List Char) : Option Nat :=
  if digits.isEmpty then none
  else
    digits.foldlM (fun value c =>
      match Address.hexValue? c with
      | some d => if d < base then some (value * base + d) else none
      | none => none) 0

/-- The base of a number and its digits. -/
def cutBase : List Char → Nat × List Char
  | '0' :: 'x' :: digits => (16, digits)
  | '0' :: 'o' :: digits => (8, digits)
  | '0' :: 'b' :: digits => (2, digits)
  | digits => (10, digits)

/-- Whether the text is an integer of at most 128 bits, in any of the four bases. -/
def isInteger (s : List Char) : Bool :=
  let fits (bound : Nat) (value : Option Nat) : Bool := value.any (· ≤ bound)
  match s with
  | '-' :: rest =>
    let (base, digits) := cutBase rest
    (base = 10 && isZeroLed s).not && fits (1 <<< 127) (digitsIn? base digits)
  | _ =>
    let unsigned := match s with
      | '+' :: rest => rest
      | _ => s
    let (base, digits) := cutBase unsigned
    (base = 10 && isZeroLed s).not && fits (1 <<< 128 - 1) (digitsIn? base digits)

/-- Cuts an exponent off: the digits before it, and its value; none if it has no digits. -/
def cutExponent? (s : List Char) : Option (List Char × Int) :=
  let before := s.takeWhile fun c => c != 'e' && c != 'E'
  match s.drop before.length with
  | [] => some (before, 0)
  | _ :: exponent =>
    match digitsIn? 10 (dropSign exponent) with
    | some value => some (before, if exponent.head? = some '-' then -value else value)
    | none => none

/-- Whether digits times a power of ten round to a finite number of 64 bits. Powers that settle the
    matter by themselves are not computed. -/
def isFinite (digits : Nat) (exponent : Int) : Bool :=
  let places : Int := (Nat.toDigits 10 digits).length
  if digits = 0 || places + exponent ≤ 300 then true
  else if 400 < places + exponent then false
  else
    let bound := 1 <<< 1024 - 1 <<< 970
    if 0 ≤ exponent then digits * Nat.pow 10 exponent.toNat < bound
    else digits < bound * Nat.pow 10 (-exponent).toNat

/-- Whether the text is a decimal number that a 64-bit float can hold: digits, at most one point
    among or around them, and maybe an exponent. -/
def isDecimal (s : List Char) : Bool :=
  match cutExponent? s with
  | none => false
  | some (mantissa, exponent) =>
    let whole := mantissa.takeWhile Char.isDigit
    let rest := mantissa.drop whole.length
    let fraction := match rest with
      | '.' :: digits => digits
      | digits => digits
    let wellFormed := rest.isEmpty || rest.head? = some '.'
    match digitsIn? 10 (whole ++ fraction) with
    | some digits => wellFormed && isFinite digits (exponent - Int.ofNat fraction.length)
    | none => false

/-- Whether the text is a number with a point or exponent, infinite, or no number. -/
def isFloat (s : String) : Bool :=
  if [".inf", ".Inf", ".INF", "+.inf", "+.Inf", "+.INF", "-.inf", "-.Inf", "-.INF", ".nan", ".NaN",
      ".NAN"].contains s then true
  else if isZeroLed s.toList then false
  else
    match s.toList with
    | '+' :: rest => !startsWithSign rest && isDecimal rest
    | '-' :: rest => isDecimal rest
    | rest => isDecimal rest

/-- Whether a reader would take the plain text for something that is no text. -/
def isAmbiguous (s : String) : Bool :=
  isNullText s || isTruthText s || isInteger s.toList || isFloat s || isZeroLed s.toList

/-! ## What a text contains -/

def isBreak (c : Char) : Bool :=
  c == '\n' || c == '\r' || c == '\u0085' || c == '\u2028' || c == '\u2029'

/-- Blank, a line end, or the end of the text. -/
def isGap (c : Char) : Bool := c == ' ' || c == '\t' || c == '\x00' || isBreak c

def isPrintable (c : Char) : Bool :=
  let n := c.toNat
  n == 0x0A || (0x20 ≤ n && n ≤ 0x7E) || (0xA0 ≤ n && n != 0xFEFF && n != 0xFFFE && n != 0xFFFF)

/-- Whether the character, first in a text, would begin something else than a plain scalar. -/
def isOpeningIndicator (c : Char) (gapNext : Bool) : Bool :=
  "#,[]\x7b\x7d&*!|>'\"%@\x60".toList.contains c || ((c == '-' || c == '?' || c == ':') && gapNext)

/-- Whether the character, further on in a text, would end a plain scalar. -/
def isInnerIndicator (c : Char) (gapBefore gapNext : Bool) : Bool :=
  (c == ':' && gapNext) || (c == '#' && gapBefore)

/-- Whether some character after the first would end a plain scalar. -/
def hasInnerIndicator (before : Char) : List Char → Bool
  | [] => false
  | c :: rest =>
    isInnerIndicator c (isGap before) ((rest.head?.map isGap).getD true) || hasInnerIndicator c rest

/-- Whether the text begins like a marker between documents, or holds a character in a place where
    it means something. -/
def hasIndicator : List Char → Bool
  | [] => false
  | c :: rest =>
    "---".toList.isPrefixOf (c :: rest) || "...".toList.isPrefixOf (c :: rest) ||
      isOpeningIndicator c ((rest.head?.map isGap).getD true) || hasInnerIndicator c rest

/-- Whether a character of the class `p` is followed at once by one of the class `q`. -/
def hasPair (p q : Char → Bool) : List Char → Bool
  | a :: b :: rest => (p a && q b) || hasPair p q (b :: rest)
  | _ => false

/-- What the choice of a style depends on. -/
structure ScalarKind where
  indicator : Bool
  /-- Some character is not printable, or a blank comes before a line end. -/
  special : Bool
  lineEnd : Bool
  /-- A blank or line end is first or last. -/
  openEnds : Bool
  trailingBlank : Bool
  /-- A line begins with a blank. -/
  indented : Bool

def isSpace (c : Char) : Bool := c == ' '

def kindOf (s : List Char) : ScalarKind where
  indicator := hasIndicator s
  special := s.any (fun c => !isPrintable c) || hasPair isSpace isBreak s
  lineEnd := s.any isBreak
  openEnds := s.head?.any (fun c => isSpace c || isBreak c) ||
    s.getLast?.any (fun c => isSpace c || isBreak c)
  trailingBlank := s.getLast?.any isSpace
  indented := hasPair isBreak isSpace s

inductive Style where
  | plain
  | single
  | double
  | literal

/-- The style for a text. The empty text has quotes because nothing at all would be null. -/
def chooseStyle (s : String) : Style :=
  let kind := kindOf s.toList
  if s.toList.contains '\n' then
    -- A literal block shows its text as it is, so nothing in it may need an escape.
    if kind.special || kind.trailingBlank then .double else .literal
  else if kind.special || kind.indented then .double
  else if isAmbiguous s || kind.indicator || kind.openEnds || kind.lineEnd then .single
  else .plain

/-! ## Writing scalars -/

/-- How scalars go on after a line end: in front of the next character that is none. -/
def continuation : List Char := "    ".toList

/-- Writes the inside of single quotes, in which the single quote is doubled; `broken` says that a
    line end has just been written. -/
def singleBody (broken : Bool) : List Char → List Char
  | [] => if broken then continuation else []
  | c :: rest =>
    if isBreak c then c :: singleBody true rest
    else
      (if broken then continuation else []) ++ (if c = '\'' then ['\'', '\''] else [c]) ++
        singleBody false rest

/-- Hexadecimal digits, upper case, as many as asked for. -/
def hexUpper : Nat → Nat → List Char
  | 0, _ => []
  | width + 1, n => hexUpper width (n / 16) ++ [Address.hexDigit (n % 16)]

/-- A character between double quotes. -/
def escapeChar (c : Char) : List Char :=
  if isPrintable c && !isBreak c && c != '"' && c != '\\' then [c]
  else
    '\\' ::
      match c.toNat with
      | 0x00 => ['0']
      | 0x07 => ['a']
      | 0x08 => ['b']
      | 0x09 => ['t']
      | 0x0A => ['n']
      | 0x0B => ['v']
      | 0x0C => ['f']
      | 0x0D => ['r']
      | 0x1B => ['e']
      | 0x22 => ['"']
      | 0x5C => ['\\']
      | 0x85 => ['N']
      | 0xA0 => ['_']
      | 0x2028 => ['L']
      | 0x2029 => ['P']
      | n =>
        if n ≤ 0xFF then 'x' :: hexUpper 2 n
        else if n ≤ 0xFFFF then 'u' :: hexUpper 4 n
        else 'U' :: hexUpper 8 n

/-- Writes the lines of a literal block; `broken` says that a line end has just been written. -/
def literalBody (broken : Bool) : List Char → List Char
  | [] => []
  | c :: rest =>
    if isBreak c then c :: literalBody true rest
    else (if broken then continuation else []) ++ c :: literalBody false rest

/-- What stands between the bar of a literal block and its first line: the indentation, where the
    text's own blanks would hide it, and what becomes of line ends at the end. -/
def literalHints (s : List Char) : List Char :=
  let indentation := if s.head?.any (fun c => isSpace c || isBreak c) then ['2'] else []
  let ending :=
    match s.reverse with
    | last :: before =>
      if !isBreak last then ['-']
      else if before.head?.any isBreak || before.isEmpty then ['+']
      else []
    | [] => ['-']
  indentation ++ ending

def scalar (s : String) : String :=
  String.ofList <|
    match chooseStyle s with
    | .plain => s.toList
    | .single => ['\''] ++ singleBody false s.toList ++ ['\'']
    | .double => ['"'] ++ s.toList.flatMap escapeChar ++ ['"']
    | .literal => ['|'] ++ literalHints s.toList ++ ['\n'] ++ literalBody true s.toList

/-! ## Writing stanzas -/

def stanza (s : Stanza) : String :=
  let host := match s.host with
    | some name => scalar name
    | none => "null"
  "- host: " ++ host ++ "\n  lines:" ++
    if s.lines.isEmpty then " []\n"
    else "\n" ++ String.join (s.lines.map fun line => "  - " ++ scalar line ++ "\n")

def stanzas (items : List Stanza) : String :=
  if items.isEmpty then "[]\n" else String.join (items.map stanza)

end Yaml
end Format
end SshTemplate
