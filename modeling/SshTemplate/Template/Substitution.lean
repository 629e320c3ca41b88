import SshTemplate.Issue
import SshTemplate.Text.Blank
import SshTemplate.Dictionary

/-!
# `Template.Substitution` — spans, and what replaces them

A text is read once into pieces: spans `<name>` and single characters. Written one after the other
the pieces are the text again (`written_pieces`). Replacing is then a map over the pieces, so it
cannot see a value it has written — a value that holds `<other>` stays as it is — and what is copied
is exactly what is no span. Both ways to substitute are that one map and differ in what an unbound
span becomes: an issue where the text has to be complete, itself where the rest is bound later.

A span's name is one or more characters that are neither blank nor an angle bracket. So a stray `<`
opens nothing and does not hide a span that starts after it.
-/

set_option autoImplicit false

namespace SshTemplate
namespace Template

open Text

/-- Variables of a document, and their values. -/
abbrev Variables := Dictionary String String

/-! ## Pieces -/

inductive Piece where
  /-- A character that is no part of a span. -/
  | char (c : Char)
  /-- `<name>`. -/
  | span (name : List Char)
  deriving DecidableEq

/-- What the piece is written as. -/
def Piece.written : Piece → List Char
  | char c => [c]
  | span name => '<' :: name ++ ['>']

def isNameChar (c : Char) : Bool := c != '<' && c != '>' && !isBlank c

/-- The pieces of what looked like the beginning of a span; its characters come last one first. -/
def abandoned (name : List Char) : List Piece := .char '<' :: name.reverse.map .char

/-- Reads pieces. After a `<`, `opened` holds the characters read since, the last one first. -/
def piecesFrom (opened : Option (List Char)) : List Char → List Piece
  | [] => (opened.map abandoned).getD []
  | c :: rest =>
    match opened with
    | none => if c = '<' then piecesFrom (some []) rest else .char c :: piecesFrom none rest
    | some name =>
      if c = '<' then abandoned name ++ piecesFrom (some []) rest
      else if c = '>' && !name.isEmpty then .span name.reverse :: piecesFrom none rest
      else if isNameChar c then piecesFrom (some (c :: name)) rest
      else abandoned name ++ .char c :: piecesFrom none rest

def pieces (text : List Char) : List Piece := piecesFrom none text

theorem written_abandoned (name : List Char) :
    (abandoned name).flatMap Piece.written = '<' :: name.reverse := by
  unfold abandoned
  rw [List.flatMap_cons, List.flatMap_map]
  simp [Piece.written]

theorem written_piecesFrom (opened : Option (List Char)) (text : List Char) :
    (piecesFrom opened text).flatMap Piece.written =
      (opened.map fun name => '<' :: name.reverse).getD [] ++ text := by
  fun_induction piecesFrom opened text with
  | case1 opened =>
    cases opened with
    | none => rfl
    | some name => simpa using written_abandoned name
  | case2 rest ih => simpa using ih
  | case3 c rest h ih => simpa [Piece.written] using ih
  | case4 rest name ih => simpa [written_abandoned] using ih
  | case5 c rest name hlt hgt ih =>
    obtain ⟨rfl, -⟩ : c = '>' ∧ name ≠ [] := by simpa using hgt
    simpa [Piece.written] using ih
  | case6 c rest name hlt hgt hname ih => simpa using ih
  | case7 c rest name hlt hgt hname ih => simpa [written_abandoned, Piece.written] using ih

/-- Reading into pieces loses nothing: written one after the other, they are the text. -/
theorem written_pieces (text : List Char) : (pieces text).flatMap Piece.written = text :=
  written_piecesFrom none text

/-! ## Replacing -/

/-- The text of the pieces with every span replaced; fails at the first span that is unbound. -/
def replaceAll (lookup : String → Option String) : List Piece → Except Issue (List Char)
  | [] => .ok []
  | .char c :: rest => (c :: ·) <$> replaceAll lookup rest
  | .span name :: rest =>
    match lookup (String.ofList name) with
    | some value => (value.toList ++ ·) <$> replaceAll lookup rest
    | none => .error (.unresolvedVariable (String.ofList name))

/-- Replaces every span by its value; every span has to be bound. -/
def substitute (lookup : String → Option String) (text : String) : Except Issue String :=
  String.ofList <$> replaceAll lookup (pieces text.toList)

/-- What a piece becomes where unbound spans stay. -/
def replaceKnown (lookup : String → Option String) : Piece → List Char
  | .char c => [c]
  | .span name =>
    match lookup (String.ofList name) with
    | some value => value.toList
    | none => (Piece.span name).written

/-- Replaces the spans that are bound and leaves the others for later. -/
def substituteBound (lookup : String → Option String) (text : String) : String :=
  String.ofList ((pieces text.toList).flatMap (replaceKnown lookup))

/-- Where every span is bound, the two ways to substitute agree. -/
theorem eq_substituteBound_of_substitute {lookup : String → Option String} {text filled : String}
    (h : substitute lookup text = .ok filled) : filled = substituteBound lookup text := by
  have hpieces : ∀ (pieces : List Piece) (out : List Char),
      replaceAll lookup pieces = .ok out → out = pieces.flatMap (replaceKnown lookup) := by
    intro pieces
    induction pieces with
    | nil => intro out hout; cases hout; rfl
    | cons piece rest ih =>
      intro out hout
      cases piece with
      | char c =>
        dsimp only [replaceAll] at hout
        cases hrest : replaceAll lookup rest with
        | error issue => rw [hrest] at hout; cases hout
        | ok more => rw [hrest] at hout; cases hout; rw [ih more hrest]; rfl
      | span name =>
        dsimp only [replaceAll] at hout
        cases hvalue : lookup (String.ofList name) with
        | none => rw [hvalue] at hout; cases hout
        | some value =>
          rw [hvalue] at hout
          dsimp only at hout
          cases hrest : replaceAll lookup rest with
          | error issue => rw [hrest] at hout; cases hout
          | ok more =>
            rw [hrest] at hout
            cases hout
            rw [ih more hrest, List.flatMap_cons, replaceKnown, hvalue]
  unfold substitute at h
  cases hout : replaceAll lookup (pieces text.toList) with
  | error issue => rw [hout] at h; cases h
  | ok out =>
    rw [hout] at h
    cases h
    rw [hpieces _ out hout]
    rfl

end Template
end SshTemplate
