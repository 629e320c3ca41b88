import SshTemplate.Text.Composition.Marks
import SshTemplate.Text.Composition.Letters

/-!
# `Text.Composition` — letters and their marks

A letter with marks can be written as one character or as several, and the marks in several orders.
Where texts are compared character by character they need one spelling, and that is the composed
form: every letter is taken apart, its marks are put in order, and what can be joined is joined
again. (Unicode calls it Normalization Form C.)

Letters come apart one mark at a time, so `split?` and `join?` are about pairs. They are inverse to
each other by the table, or, for the syllables of Hangul, by the arithmetic that places a syllable
by its parts.
-/

set_option autoImplicit false

namespace SshTemplate
namespace Text

/-! ## Pairs -/

/-- The class that decides which marks a mark lets pass: none at all if it is zero. -/
def combiningClass (c : Char) : Nat :=
  -- Below the first mark there is nothing to look for.
  if c.toNat < 0x300 then 0
  else ((combiningClasses.find? fun entry => entry.2.contains c).map Prod.fst).getD 0

/-- A Hangul syllable, by the places of its consonant and vowel; a final consonant adds to it. -/
def syllable (consonant vowel : Nat) : Nat := 0xAC00 + (consonant * 21 + vowel) * 28

def isSyllable (n : Nat) : Bool := 0xAC00 ≤ n && n < 0xD7A4

/-- The place of the final consonant of a syllable; zero if it has none. -/
def finalOf (n : Nat) : Nat := (n - 0xAC00) % 28

/-- A consonant with a vowel, or the syllable of both with a final consonant. -/
def joinSyllable? (a b : Nat) : Option Nat :=
  if 0x1100 ≤ a ∧ a < 0x1113 ∧ 0x1161 ≤ b ∧ b < 0x1176 then
    some (syllable (a - 0x1100) (b - 0x1161))
  else if isSyllable a ∧ finalOf a = 0 ∧ 0x11A7 < b ∧ b < 0x11C3 then some (a + (b - 0x11A7))
  else none

def splitSyllable (n : Nat) : Nat × Nat :=
  if finalOf n = 0 then
    (0x1100 + (n - 0xAC00) / 28 / 21, 0x1161 + (n - 0xAC00) / 28 % 21)
  else (n - finalOf n, 0x11A7 + finalOf n)

/-- The letter that two characters make. -/
def join? (letter mark : Char) : Option Char :=
  if mark.toNat < 0x300 then none
  else
    match joinSyllable? letter.toNat mark.toNat with
    | some joined => some (Char.ofNat joined)
    | none => do
      let (_, letters) ← compositions.find? fun entry => entry.1 = mark.toNat
      let (_, joined) ← letters.find? fun pair => pair.1 = letter.toNat
      some (Char.ofNat joined)

/-- The letter and the mark that a letter of the table is made of. -/
def splitLetter? (n : Nat) : Option (Nat × Nat) :=
  compositions.findSome? fun (mark, letters) =>
    (letters.find? fun pair => pair.2 = n).map fun pair => (pair.1, mark)

/-- The letter and the mark that a letter is made of. -/
def split? (c : Char) : Option (Char × Char) :=
  if c.toNat < 0xC0 then none
  else
    (if isSyllable c.toNat then some (splitSyllable c.toNat) else splitLetter? c.toNat).map
      fun parts => (Char.ofNat parts.1, Char.ofNat parts.2)

/-! ## The composed form -/

/-- Takes up to `count` marks off a letter. -/
def takeApart : Nat → Char → List Char
  | 0, c => [c]
  | count + 1, c =>
    match split? c with
    | some (letter, mark) => takeApart count letter ++ [mark]
    | none => [c]

/-- No letter carries more marks. -/
def marksLimit : Nat := 3

/-- Puts a character behind those before it, which come last one first. A mark passes marks of
    higher classes. -/
def placeMark (c : Char) : List Char → List Char
  | [] => [c]
  | last :: before =>
    if combiningClass c ≠ 0 ∧ combiningClass c < combiningClass last then
      last :: placeMark c before
    else c :: last :: before

/-- A text taken apart, with its marks in order. -/
def decomposed (text : List Char) : List Char :=
  ((text.flatMap (takeApart marksLimit)).foldl (fun before c => placeMark c before) []).reverse

/-- Joins a letter with the marks behind it. `passed` are the marks that it has not taken in, the
    last one first: they stand in the way of marks that may not pass them. -/
def joinMarks (letter : Char) (passed : List Char) : List Char → List Char
  | [] => letter :: passed.reverse
  | c :: rest =>
    let reached :=
      match passed with
      | [] => true
      | last :: _ => combiningClass last < combiningClass c
    match if reached then join? letter c else none with
    | some joined => joinMarks joined passed rest
    | none =>
      if combiningClass c = 0 then letter :: passed.reverse ++ joinMarks c [] rest
      else joinMarks letter (c :: passed) rest

/-- Joins what can be joined. Marks at the beginning have no letter. -/
def joinAll : List Char → List Char
  | [] => []
  | c :: rest => if combiningClass c = 0 then joinMarks c [] rest else c :: joinAll rest

/-- The one spelling of a text. -/
def composed (text : List Char) : List Char := joinAll (decomposed text)

end Text
end SshTemplate
