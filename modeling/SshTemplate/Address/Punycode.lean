/-!
# `Address.Punycode` — labels written in ASCII

A label with characters outside ASCII has a form in ASCII: first its ASCII characters, then, after a
hyphen, where the others are inserted. (This is Punycode.) The insertions are
numbers, one after the other, in base 36 and lowest digit first. A number counts steps, and a step
goes to the next place in the text or, behind its end, to the next character and the first place.

No number says where it ends: below a threshold that depends on the place of the digit a digit is
the last one. The thresholds follow the size of the numbers before, so that numbers stay short.
-/

set_option autoImplicit false

namespace SshTemplate
namespace Address
namespace Punycode

/-! ## Thresholds -/

/-- The threshold of a digit at distance `k`, for a bias. -/
def threshold (k bias : Nat) : Nat := if k ≤ bias then 1 else if bias + 26 ≤ k then 26 else k - bias

/-- Brings a distance below the range in which the bias is a ratio; counts the steps. -/
def scaleDown (delta k : Nat) : Nat × Nat :=
  if 455 < delta then scaleDown (delta / 35) (k + 36) else (delta, k)
termination_by delta
decreasing_by omega

/-- The bias after a number `delta` that made a text of `count` characters. -/
def adaptBias (delta count : Nat) (first : Bool) : Nat :=
  let start := if first then delta / 700 else delta / 2
  let (scaled, k) := scaleDown (start + start / count) 0
  k + 36 * scaled / (scaled + 38)

/-! ## Decoding -/

/-- The value of a digit in base 36: letters first. -/
def digit? (c : Char) : Option Nat :=
  let n := c.toNat
  if 0x61 ≤ n ∧ n ≤ 0x7A then some (n - 0x61)
  else if 0x30 ≤ n ∧ n ≤ 0x39 then some (n - 0x30 + 26)
  else none

/-- Numbers are words of 32 bits, and so is all that is computed on the way to them. -/
def wordLimit : Nat := 4294967296

/-- A text into which characters are inserted. -/
structure Decoding where
  text : List Char
  /-- The character inserted last; the first one to insert is the first outside ASCII. -/
  code : Nat
  bias : Nat
  /-- The place behind the character inserted last. -/
  place : Nat

/-- Inserts a character. The number that says which and where has been added to the place. -/
def Decoding.insert? (state : Decoding) (reached : Nat) : Option Decoding :=
  let count := state.text.length + 1
  let code := state.code + reached / count
  let place := reached % count
  if code.isValidChar then
    let bias := adaptBias (reached - state.place) count (state.place = 0)
    some ⟨state.text.insertIdx place (Char.ofNat code), code, bias, place + 1⟩
  else none

/-- Reads numbers and inserts characters. Of the number being read, `reached` is the sum of the
    place and the digits so far, and the next digit has the weight `weight` and the distance `k`. -/
def Decoding.run (state : Decoding) (weight k reached : Nat) : List Char → Option (List Char)
  | [] => if k = 36 then some state.text else none
  | c :: rest => do
    let digit ← digit? c
    let reached := reached + digit * weight
    let limit := threshold k state.bias
    if wordLimit ≤ reached then none
    else if digit < limit then
      let state ← state.insert? reached
      state.run 1 36 state.place rest
    else if wordLimit ≤ weight * (36 - limit) then none
    else state.run (weight * (36 - limit)) (k + 36) reached rest

/-- The text that a form in ASCII stands for. The hyphen after ASCII characters is the last one; a
    hyphen with nothing before it is none of them. -/
def decode? (form : List Char) : Option (List Char) :=
  let digits := (form.reverse.takeWhile (· != '-')).reverse
  let ascii := form.take (form.length - digits.length - 1)
  let digits := if ascii.isEmpty then form else digits
  Decoding.run ⟨ascii, 128, 72, 0⟩ 1 36 0 digits

end Punycode
end Address
end SshTemplate
