import SshTemplate.Text.Blank

/-!
# `Text.Numeral` — integers read and written in decimal

Ranges are bounded by signed 64-bit integers, so a numeral outside those bounds is no numeral at
all: it is refused with the same words as `cat`. Everything after reading is exact arithmetic on
`Int`, so no step of a range can overflow.
-/

set_option autoImplicit false

namespace SshTemplate
namespace Text

/-- The value of a run of decimal digits. -/
def digitsValue (digits : List Char) : Nat :=
  digits.foldl (fun value c => value * 10 + (c.toNat - '0'.toNat)) 0

/-- Splits a sign off: whether it is a minus, and the rest. -/
def cutSign : List Char → Bool × List Char
  | '-' :: rest => (true, rest)
  | '+' :: rest => (false, rest)
  | rest => (false, rest)

/-- An optional sign and at least one ASCII digit, denoting a signed 64-bit integer. -/
def readInteger? (s : List Char) : Option Int :=
  let digits := (cutSign s).2
  if digits.isEmpty || !digits.all Char.isDigit then none
  else
    let magnitude : Int := digitsValue digits
    let value := if (cutSign s).1 then -magnitude else magnitude
    if -0x8000000000000000 ≤ value ∧ value < 0x8000000000000000 then some value else none

/-- Plain decimal, with a minus sign in front of negative values. -/
def decimal (value : Int) : List Char :=
  (if value < 0 then ['-'] else []) ++ Nat.toDigits 10 value.natAbs

/-- Decimal, filled up with zeros between the sign and the digits to `width` characters. -/
def zeroPadded (width : Nat) (value : Int) : List Char :=
  let digits := Nat.toDigits 10 value.natAbs
  let sign := if value < 0 then ['-'] else []
  sign ++ List.replicate (width - sign.length - digits.length) '0' ++ digits

/-- How many bytes the text takes in UTF-8. -/
def byteLength : List Char → Nat
  | [] => 0
  | c :: rest => c.utf8Size + byteLength rest

theorem length_le_byteLength (s : List Char) : s.length ≤ byteLength s := by
  induction s with
  | nil => simp
  | cons c rest ih =>
    have hc : 1 ≤ c.utf8Size := Char.utf8Size_pos c
    simp only [byteLength, List.length_cons]
    omega

theorem byteLength_toList (s : String) : byteLength s.toList = s.utf8ByteSize := by
  have hbytes : ∀ l : List Char, (String.ofList l).utf8ByteSize = byteLength l := by
    intro l
    induction l with
    | nil => rfl
    | cons c rest ih =>
      rw [String.ofList_cons, String.utf8ByteSize_append, ih]
      simp [byteLength]
  rw [← hbytes, String.ofList_toList]

theorem byteLength_append (s t : List Char) :
    byteLength (s ++ t) = byteLength s + byteLength t := by
  induction s with
  | nil => exact (Nat.zero_add _).symm
  | cons c rest ih => rw [List.cons_append, byteLength, byteLength, ih, Nat.add_assoc]

end Text
end SshTemplate
