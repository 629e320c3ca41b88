/-!
# `Text.Utf8` — bytes as text

Files and percent-decoded paths are bytes and need not be UTF-8. Where a text is required and the
bytes are a program's input, core's strict `String.fromUTF8?` is asked and its refusal is an error.
Where the bytes are only shown (a tool's output, the path behind a `file` address), they are read
leniently: each maximal beginning of a character that breaks off is shown as one U+FFFD.
-/

set_option autoImplicit false

namespace SshTemplate
namespace Text

/-- A character that has begun: how many bytes it still needs, between which bounds the next one
    lies, and the bits read so far. -/
structure Begun where
  owed : Nat
  low : Nat
  high : Nat
  value : Nat

/-- What the byte `b` begins between characters: a whole character, or the first part of one. A
    byte that begins nothing is shown as U+FFFD at once. The narrowed bounds keep out overlong forms
    (`E0`, `F0`), surrogates (`ED`) and what lies past U+10FFFF (`F4`). -/
def beginChar (b : Nat) : Char ⊕ Begun :=
  if b < 0x80 then .inl (Char.ofNat b)
  else if 0xC2 ≤ b ∧ b ≤ 0xDF then .inr ⟨1, 0x80, 0xBF, b - 0xC0⟩
  else if 0xE0 ≤ b ∧ b ≤ 0xEF then
    .inr ⟨2, if b = 0xE0 then 0xA0 else 0x80, if b = 0xED then 0x9F else 0xBF, b - 0xE0⟩
  else if 0xF0 ≤ b ∧ b ≤ 0xF4 then
    .inr ⟨3, if b = 0xF0 then 0x90 else 0x80, if b = 0xF4 then 0x8F else 0xBF, b - 0xF0⟩
  else .inl '\uFFFD'

/-- Reads bytes after the beginning `begun`, if there is one. A byte that does not continue it
    closes it with U+FFFD and is itself read as a beginning. -/
def decodeFrom (begun : Option Begun) : List UInt8 → List Char
  | [] => if begun.isSome then ['\uFFFD'] else []
  | b :: rest =>
    let afresh : List Char :=
      match beginChar b.toNat with
      | .inl c => c :: decodeFrom none rest
      | .inr started => decodeFrom (some started) rest
    match begun with
    | none => afresh
    | some part =>
      if part.low ≤ b.toNat ∧ b.toNat ≤ part.high then
        let value := part.value * 64 + (b.toNat - 0x80)
        if part.owed ≤ 1 then Char.ofNat value :: decodeFrom none rest
        else decodeFrom (some ⟨part.owed - 1, 0x80, 0xBF, value⟩) rest
      else '\uFFFD' :: afresh

/-- Reads bytes as UTF-8 and shows U+FFFD for every beginning that does not become a character. -/
def decodeLossy (bytes : List UInt8) : List Char := decodeFrom none bytes

theorem length_decodeFrom_le (begun : Option Begun) (bytes : List UInt8) :
    (decodeFrom begun bytes).length ≤ bytes.length + (if begun.isSome then 1 else 0) := by
  induction bytes generalizing begun with
  | nil => cases begun <;> simp [decodeFrom]
  | cons b rest ih =>
    have hnone : (decodeFrom none rest).length ≤ rest.length := ih none
    have hsome : ∀ part, (decodeFrom (some part) rest).length ≤ rest.length + 1 :=
      fun part => ih (some part)
    cases begun with
    | none =>
      unfold decodeFrom
      cases beginChar b.toNat with
      | inl c => simpa using hnone
      | inr started => simpa using hsome started
    | some part =>
      unfold decodeFrom
      cases beginChar b.toNat with
      | inl c => grind
      | inr started => grind

/-- Every character takes a byte at least. -/
theorem length_decodeLossy_le (bytes : List UInt8) :
    (decodeLossy bytes).length ≤ bytes.length :=
  length_decodeFrom_le none bytes

/-- The UTF-8 bytes of a text. -/
def utf8 (s : List Char) : List UInt8 := s.flatMap String.utf8EncodeChar

end Text
end SshTemplate
