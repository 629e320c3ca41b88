import Mathlib
import SshTemplate.Address.Percent
import SshTemplate.Source

/-!
# `Proofs.Sources.Urls` — what is assumed of a reader of URLs

Which texts are URLs is decided by a reader that `Source.classify` is given, and nothing about it is
known here. What classification comes to depends on a few rules of the URL Standard, and each of them
is a property of readers with a name of its own. A theorem asks for the ones it needs; with none of
them it holds of any reader at all.

* Where a URL begins, and what its scheme is: `BeginsWithLetter`, `KeepsScheme`.
* What can stand behind the colon: `ReadsHostless`, `NeedsHost`.
* Which path a `file` URL denotes: `DecodesPath`, `DenotesAbsolutePaths`.

`Proofs.Sources.Addresses` shows them of the reader that comes with the library.
-/

set_option autoImplicit false

namespace SshTemplate
namespace Url

open Address (decode)
open Text (utf8 decodeFrom decodeLossy beginChar)

/-! ## Schemes -/

/-- A letter, and then letters, digits, `+`, `-` and `.`. -/
def SchemeWord (word : List Char) : Prop :=
  ∃ first more, word = first :: more ∧ first.isAlpha = true ∧
    ∀ c ∈ more, c.isAlphanum = true ∨ c = '+' ∨ c = '-' ∨ c = '.'

/-- The text begins with a scheme and its colon; `scheme` is that scheme in lower case, and `rest`
    stands behind the colon. -/
def Under (scheme rest : List Char) (text : String) : Prop :=
  ∃ word, SchemeWord word ∧ text.toList = word ++ ':' :: rest ∧ scheme = word.map Char.toLower

/-- The text is under a scheme that is neither `https` nor `file`. -/
structure Foreign (text : String) (scheme rest : List Char) : Prop where
  under : Under scheme rest text
  not_https : scheme ≠ "https".toList
  not_file : scheme ≠ "file".toList

/-- The schemes under which a URL needs a host. -/
def hostSchemes : List (List Char) :=
  ["http".toList, "https".toList, "ws".toList, "wss".toList, "ftp".toList]

/-- A text without its tabs and line ends, which do not count in a URL. -/
def stripped (text : List Char) : List Char :=
  text.filter fun c => c ≠ '\t' && c ≠ '\n' && c ≠ '\r'

/-- A URL begins with the letter of a scheme, or with controls and blanks before it. -/
def BeginsWithLetter (read : UrlReader) : Prop :=
  ∀ (text : String) (c : Char) (rest : List Char), text.toList = c :: rest → ' ' < c →
    c.isAlpha = false → read text = none

/-- The scheme of a URL is the one that is written, in lower case. -/
def KeepsScheme (read : UrlReader) : Prop :=
  ∀ (text : String) (scheme rest : List Char) (url : Url), Under scheme rest text →
    read text = some url → url.scheme = String.ofList scheme

/-- Where a host is neither needed nor begun by two slashes, anything can stand behind the colon. -/
def ReadsHostless (read : UrlReader) : Prop :=
  ∀ (text : String) (scheme rest : List Char), Under scheme rest text → scheme ∉ hostSchemes →
    scheme ≠ "file".toList → (∀ authority, stripped rest ≠ '/' :: '/' :: authority) →
      (read text).isSome = true

/-- Where a host is needed, it does not do to have slashes only, of either kind. -/
def NeedsHost (read : UrlReader) : Prop :=
  ∀ (text : String) (scheme rest : List Char), Under scheme rest text → scheme ∈ hostSchemes →
    (∀ c ∈ rest, c = '/' ∨ c = '\\') → read text = none

/-! ## Paths -/

/-- A letter, a digit, `-`, `.`, `_` or `~`. -/
def isUnreserved (c : Char) : Bool := c.isAlphanum || c == '-' || c == '.' || c == '_' || c == '~'

/-- A segment that is not left out and takes no other back, written in unreserved characters and
    percent-encoded bytes. The dots may be encoded as well. -/
structure IsSegment (segment : List Char) : Prop where
  nonempty : segment ≠ []
  written : ∀ c ∈ segment, isUnreserved c = true ∨ c = '%'
  not_current : decode segment ≠ [0x2E]
  not_parent : decode segment ≠ [0x2E, 0x2E]

/-- The bytes that segments stand for, each behind a slash. -/
def pathBytes (segments : List (List Char)) : List UInt8 :=
  segments.flatMap fun segment => 0x2F :: decode segment

/-- Behind `file://`, without a host, the segments of an absolute path denote the path of the bytes
    they stand for. One empty segment alone is that of the root. A path that ends in a colon or a bar
    may be taken for a drive, and nothing is said of it. -/
def DecodesPath (read : UrlReader) : Prop :=
  ∀ (text : String) (segments : List (List Char)), segments ≠ [] →
    (∀ segment ∈ segments, IsSegment segment) ∨ segments = [[]] →
    (∀ byte ∈ (pathBytes segments).getLast?, byte ≠ 0x3A ∧ byte ≠ 0x7C) →
    text.toList = "file://".toList ++ segments.flatMap ('/' :: ·) →
      ∃ url, read text = some url ∧ url.scheme = "file" ∧
        url.localPath = some (pathBytes segments)

/-- The path that a URL denotes is absolute. -/
def DenotesAbsolutePaths (read : UrlReader) : Prop :=
  ∀ (text : String) (url : Url) (path : List UInt8), read text = some url →
    url.localPath = some path → ∃ rest, path = 0x2F :: rest

/-! ## Bytes of ASCII characters -/

/-- The byte of an ASCII character. -/
def byteOf (c : Char) : UInt8 := c.val.toUInt8

section Bytes

variable {c : Char} {text : List Char}

theorem utf8EncodeChar_ascii (h : c.toNat < 0x80) : String.utf8EncodeChar c = [byteOf c] := by
  apply String.utf8EncodeChar_eq_singleton
  apply Char.utf8Size_eq_one_iff.2
  exact UInt32.le_iff_toNat_le.2 (Nat.le_of_lt_succ h)

theorem toNat_byteOf (h : c.toNat < 0x80) : (byteOf c).toNat = c.toNat := by
  have hval : c.toNat = c.val.toNat := rfl
  show c.val.toNat % 256 = c.toNat
  omega

theorem utf8_ascii (h : ∀ c ∈ text, c.toNat < 0x80) : utf8 text = text.map byteOf := by
  induction text with
  | nil => rfl
  | cons c rest ih =>
    obtain ⟨hc, hrest⟩ := List.forall_mem_cons.1 h
    unfold utf8 at ih ⊢
    rw [List.flatMap_cons, utf8EncodeChar_ascii hc, ih hrest]
    rfl

/-- Bytes of ASCII characters are shown as these characters. -/
theorem decodeLossy_bytes (h : ∀ c ∈ text, c.toNat < 0x80) :
    decodeLossy (text.map byteOf) = text := by
  unfold decodeLossy
  induction text with
  | nil => rfl
  | cons c rest ih =>
    obtain ⟨hc, hrest⟩ := List.forall_mem_cons.1 h
    rw [List.map_cons, decodeFrom, toNat_byteOf hc, beginChar, if_pos hc, ih hrest]
    simp

end Bytes

end Url
end SshTemplate
