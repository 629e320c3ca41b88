import SshTemplate.Address
import SshTemplate.Proofs.Sources.Urls

/-!
# `Proofs.Sources.Addresses` — the reader keeps to what is assumed

What is said about sources is said of any reader of URLs with certain properties
(`Proofs.Sources.Urls`). The reader that comes with the library has them all. So what is said holds
of it, and the properties do not exclude each other.

The reader is followed in its own order: what is trimmed off, the scheme before the first colon, and
then what stands behind it. For a `file` address that is the pieces between slashes, the segments
that are built from them (`foldl_add`), and the bytes that the segments stand for. In a segment of
the kind that is assumed there is nothing to encode, no dot to take back and no drive.
-/

set_option autoImplicit false

namespace SshTemplate
namespace Address

open Text Url

/-! ## Where an address begins -/

/-- What stands at the front of a text is not trimmed off at its end. -/
theorem trimmed_cons {c : Char} (h : ¬ c ≤ ' ') (rest : List Char) :
    (((c :: rest).dropWhile (· ≤ ' ')).reverse.dropWhile (· ≤ ' ')).reverse =
      c :: (rest.reverse.dropWhile (· ≤ ' ')).reverse := by
  rw [List.dropWhile_cons_of_neg (by simpa using h), List.reverse_cons, List.dropWhile_append]
  split
  · next hempty =>
    rw [List.isEmpty_iff] at hempty
    rw [hempty, List.dropWhile_cons_of_neg (by simpa using h)]
    rfl
  · simp

/-- A scheme begins with a letter. -/
theorem cutScheme?_of_not_alpha {c : Char} (hkept : isIgnored c = false)
    (hletter : c.isAlpha = false) (rest : List Char) : cutScheme? (c :: rest) = none := by
  unfold cutScheme?
  split
  · next written after hcut =>
    have hscheme : isScheme (kept written) = false := by
      rw [cutFirst?] at hcut
      split at hcut
      · obtain ⟨hwritten, -⟩ := Prod.mk.inj (Option.some.inj hcut)
        rw [← hwritten]
        rfl
      · obtain ⟨cut, -, heq⟩ := Option.map_eq_some_iff.1 hcut
        obtain ⟨hwritten, -⟩ := Prod.mk.inj heq
        rw [← hwritten]
        simp [kept, hkept, isScheme, hletter]
    dsimp only
    rw [hscheme]
    rfl
  · rfl

/-- **An address begins with a letter**, or with what is trimmed off. -/
theorem beginsWithLetter_reader : BeginsWithLetter reader := by
  intro text c rest h hblank hletter
  have hkept : isIgnored c = false := by
    have hne : ∀ d : Char, d ≤ ' ' → c ≠ d := by
      rintro d hd rfl
      exact absurd hd (Char.not_le.2 hblank)
    simp [isIgnored, hne '\t' (by decide), hne '\n' (by decide), hne '\r' (by decide)]
  unfold reader read?
  dsimp only
  rw [h, trimmed_cons (Char.not_le.2 hblank), cutScheme?_of_not_alpha hkept hletter]
  rfl

/-! ## Schemes -/

theorem isSchemeChar_of_mem {word : List Char} (h : SchemeWord word) {c : Char} (hc : c ∈ word) :
    isSchemeChar c = true := by
  obtain ⟨first, more, rfl, hfirst, hmore⟩ := h
  unfold isSchemeChar
  rcases List.mem_cons.1 hc with rfl | hc
  · simp [Char.isAlphanum, hfirst]
  · rcases hmore c hc with h | rfl | rfl | rfl
    · simp [h]
    · simp
    · simp
    · simp

/-- A character of a scheme is neither a blank or control nor a colon. -/
theorem toNat_of_isSchemeChar {c : Char} (h : isSchemeChar c = true) :
    0x20 < c.toNat ∧ c ≠ ':' := by
  simp only [isSchemeChar, Char.isAlphanum, Char.isAlpha, Char.isUpper, Char.isLower, Char.isDigit,
    Bool.or_eq_true, Bool.and_eq_true, decide_eq_true_eq, beq_iff_eq, UInt32.le_iff_toNat_le] at h
  have hval : c.toNat = c.val.toNat := rfl
  have hcolon : c = ':' → c.toNat = 0x3A := fun heq => heq ▸ rfl
  rcases h with ((h | rfl) | rfl) | rfl
  · simp at h
    exact ⟨by omega, fun heq => by have := hcolon heq; omega⟩
  · exact ⟨by decide, by decide⟩
  · exact ⟨by decide, by decide⟩
  · exact ⟨by decide, by decide⟩

theorem not_le_blank {c : Char} (h : 0x20 < c.toNat) : ¬ c ≤ ' ' := by
  intro hle
  have hle : c.val.toNat ≤ 0x20 := UInt32.le_iff_toNat_le.1 hle
  exact absurd hle (Nat.not_le.2 h)

/-- No character of a scheme is trimmed off or ignored, and its colon is not trimmed off either. -/
theorem trimmed_of_schemeWord {word : List Char} (h : SchemeWord word) (rest : List Char) :
    (((word ++ ':' :: rest).dropWhile (· ≤ ' ')).reverse.dropWhile (· ≤ ' ')).reverse =
      word ++ ':' :: (rest.reverse.dropWhile (· ≤ ' ')).reverse := by
  obtain ⟨first, more, rfl, -⟩ := id h
  have hmem : first ∈ first :: more := List.mem_cons_self
  have hfirst := not_le_blank (toNat_of_isSchemeChar (isSchemeChar_of_mem h hmem)).1
  have hcolon : ¬ ':' ≤ ' ' := by decide
  rw [List.cons_append, List.dropWhile_cons_of_neg (by simp [hfirst]), List.reverse_cons,
    List.reverse_append, List.reverse_cons, List.append_assoc, List.append_assoc,
    List.dropWhile_append]
  split
  · next hempty =>
    rw [List.isEmpty_iff] at hempty
    rw [hempty, List.singleton_append, List.dropWhile_cons_of_neg (by simp [hcolon])]
    simp
  · simp

theorem cutScheme?_of_schemeWord {word : List Char} (h : SchemeWord word) (rest : List Char) :
    cutScheme? (word ++ ':' :: rest) = some (word.map Char.toLower, rest) := by
  have hchars : ∀ c ∈ word, isSchemeChar c = true := fun c hc => isSchemeChar_of_mem h hc
  have hcut : cutFirst? (· = ':') (word ++ ':' :: rest) = some (word, rest) := by
    refine cutFirst?_append_cons (fun c hc => ?_) (by simp) rest
    simpa using (toNat_of_isSchemeChar (hchars c hc)).2
  have hkept : kept word = word := by
    refine List.filter_eq_self.2 fun c hc => ?_
    have hlt := (toNat_of_isSchemeChar (hchars c hc)).1
    have hne : ∀ d : Char, d.toNat ≤ 0x20 → c ≠ d := by
      rintro d hd rfl
      omega
    simp [isIgnored, hne '\t' (by decide), hne '\n' (by decide), hne '\r' (by decide)]
  have hscheme : isScheme word = true := by
    obtain ⟨first, more, rfl, hfirst, -⟩ := h
    simp only [isScheme, hfirst, Bool.true_and, List.all_eq_true]
    exact fun c hc => hchars c (List.mem_cons_of_mem _ hc)
  unfold cutScheme?
  rw [hcut]
  dsimp only
  rw [hkept, hscheme]
  rfl

/-- What follows the scheme, without the controls and blanks at the end. -/
def behind (rest : List Char) : List Char := (rest.reverse.dropWhile (· ≤ ' ')).reverse

theorem isPrefix_behind (rest : List Char) : behind rest <+: rest := by
  rw [← List.reverse_suffix, behind, List.reverse_reverse]
  exact List.dropWhile_suffix _

theorem kept_eq_stripped (text : List Char) : kept text = stripped text := by
  unfold kept stripped isIgnored
  refine List.filter_congr fun c _ => ?_
  simp [Bool.and_assoc, Bool.beq_eq_decide_eq]

/-- Whether an address can go on with `rest` behind the colon, under a scheme that is neither `https`
    nor `file`. -/
def goesOn (scheme rest : List Char) : Bool :=
  match defaultPort? scheme with
  | some port => (readAuthority? (some port) (rest.dropWhile isSlash)).isSome
  | none => isOtherAddress rest

/-- **How a text is read that begins with a scheme.** -/
theorem read?_of_under {text : String} {scheme rest : List Char} (h : Under scheme rest text) :
    read? text =
      if scheme = "https".toList then readHttps? (kept (behind rest))
      else if scheme = "file".toList then readFile? (behind rest)
      else if goesOn scheme (kept (behind rest)) = true then some (.other (String.ofList scheme))
      else none := by
  obtain ⟨word, hword, htext, rfl⟩ := h
  unfold read?
  dsimp only
  rw [htext, trimmed_of_schemeWord hword, cutScheme?_of_schemeWord hword]
  rfl

theorem exists_of_readHttps? {rest : List Char} {address : Address}
    (h : readHttps? rest = some address) : ∃ text, address = .https text := by
  obtain ⟨⟨authority, behind⟩, -, h⟩ := Option.bind_eq_some_iff.1 h
  exact ⟨_, (Option.some.inj h).symm⟩

theorem segments_ne_nil (path : LocalPath) : path.segments ≠ [] := by
  unfold LocalPath.segments
  dsimp only
  split
  · exact List.cons_ne_nil _ _
  · next h => simpa using h

theorem exists_of_readFile? {rest : List Char} {address : Address}
    (h : readFile? rest = some address) :
    ∃ remote segments, address = .file remote segments ∧ segments ≠ [] := by
  have hform : ∃ remote path, address = .file remote (LocalPath.segments path) := by
    unfold readFile? at h
    dsimp only at h
    repeat' split at h
    all_goals first | exact ⟨_, _, (Option.some.inj h).symm⟩ | cases h
  obtain ⟨remote, path, rfl⟩ := hform
  exact ⟨remote, _, rfl, segments_ne_nil path⟩

theorem segments_ne_nil_of_read? {text : String} {remote : Bool} {segments : List (List Char)}
    (h : read? text = some (.file remote segments)) : segments ≠ [] := by
  obtain ⟨⟨scheme, rest⟩, -, h⟩ := Option.bind_eq_some_iff.1 h
  dsimp only at h
  split at h
  · obtain ⟨normal, heq⟩ := exists_of_readHttps? h
    cases heq
  · split at h
    · obtain ⟨remote', segments', heq, hne⟩ := exists_of_readFile? h
      cases heq
      exact hne
    · obtain ⟨-, heq⟩ := Option.ite_none_right_eq_some.1 h
      cases heq

/-- **The scheme of an address is the one that is written.** -/
theorem keepsScheme_reader : KeepsScheme reader := by
  intro text scheme rest url h hread
  obtain ⟨address, haddress, rfl⟩ := Option.map_eq_some_iff.1 hread
  rw [read?_of_under h] at haddress
  split at haddress
  · next hhttps =>
    obtain ⟨normal, rfl⟩ := exists_of_readHttps? haddress
    rw [hhttps]
    rfl
  · split at haddress
    · next hfile =>
      obtain ⟨remote, segments, rfl, -⟩ := exists_of_readFile? haddress
      rw [hfile]
      rfl
    · split at haddress
      · obtain rfl := Option.some.inj haddress
        rfl
      · cases haddress

theorem defaultPort?_eq_none {scheme : List Char} (h : scheme ∉ hostSchemes) :
    defaultPort? scheme = none := by
  simp only [hostSchemes, List.mem_cons, List.not_mem_nil, or_false, not_or] at h
  obtain ⟨hhttp, hhttps, hws, hwss, hftp⟩ := h
  unfold defaultPort?
  rw [if_neg (not_or.2 ⟨hhttp, hws⟩), if_neg (not_or.2 ⟨hhttps, hwss⟩), if_neg hftp]

/-- **Without a host anything is an address.** -/
theorem readsHostless_reader : ReadsHostless reader := by
  intro text scheme rest h hhost hfile hslashes
  have hhttps : scheme ≠ "https".toList := by
    rintro rfl
    exact hhost (by simp [hostSchemes])
  have hgoes : goesOn scheme (kept (behind rest)) = true := by
    unfold goesOn
    rw [defaultPort?_eq_none hhost]
    dsimp only
    unfold isOtherAddress
    split
    · next authority heq =>
      obtain ⟨more, hmore⟩ := (isPrefix_behind rest).filter fun c => !isIgnored c
      refine absurd ?_ (hslashes (authority ++ more))
      rw [← kept_eq_stripped]
      exact hmore.symm.trans (congrArg (· ++ more) heq)
    · rfl
  unfold reader
  rw [read?_of_under h, if_neg hhttps, if_neg hfile, if_pos hgoes]
  rfl

theorem readAuthority?_nil (port : Nat) : readAuthority? (some port) [] = none := by
  rfl

/-- **Slashes alone are no host.** -/
theorem needsHost_reader : NeedsHost reader := by
  intro text scheme rest h hhost hslashes
  have hnone : (kept (behind rest)).dropWhile isSlash = [] := by
    refine List.dropWhile_eq_nil_iff.2 fun c hc => ?_
    rcases hslashes c ((isPrefix_behind rest).subset (List.mem_filter.1 hc).1) with rfl | rfl
    · rfl
    · rfl
  have hread : read? text = none := by
    rw [read?_of_under h]
    split
    · unfold readHttps?
      rw [hnone, readAuthority?_nil]
      rfl
    · next hhttps =>
      have hport : ∃ port, defaultPort? scheme = some port := by
        simp only [hostSchemes, List.mem_cons, List.not_mem_nil, or_false] at hhost
        rcases hhost with rfl | rfl | rfl | rfl | rfl
        · exact ⟨_, rfl⟩
        · exact ⟨_, rfl⟩
        · exact ⟨_, rfl⟩
        · exact ⟨_, rfl⟩
        · exact ⟨_, rfl⟩
      obtain ⟨port, hport⟩ := hport
      have hfile : scheme ≠ "file".toList := by
        rintro rfl
        cases hport
      have hgoes : goesOn scheme (kept (behind rest)) = false := by
        unfold goesOn
        rw [hport]
        dsimp only
        rw [hnone, readAuthority?_nil]
        rfl
      rw [if_neg hfile, hgoes]
      rfl
  unfold reader
  rw [hread]
  rfl

/-! ## Characters of a segment -/

/-- Unreserved, or the sign of a percent-encoded byte. -/
def isSegmentChar (c : Char) : Bool := isUnreserved c || c == '%'

section Characters

variable {c : Char} {segment : List Char}

theorem toNat_of_isSegmentChar (h : isSegmentChar c = true) :
    (0x30 ≤ c.toNat ∧ c.toNat ≤ 0x39) ∨ (0x41 ≤ c.toNat ∧ c.toNat ≤ 0x5A) ∨
      (0x61 ≤ c.toNat ∧ c.toNat ≤ 0x7A) ∨ c.toNat = 0x2D ∨ c.toNat = 0x2E ∨ c.toNat = 0x5F ∨
      c.toNat = 0x7E ∨ c.toNat = 0x25 := by
  simp only [isSegmentChar, isUnreserved, Char.isAlphanum, Char.isAlpha, Char.isUpper, Char.isLower,
    Char.isDigit, Bool.or_eq_true, Bool.and_eq_true, decide_eq_true_eq, beq_iff_eq,
    UInt32.le_iff_toNat_le] at h
  have hval : c.toNat = c.val.toNat := rfl
  obtain ((((h | h) | h) | h) | h) | h := h
  · simp at h
    omega
  · subst h
    decide
  · subst h
    decide
  · subst h
    decide
  · subst h
    decide
  · subst h
    decide

theorem ne_of_isSegmentChar (h : isSegmentChar c = true) {d : Char}
    (hd : isSegmentChar d = false) : c ≠ d := by
  intro heq
  rw [heq, hd] at h
  cases h

theorem isIgnored_of_isSegmentChar (h : isSegmentChar c = true) : isIgnored c = false := by
  unfold isIgnored
  simp [ne_of_isSegmentChar h (d := '\t') (by decide),
    ne_of_isSegmentChar h (d := '\n') (by decide), ne_of_isSegmentChar h (d := '\r') (by decide)]

/-- Nothing is encoded in the path of an address but what is reserved. -/
theorem pathSet_of_isSegmentChar (h : isSegmentChar c = true) : pathSet c.toNat = false := by
  have hrange := toNat_of_isSegmentChar h
  simp only [pathSet, inSet, isControl]
  simp
  omega

theorem kept_segment (h : ∀ c ∈ segment, isSegmentChar c = true) : kept segment = segment := by
  apply List.filter_eq_self.2
  intro c hc
  rw [isIgnored_of_isSegmentChar (h c hc)]
  rfl

theorem encode_segment (h : ∀ c ∈ segment, isSegmentChar c = true) :
    encode pathSet segment = segment := by
  have hascii : ∀ c ∈ segment, c.toNat < 0x80 := by
    intro c hc
    have hrange := toNat_of_isSegmentChar (h c hc)
    omega
  unfold encode
  rw [utf8_ascii hascii, List.flatMap_map]
  induction segment with
  | nil => rfl
  | cons c rest ih =>
    obtain ⟨hc, hrest⟩ := List.forall_mem_cons.1 h
    obtain ⟨hlt, hlater⟩ := List.forall_mem_cons.1 hascii
    rw [List.flatMap_cons, ih hrest hlater, toNat_byteOf hlt, pathSet_of_isSegmentChar hc]
    simp

end Characters

/-! ## Segments -/

section Segments

variable {segment : List Char} {segments : List (List Char)}

theorem chars_of_isSegment (h : IsSegment segment) : ∀ c ∈ segment, isSegmentChar c = true := by
  intro c hc
  unfold isSegmentChar
  rcases h.written c hc with hplain | rfl
  · simp [hplain]
  · simp

theorem no_slash_of_isSegment (h : IsSegment segment) : '/' ∉ segment := by
  intro hmem
  exact ne_of_isSegmentChar (chars_of_isSegment h _ hmem) (by decide) rfl

/-- However dots are written, they stand for dots. -/
theorem not_dots_of_isSegment (h : IsSegment segment) :
    isDot segment = false ∧ isDotDot segment = false := by
  have hdot : ∀ dot ∈ [".", "%2e", "%2E"], decode dot.toList = [0x2E] := by decide
  have hdots : ∀ dots ∈ ["..", "%2e.", "%2E.", ".%2e", ".%2E", "%2e%2e", "%2e%2E", "%2E%2e",
      "%2E%2E"], decode dots.toList = [0x2E, 0x2E] := by decide
  constructor
  · refine List.any_eq_false.2 fun dot hmem heq => ?_
    have heq : dot.toList = segment := by simpa using heq
    exact h.not_current (heq ▸ hdot dot hmem)
  · refine List.any_eq_false.2 fun dots hmem heq => ?_
    have heq : dots.toList = segment := by simpa using heq
    exact h.not_parent (heq ▸ hdots dots hmem)

theorem addSegment_of_isSegment (h : IsSegment segment) (before : List (List Char)) :
    addSegment before segment = segment :: before := by
  obtain ⟨hdot, hdots⟩ := not_dots_of_isSegment h
  unfold addSegment
  rw [hdot, hdots, encode_segment (chars_of_isSegment h)]
  simp

/-- Behind another segment, a segment is added as it is. -/
theorem LocalPath.add_segment (h : IsSegment segment) {before : List (List Char)}
    (hbefore : before ≠ []) (drive : Bool) :
    LocalPath.add ⟨before, drive⟩ segment = ⟨segment :: before, drive⟩ := by
  unfold LocalPath.add
  dsimp only
  rw [kept_segment (chars_of_isSegment h)]
  split
  · exact absurd rfl hbefore
  · exact absurd rfl hbefore
  · rw [addSegment_of_isSegment h]

theorem foldl_add (h : ∀ segment ∈ segments, IsSegment segment) {before : List (List Char)}
    (hbefore : before ≠ []) (drive : Bool) :
    segments.foldl LocalPath.add ⟨before, drive⟩ = ⟨segments.reverse ++ before, drive⟩ := by
  induction segments generalizing before with
  | nil => rfl
  | cons segment rest ih =>
    obtain ⟨hsegment, hrest⟩ := List.forall_mem_cons.1 h
    rw [List.foldl_cons, LocalPath.add_segment hsegment hbefore, ih hrest (List.cons_ne_nil _ _)]
    simp

/-- **The segments are read as they are**; the piece before the first slash is empty. -/
theorem segments_ofSegments (h : ∀ segment ∈ segments, IsSegment segment) (hne : segments ≠ []) :
    LocalPath.segments (LocalPath.ofSegments ([] :: segments)) = segments := by
  have hfirst : LocalPath.add ⟨[], false⟩ [] = ⟨[[]], false⟩ := rfl
  have hends : endsInDots ([] :: segments) = false := by
    obtain ⟨front, last, hsplit⟩ := (List.eq_nil_or_concat' segments).resolve_left hne
    have hlast : IsSegment last := h last (by simp [hsplit])
    have hget : ([] :: segments).getLast? = some last := by
      rw [hsplit, ← List.cons_append]
      exact List.getLast?_concat
    unfold endsInDots
    rw [hget, Option.getD_some, kept_segment (chars_of_isSegment hlast)]
    simp [not_dots_of_isSegment hlast]
  unfold LocalPath.ofSegments
  dsimp only
  rw [List.foldl_cons, hfirst, foldl_add h (List.cons_ne_nil _ _), hends]
  obtain ⟨first, more, hsegments⟩ := List.exists_cons_of_ne_nil hne
  have hfirst : first ≠ [] := (h first (by simp [hsegments])).nonempty
  unfold LocalPath.segments
  simp [hsegments, hfirst]

/-- **The segments denote the path that they make**, if it does not end as a drive does. -/
theorem localPath_eq (h : ∀ byte ∈ (pathBytes segments).getLast?, byte ≠ 0x3A ∧ byte ≠ 0x7C) :
    localPath segments = pathBytes segments := by
  unfold localPath
  dsimp only
  rw [show segments.flatMap (fun segment => 0x2F :: decode segment) = pathBytes segments from rfl]
  split
  · next mark letter _ _ hreverse =>
    have hlast : (pathBytes segments).getLast? = some mark := by
      rw [← List.head?_reverse, hreverse]
      rfl
    obtain ⟨hcolon, hbar⟩ := h mark hlast
    have hdrive : isDrive [Char.ofNat letter.toNat, Char.ofNat mark.toNat] = false := by
      have hne : ∀ byte : UInt8, mark ≠ byte → Char.ofNat mark.toNat ≠ Char.ofNat byte.toNat := by
        intro byte hbyte heq
        have hnat := congrArg Char.toNat heq
        have hmark := mark.toNat_lt
        have hlt := byte.toNat_lt
        rw [Char.toNat_ofNat, Char.toNat_ofNat, if_pos (Or.inl (by omega)),
          if_pos (Or.inl (by omega))] at hnat
        exact hbyte (UInt8.toNat_inj.1 hnat)
      have hmarks : Char.ofNat mark.toNat ≠ ':' ∧ Char.ofNat mark.toNat ≠ '|' :=
        ⟨hne 0x3A hcolon, hne 0x7C hbar⟩
      simp [isDrive, hmarks]
    simp only [hdrive, Bool.false_eq_true, if_false]
  · rfl

end Segments

/-! ## Paths -/

/-- Texts with a separator before each of them are found again. -/
theorem splitOn_append_flatMap {separator : Char} {first : List Char} {pieces : List (List Char)}
    (hfirst : separator ∉ first) (h : ∀ piece ∈ pieces, separator ∉ piece) :
    splitOn separator (first ++ pieces.flatMap (separator :: ·)) = first :: pieces := by
  induction pieces generalizing first with
  | nil => simp [splitOn_of_not_mem hfirst]
  | cons piece rest ih =>
    obtain ⟨hpiece, hrest⟩ := List.forall_mem_cons.1 h
    rw [List.flatMap_cons, List.cons_append, splitOn_append_cons hfirst, ih hpiece hrest]

theorem splitOn_flatMap {separator : Char} {pieces : List (List Char)}
    (h : ∀ piece ∈ pieces, separator ∉ piece) :
    splitOn separator (pieces.flatMap (separator :: ·)) = [] :: pieces :=
  splitOn_append_flatMap List.not_mem_nil h

/-- Without a host the path begins at the third slash. -/
theorem readFile?_of_slash {rest : List Char} :
    readFile? ('/' :: '/' :: '/' :: rest) =
      some (.file false (LocalPath.segments
        (LocalPath.ofSegments (splitAtSlashes (cutPath ('/' :: rest)).1)))) := by
  have hslash : ∀ text : List Char, cutSlash? ('/' :: text) = some text := fun _ => rfl
  unfold readFile?
  dsimp only
  rw [hslash]
  dsimp only
  rw [hslash]
  rfl

section Paths

variable {path : List Char}

/-- Slashes and characters of segments: none of them ends a path. -/
theorem splitAtSlashes_path (h : ∀ c ∈ path, c = '/' ∨ isSegmentChar c = true) :
    splitAtSlashes (cutPath path).1 = splitOn '/' path := by
  have hne : ∀ c ∈ path, ∀ d : Char, d ≠ '/' → isSegmentChar d = false → c ≠ d := by
    intro c hc d hslash hd
    rcases h c hc with rfl | hplain
    · exact Ne.symm hslash
    · exact ne_of_isSegmentChar hplain hd
  have hcut : (cutPath path).1 = path := by
    unfold cutPath
    dsimp only
    apply List.takeWhile_eq_self_iff.2
    intro c hc
    simp [hne c hc '?' (by decide) (by decide), hne c hc '#' (by decide) (by decide)]
  have hmap : (path.map fun c => if c = '\\' then '/' else c) = path := by
    conv_rhs => rw [← List.map_id path]
    apply List.map_congr_left
    intro c hc
    exact if_neg (hne c hc '\\' (by decide) (by decide))
  unfold splitAtSlashes
  rw [hcut, hmap]

/-- No blank or control stands at the end of a path. -/
theorem behind_path (h : ∀ c ∈ path, c = '/' ∨ isSegmentChar c = true) (hne : path ≠ [])
    (before : List Char) : behind (before ++ path) = before ++ path := by
  obtain ⟨front, last, hsplit⟩ := (List.eq_nil_or_concat' path).resolve_left hne
  have hlast : ¬ last ≤ ' ' := by
    rcases h last (by simp [hsplit]) with rfl | hplain
    · decide
    · have hrange := toNat_of_isSegmentChar hplain
      exact not_le_blank (by omega)
  unfold behind
  rw [hsplit, ← List.append_assoc, List.reverse_append, List.reverse_singleton,
    List.singleton_append, List.dropWhile_cons_of_neg (by simp [hlast])]
  simp

end Paths

theorem under_file {text : String} {rest : List Char} (h : text.toList = "file:".toList ++ rest) :
    Under "file".toList rest text := by
  have hletters : ['i', 'l', 'e'].all Char.isAlphanum = true := rfl
  exact ⟨"file".toList,
    ⟨'f', ['i', 'l', 'e'], rfl, rfl, fun c hc => Or.inl (List.all_eq_true.1 hletters c hc)⟩, h, rfl⟩

/-- **A `file` address without a host denotes what its segments stand for.** -/
theorem decodesPath_reader : DecodesPath reader := by
  intro text segments hne hsegments hlast htext
  obtain ⟨first, more, hcons⟩ := List.exists_cons_of_ne_nil hne
  have hchars : ∀ c ∈ segments.flatMap ('/' :: ·), c = '/' ∨ isSegmentChar c = true := by
    intro c hc
    obtain ⟨segment, hsegment, hmem⟩ := List.mem_flatMap.1 hc
    rcases List.mem_cons.1 hmem with rfl | hmem
    · exact Or.inl rfl
    · rcases hsegments with hall | rfl
      · exact Or.inr (chars_of_isSegment (hall segment hsegment) c hmem)
      · obtain rfl := List.mem_singleton.1 hsegment
        cases hmem
  have hpath : segments.flatMap ('/' :: ·) = '/' :: (first ++ more.flatMap ('/' :: ·)) := by
    rw [hcons]
    rfl
  have hnonempty : segments.flatMap ('/' :: ·) ≠ [] := by
    rw [hpath]
    exact List.cons_ne_nil _ _
  have hread : read? text = some (.file false segments) := by
    have hfile : LocalPath.segments (LocalPath.ofSegments
        (splitOn '/' (segments.flatMap ('/' :: ·)))) = segments := by
      rcases hsegments with hall | rfl
      · rw [splitOn_flatMap fun segment hsegment => no_slash_of_isSegment (hall segment hsegment),
          segments_ofSegments hall hne]
      · rfl
    have hunder : Under "file".toList (['/', '/'] ++ segments.flatMap ('/' :: ·)) text := by
      apply under_file
      rw [htext]
      rfl
    rw [read?_of_under hunder, if_neg (by decide), if_pos rfl, behind_path hchars hnonempty, hpath]
    rw [hpath] at hchars hfile
    show readFile? ('/' :: '/' :: '/' :: _) = _
    rw [readFile?_of_slash, splitAtSlashes_path hchars, hfile]
  refine ⟨_, congrArg (Option.map (url text)) hread, rfl, ?_⟩
  exact congrArg some (localPath_eq hlast)

theorem exists_cons_localPath {segments : List (List Char)} (h : segments ≠ []) :
    ∃ rest, localPath segments = 0x2F :: rest := by
  obtain ⟨first, more, rfl⟩ := List.exists_cons_of_ne_nil h
  unfold localPath
  rw [List.flatMap_cons, List.cons_append]
  dsimp only
  repeat' split
  all_goals exact ⟨_, rfl⟩

/-- **The path of an address is absolute**, whatever its segments are. -/
theorem denotesAbsolutePaths_reader : DenotesAbsolutePaths reader := by
  intro text url path hread hpath
  obtain ⟨address, haddress, rfl⟩ := Option.map_eq_some_iff.1 hread
  cases address with
  | https normal => cases hpath
  | other scheme => cases hpath
  | file remote segments =>
    have hne : segments ≠ [] := segments_ne_nil_of_read? haddress
    cases remote with
    | true => cases hpath
    | false =>
      obtain rfl := Option.some.inj hpath
      exact exists_cons_localPath hne

end Address
end SshTemplate
