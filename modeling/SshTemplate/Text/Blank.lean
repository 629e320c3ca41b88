/-!
# `Text.Blank` — blanks, and cutting text at them

Every reader in this library starts by asking where the blanks are: lines are trimmed before they
are classified, arguments are separated by them, a `<name>` span may not hold one. All of them ask
the same predicate, `isBlank`, so that "blank" cannot mean two things in two stages — trimming that
disagreed with the argument reader would make a line's surroundings visible in its meaning.

Text is handled here as `List Char`. The library stores `String`s and crosses over with `toList`
and `String.ofList` at the edge of each operation. Cutting and splitting lose nothing but what they
cut at (`eq_append_of_cutFirst?`, `intercalate_splitOn`).
-/

set_option autoImplicit false

namespace SshTemplate
namespace Text

/-! ## The class of blanks -/

/-- Unicode's `White_Space` property: 25 characters, a carriage return and a no-break space among
    them, a zero-width space not. -/
def isBlank (c : Char) : Bool :=
  let n := c.toNat
  (0x09 ≤ n && n ≤ 0x0D) || n == 0x20 || n == 0x85 || n == 0xA0 || n == 0x1680 ||
    (0x2000 ≤ n && n ≤ 0x200A) || n == 0x2028 || n == 0x2029 || n == 0x202F || n == 0x205F ||
    n == 0x3000

/-! ## Trimming -/

def trimStart (s : List Char) : List Char := s.dropWhile isBlank

def trimEnd (s : List Char) : List Char := (s.reverse.dropWhile isBlank).reverse

def trim (s : List Char) : List Char := trimEnd (trimStart s)

/-! ## Cutting -/

/-- The text before and after the first character of the class `p`, which belongs to neither. -/
def cutFirst? (p : Char → Bool) : List Char → Option (List Char × List Char)
  | [] => none
  | c :: rest =>
    if p c then some ([], rest) else (cutFirst? p rest).map fun cut => (c :: cut.1, cut.2)

theorem cutFirst?_eq_none_iff {p : Char → Bool} {s : List Char} :
    cutFirst? p s = none ↔ ∀ c ∈ s, p c = false := by
  induction s with
  | nil => simp [cutFirst?]
  | cons c rest ih =>
    unfold cutFirst?
    cases h : p c <;> simp [h, ih]

/-- A cut takes out one character of the class, and there is none before it. -/
theorem eq_append_of_cutFirst? {p : Char → Bool} {s before after : List Char}
    (h : cutFirst? p s = some (before, after)) :
    ∃ c, p c = true ∧ s = before ++ c :: after ∧ ∀ b ∈ before, p b = false := by
  induction s generalizing before with
  | nil => simp [cutFirst?] at h
  | cons c rest ih =>
    unfold cutFirst? at h
    cases hc : p c with
    | true =>
      simp only [hc, if_true, Option.some.injEq, Prod.mk.injEq] at h
      obtain ⟨rfl, rfl⟩ := h
      exact ⟨c, hc, rfl, by simp⟩
    | false =>
      simp only [hc, Bool.false_eq_true, if_false, Option.map_eq_some_iff, Prod.mk.injEq,
        Prod.exists] at h
      obtain ⟨front, back, hcut, rfl, rfl⟩ := h
      obtain ⟨d, hd, rfl, hfront⟩ := ih hcut
      refine ⟨d, hd, rfl, fun b hb => ?_⟩
      rcases List.mem_cons.1 hb with rfl | hb
      · exact hc
      · exact hfront b hb

/-- The first character of the class is found, whatever follows it. -/
theorem cutFirst?_append_cons {p : Char → Bool} {before : List Char} {c : Char}
    (hbefore : ∀ b ∈ before, p b = false) (hc : p c = true) (after : List Char) :
    cutFirst? p (before ++ c :: after) = some (before, after) := by
  induction before with
  | nil => simp [cutFirst?, hc]
  | cons b rest ih =>
    obtain ⟨hb, hrest⟩ := List.forall_mem_cons.1 hbefore
    simp [cutFirst?, hb, ih hrest]

/-- The same at the last character of the class. -/
def cutLast? (p : Char → Bool) (s : List Char) : Option (List Char × List Char) :=
  (cutFirst? p s.reverse).map fun cut => (cut.2.reverse, cut.1.reverse)

theorem cutLast?_eq_none_iff {p : Char → Bool} {s : List Char} :
    cutLast? p s = none ↔ ∀ c ∈ s, p c = false := by
  unfold cutLast?
  rw [Option.map_eq_none_iff, cutFirst?_eq_none_iff]
  simp only [List.mem_reverse]

theorem cutLast?_eq_some_iff {p : Char → Bool} {s before after : List Char} :
    cutLast? p s = some (before, after) ↔
      ∃ c, p c = true ∧ s = before ++ c :: after ∧ ∀ b ∈ after, p b = false := by
  constructor
  · intro h
    obtain ⟨⟨back, front⟩, hcut, heq⟩ := Option.map_eq_some_iff.1 h
    obtain ⟨rfl, rfl⟩ := Prod.mk.inj heq
    obtain ⟨c, hc, hsplit, hback⟩ := eq_append_of_cutFirst? hcut
    refine ⟨c, hc, ?_, fun b hb => hback b (List.mem_reverse.1 hb)⟩
    rw [← List.reverse_reverse s, hsplit]
    simp
  · rintro ⟨c, hc, rfl, hafter⟩
    have hback : ∀ b ∈ after.reverse, p b = false := fun b hb => hafter b (List.mem_reverse.1 hb)
    have hreverse : (before ++ c :: after).reverse = after.reverse ++ c :: before.reverse := by simp
    unfold cutLast?
    rw [hreverse, cutFirst?_append_cons hback hc]
    simp

/-- The pieces between the characters `separator`: one more than there are of them, so a text
    without any is its own single piece. Bytes are split in the same way. -/
def splitOn {α : Type} [DecidableEq α] (separator : α) : List α → List (List α)
  | [] => [[]]
  | c :: rest =>
    if c = separator then [] :: splitOn separator rest
    else
      match splitOn separator rest with
      | [] => [[c]]
      | piece :: pieces => (c :: piece) :: pieces

theorem splitOn_ne_nil (separator : Char) (s : List Char) : splitOn separator s ≠ [] := by
  cases s with
  | nil => simp [splitOn]
  | cons c rest =>
    unfold splitOn
    split
    · simp
    · split <;> simp

/-- The pieces, with the separator put back between them, are the text. -/
theorem intercalate_splitOn (separator : Char) (s : List Char) :
    [separator].intercalate (splitOn separator s) = s := by
  induction s with
  | nil => rfl
  | cons c rest ih =>
    cases hpieces : splitOn separator rest with
    | nil => exact absurd hpieces (splitOn_ne_nil separator rest)
    | cons piece pieces =>
      rw [hpieces] at ih
      unfold splitOn
      by_cases h : c = separator
      · rw [if_pos h, hpieces, h, List.intercalate_cons_cons, ih]
        rfl
      · rw [if_neg h, hpieces]
        cases pieces with
        | nil => simpa using ih
        | cons next others =>
          rw [List.intercalate_cons_cons] at ih ⊢
          rw [List.append_assoc, List.cons_append, ← List.append_assoc, ih]

/-- No piece holds the character that was split at. -/
theorem not_mem_of_mem_splitOn {separator : Char} {s piece : List Char}
    (h : piece ∈ splitOn separator s) : separator ∉ piece := by
  induction s generalizing piece with
  | nil =>
    obtain rfl : piece = [] := by simpa [splitOn] using h
    exact List.not_mem_nil
  | cons c rest ih =>
    unfold splitOn at h
    by_cases hc : c = separator
    · rw [if_pos hc] at h
      rcases List.mem_cons.1 h with rfl | h
      · exact List.not_mem_nil
      · exact ih h
    · rw [if_neg hc] at h
      cases hpieces : splitOn separator rest with
      | nil => exact absurd hpieces (splitOn_ne_nil separator rest)
      | cons first more =>
        rw [hpieces] at h ih
        rcases List.mem_cons.1 h with rfl | h
        · intro hmem
          rcases List.mem_cons.1 hmem with heq | hmem
          · exact hc heq.symm
          · exact ih (List.mem_cons_self ..) hmem
        · exact ih (List.mem_cons_of_mem _ h)

theorem splitOn_of_not_mem {separator : Char} {s : List Char} (h : separator ∉ s) :
    splitOn separator s = [s] := by
  induction s with
  | nil => rfl
  | cons c rest ih =>
    obtain ⟨hc, hrest⟩ := not_or.1 (mt List.mem_cons.2 h)
    rw [splitOn, if_neg (Ne.symm hc), ih hrest]

theorem splitOn_append_cons {separator : Char} {s : List Char} (h : separator ∉ s)
    (rest : List Char) :
    splitOn separator (s ++ separator :: rest) = s :: splitOn separator rest := by
  induction s with
  | nil => rw [List.nil_append, splitOn, if_pos rfl]
  | cons c more ih =>
    obtain ⟨hc, hmore⟩ := not_or.1 (mt List.mem_cons.2 h)
    rw [List.cons_append, splitOn, if_neg (Ne.symm hc), ih hmore]

/-- Pieces that are put together are found again. -/
theorem splitOn_intercalate {separator : Char} {pieces : List (List Char)}
    (h : ∀ piece ∈ pieces, separator ∉ piece) (hne : pieces ≠ []) :
    splitOn separator ([separator].intercalate pieces) = pieces := by
  induction pieces with
  | nil => exact absurd rfl hne
  | cons piece rest ih =>
    obtain ⟨hpiece, hrest⟩ := List.forall_mem_cons.1 h
    cases rest with
    | nil =>
      rw [List.intercalate_singleton]
      exact splitOn_of_not_mem hpiece
    | cons second more =>
      rw [List.intercalate_cons_cons, List.append_assoc, List.singleton_append,
        splitOn_append_cons hpiece, ih hrest (by simp)]

/-- The maximal runs without blanks. `word` is the run being read, last character first. -/
def wordsFrom (word : List Char) : List Char → List (List Char)
  | [] => if word.isEmpty then [] else [word.reverse]
  | c :: rest =>
    if isBlank c then
      if word.isEmpty then wordsFrom [] rest else word.reverse :: wordsFrom [] rest
    else wordsFrom (c :: word) rest

def words (s : List Char) : List (List Char) := wordsFrom [] s

/-- The lines of a document. They end at `\n`; a `\r` before it stays with its line, where it is
    blank and falls to `trim`. -/
def lines (text : String) : List String := (splitOn '\n' text.toList).map String.ofList

/-- Some of the lines of a text, put together, are the lines of what comes of it. -/
theorem lines_intercalate {text : String} {kept : List String} (h : kept.Sublist (lines text))
    (hne : kept ≠ []) : lines ("\n".intercalate kept) = kept := by
  have hpieces : ∀ piece ∈ kept.map String.toList, '\n' ∉ piece := by
    intro chars hchars
    obtain ⟨line, hline, rfl⟩ := List.mem_map.1 hchars
    obtain ⟨piece, hpiece, rfl⟩ := List.mem_map.1 (h.subset hline)
    rw [String.toList_ofList]
    exact not_mem_of_mem_splitOn hpiece
  have hsplit := splitOn_intercalate hpieces (by simpa using hne)
  unfold lines
  rw [String.toList_intercalate]
  show (splitOn '\n' (['\n'].intercalate _)).map String.ofList = kept
  rw [hsplit, List.map_map]
  simp [Function.comp_def]

end Text
end SshTemplate
