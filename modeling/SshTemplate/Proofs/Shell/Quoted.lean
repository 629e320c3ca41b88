import SshTemplate.Proofs.Shell.Reading
import SshTemplate.Proofs.Template.Settling

/-!
# `Proofs.Shell.Quoted` — filling a text that has been quoted

Quoting is for the end, when the text is complete. Here it comes first: a gateway is quoted where it
is read, with spans in it that are filled when a host is written. What is filled in is not quoted
any more, and it stands between quotes.

Quoting works on characters and so it commutes with reading into pieces (`pieces_quoted`). Where no
name of a span and no value holds a single quote, quoting changes none of them, and so it commutes
with filling as well (`QuoteFree.replaced_quoted`): the text is the one that would have come of
quoting at the end, and it spells one word, the filled text (`spells_filled`).
-/

set_option autoImplicit false

namespace SshTemplate
namespace Shell

open Template

variable {lookup : String → Option String} {text : List Char}

/-! ## Pieces of a quoted text -/

/-- The pieces that a piece becomes where the text is quoted. -/
def quotedPiece : Piece → List Piece
  | .char c => (quoteChar c).map .char
  | .span name => [.span (name.flatMap quoteChar)]

theorem reverse_flatMap_quoteChar (chars : List Char) :
    (chars.flatMap quoteChar).reverse = chars.reverse.flatMap quoteChar := by
  have hsame : List.reverse ∘ quoteChar = quoteChar := by
    funext c
    simp only [Function.comp_apply, quoteChar]
    split <;> rfl
  rw [List.reverse_flatMap, hsame]

theorem quoteChar_of_ne {c : Char} (h : c ≠ '\'') : quoteChar c = [c] := if_neg h

theorem flatMap_quoteChar_of_not_mem {chars : List Char} (h : '\'' ∉ chars) :
    chars.flatMap quoteChar = chars := by
  have hsingle : ∀ c ∈ chars, quoteChar c = [c] := by
    intro c hc
    refine quoteChar_of_ne ?_
    rintro rfl
    exact h hc
  rw [List.flatMap_congr hsingle]
  exact List.flatMap_singleton' chars

/-- Quoting leaves nothing out. -/
theorem isEmpty_flatMap_quoteChar (chars : List Char) :
    (chars.flatMap quoteChar).isEmpty = chars.isEmpty := by
  cases chars with
  | nil => rfl
  | cons c more =>
    rw [List.flatMap_cons, quoteChar]
    split <;> rfl

/-- Whatever can stand in a name can stand there quoted. -/
theorem isNameChar_quoteChar {c : Char} (h : isNameChar c = true) :
    ∀ d ∈ quoteChar c, isNameChar d = true := by
  have hmarks : isNameChar '\'' = true ∧ isNameChar '"' = true := by decide
  unfold quoteChar
  split
  · simp [hmarks]
  · simpa using h

/-- What can stand in no name is not changed. -/
theorem quoteChar_of_not_isNameChar {c : Char} (h : isNameChar c ≠ true) : quoteChar c = [c] := by
  refine quoteChar_of_ne ?_
  rintro rfl
  exact h (by decide)

theorem abandoned_flatMap_quoteChar (name : List Char) :
    abandoned (name.flatMap quoteChar) = (abandoned name).flatMap quotedPiece := by
  unfold abandoned
  rw [reverse_flatMap_quoteChar, List.flatMap_cons, List.flatMap_map, List.map_flatMap]
  rfl

theorem piecesFrom_quoted (opened : Option (List Char)) (text : List Char) :
    piecesFrom (opened.map (·.flatMap quoteChar)) (text.flatMap quoteChar) =
      (piecesFrom opened text).flatMap quotedPiece := by
  fun_induction piecesFrom opened text with
  | case1 opened =>
    cases opened with
    | none => rfl
    | some name => exact abandoned_flatMap_quoteChar name
  | case2 rest ih => simpa [quoteChar, piecesFrom] using ih
  | case3 c rest hc ih =>
    have hquoted : '<' ∉ quoteChar c := by
      unfold quoteChar
      split
      · decide
      · simpa using Ne.symm hc
    rw [List.flatMap_cons, Option.map_none, piecesFrom_none_append hquoted, List.flatMap_cons]
    exact congrArg _ ih
  | case4 rest name ih =>
    rw [List.flatMap_append, ← abandoned_flatMap_quoteChar, ← ih]
    simp [quoteChar, piecesFrom]
  | case5 c rest name hlt hgt ih =>
    have hclose : c ≠ '\'' := by
      rintro rfl
      simp at hgt
    rw [List.flatMap_cons, quoteChar_of_ne hclose, Option.map_some, List.singleton_append, piecesFrom,
      if_neg hlt, isEmpty_flatMap_quoteChar, if_pos hgt, reverse_flatMap_quoteChar]
    exact congrArg _ ih
  | case6 c rest name hlt hgt hname ih =>
    have hreverse : (quoteChar c).reverse = quoteChar c := by
      simpa using reverse_flatMap_quoteChar [c]
    rw [← ih, Option.map_some, List.flatMap_cons,
      piecesFrom_some_append (isNameChar_quoteChar hname), hreverse]
    rfl
  | case7 c rest name hlt hgt hname ih =>
    rw [List.flatMap_append, ← abandoned_flatMap_quoteChar, List.flatMap_cons, List.flatMap_cons,
      ← ih, quotedPiece, quoteChar_of_not_isNameChar hname, Option.map_some, List.singleton_append,
      piecesFrom, if_neg hlt, isEmpty_flatMap_quoteChar, if_neg hgt, if_neg hname]
    rfl

/-- **Quoting and reading into pieces commute.** -/
theorem pieces_quoted (text : List Char) :
    pieces (text.flatMap quoteChar) = (pieces text).flatMap quotedPiece :=
  piecesFrom_quoted none text

/-- What begins and ends a quoted text is no part of its spans. -/
theorem pieces_between_quotes (text : List Char) :
    pieces ('\'' :: text ++ ['\'']) = .char '\'' :: pieces text ++ [.char '\''] := by
  have hquote : isNameChar '\'' = true := by decide
  have hlast : ∀ opened : Option (List Char), piecesFrom opened (text ++ ['\'']) =
      piecesFrom opened text ++ [.char '\''] := by
    intro opened
    fun_induction piecesFrom opened text with
    | case1 opened =>
      cases opened with
      | none => rfl
      | some name => simp [piecesFrom, hquote, abandoned]
    | case2 rest ih => simpa [piecesFrom] using ih
    | case3 c rest hc ih => simpa [piecesFrom, hc] using ih
    | case4 rest name ih => simpa [piecesFrom] using ih
    | case5 c rest name hlt hgt ih => simpa [piecesFrom, hlt, hgt] using ih
    | case6 c rest name hlt hgt hname ih => simpa [piecesFrom, hlt, hgt, hname] using ih
    | case7 c rest name hlt hgt hname ih => simpa [piecesFrom, hlt, hgt, hname] using ih
  have hfirst : pieces ('\'' :: text ++ ['\'']) =
      .char '\'' :: piecesFrom none (text ++ ['\'']) := by
    simp [pieces, piecesFrom]
  rw [hfirst, hlast]
  rfl

/-! ## Filling -/

/-- The span is not named with a single quote, and not filled with one. -/
def QuoteFreePiece (lookup : String → Option String) : Piece → Prop
  | .char _ => True
  | .span name => '\'' ∉ name ∧ ∀ value ∈ lookup (String.ofList name), '\'' ∉ value.toList

instance (lookup : String → Option String) : DecidablePred (QuoteFreePiece lookup)
  | .char _ => inferInstanceAs (Decidable True)
  | .span name => inferInstanceAs
      (Decidable ('\'' ∉ name ∧ ∀ value ∈ lookup (String.ofList name), '\'' ∉ value.toList))

/-- No span of the text brings in a single quote. -/
def QuoteFree (lookup : String → Option String) (text : List Char) : Prop :=
  ∀ piece ∈ pieces text, QuoteFreePiece lookup piece

instance (lookup : String → Option String) (text : List Char) :
    Decidable (QuoteFree lookup text) :=
  inferInstanceAs (Decidable (∀ piece ∈ pieces text, QuoteFreePiece lookup piece))

theorem replaceKnown_quotedPiece {piece : Piece} (h : QuoteFreePiece lookup piece) :
    (quotedPiece piece).flatMap (replaceKnown lookup) =
      (replaceKnown lookup piece).flatMap quoteChar := by
  cases piece with
  | char c =>
    rw [quotedPiece, List.flatMap_map, replaceKnown, List.flatMap_singleton]
    exact List.flatMap_singleton' (quoteChar c)
  | span name =>
    obtain ⟨hname, hvalue⟩ := h
    rw [quotedPiece, List.flatMap_singleton, flatMap_quoteChar_of_not_mem hname]
    refine (flatMap_quoteChar_of_not_mem ?_).symm
    cases hlookup : lookup (String.ofList name) with
    | some value =>
      rw [replaceKnown_of_some hlookup]
      exact hvalue value hlookup
    | none =>
      rw [replaceKnown_of_none hlookup]
      simp [Piece.written, hname]

/-- **Quoting and filling commute** where what is filled in holds no single quote. -/
theorem QuoteFree.replaced_quoted (h : QuoteFree lookup text) :
    replaced lookup ('\'' :: text.flatMap quoteChar ++ ['\'']) =
      '\'' :: (replaced lookup text).flatMap quoteChar ++ ['\''] := by
  have hpieces : ((pieces text).flatMap quotedPiece).flatMap (replaceKnown lookup) =
      ((pieces text).flatMap (replaceKnown lookup)).flatMap quoteChar := by
    rw [List.flatMap_assoc, List.flatMap_assoc]
    exact List.flatMap_congr fun piece hpiece => replaceKnown_quotedPiece (h piece hpiece)
  unfold replaced
  rw [pieces_between_quotes, pieces_quoted, List.flatMap_append, List.flatMap_cons, hpieces]
  rfl

theorem spanless_of_not_mem (h : '<' ∉ text) : Spanless text := by
  intro piece hpiece
  cases piece with
  | char c => rfl
  | span name =>
    have hopen : '<' ∈ (pieces text).flatMap Piece.written :=
      List.mem_flatMap.2 ⟨_, hpiece, by simp [Piece.written]⟩
    rw [written_pieces] at hopen
    exact absurd hopen h

/-- Quoting makes no span. -/
theorem spanless_quote {value : String} (h : Spanless value.toList) :
    Spanless (quote value).toList := by
  unfold quote
  split
  · decide
  · split
    · exact h
    · rw [String.toList_ofList]
      intro piece hpiece
      rw [List.singleton_append, pieces_between_quotes, pieces_quoted] at hpiece
      rcases List.mem_append.1 hpiece with hpiece | hlast
      · rcases List.mem_cons.1 hpiece with rfl | hpiece
        · rfl
        · obtain ⟨source, hsource, hpiece⟩ := List.mem_flatMap.1 hpiece
          cases source with
          | char c =>
            obtain ⟨d, -, rfl⟩ := List.mem_map.1 hpiece
            rfl
          | span name => exact absurd (h _ hsource) (by simp [Piece.isSpan])
      · rw [List.mem_singleton.1 hlast]
        rfl

/-- **A quoted text that is filled spells the filled text**, where what is filled in holds no single
    quote. -/
theorem spells_filled {value : String} (h : QuoteFree lookup value.toList) :
    Spells (substituteBound lookup (quote value)).toList
      (substituteBound lookup value).toList := by
  unfold quote
  split
  · next hempty =>
    obtain rfl : value = "" := by simpa using hempty
    have hquotes : Spanless "''".toList := by decide
    have hnone : Spanless "".toList := by decide
    rw [hquotes.substituteBound, hnone.substituteBound]
    exact spells_quoted []
  · next hempty =>
    split
    · next hplain =>
      -- A plain text holds no span, so it is written as it is.
      have hspanless : Spanless value.toList := by
        refine spanless_of_not_mem fun hmem => ?_
        exact absurd (List.all_eq_true.1 hplain '<' hmem) (by decide)
      rw [hspanless.substituteBound]
      have hquoted := spells_quote value
      rwa [quote, if_neg hempty, if_pos hplain] at hquoted
    · rw [toList_substituteBound, toList_substituteBound, String.toList_ofList]
      have hfilled := h.replaced_quoted
      rw [List.singleton_append, hfilled]
      exact spells_quoted _

end Shell
end SshTemplate
