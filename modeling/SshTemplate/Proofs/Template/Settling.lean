import SshTemplate.Proofs.Template.Filling

/-!
# `Proofs.Template.Settling` — replacing what is bound now, and the rest later

Some texts are replaced twice: by what is bound where they are written, and again when a host is
written. Of substitutions on terms one would expect that the two together are one, with the later
lookup asked for what the earlier one does not know. Here that is not so, because what the first
one leaves is text and is read again: a value may hold a span, or may complete one with what stands
around it.

`Settled` says that neither happens, and then the two are one (`Settled.replaced_replaced`). It is
enough that no `<` is written outside of spans or comes with a value (`settled_of_values`); the
spans that are left over are read as they were.
-/

set_option autoImplicit false

namespace SshTemplate
namespace Template

open Text

variable {early late : String → Option String} {text : List Char}

/-! ## Settled texts -/

/-- The pieces that a piece becomes, if its value is not read again. -/
def settle (lookup : String → Option String) : Piece → List Piece
  | .char c => [.char c]
  | .span name =>
    match lookup (String.ofList name) with
    | some value => value.toList.map .char
    | none => [.span name]

/-- Replacing what is bound brings about no span: what is left are the spans that are not. -/
def Settled (lookup : String → Option String) (text : List Char) : Prop :=
  pieces (replaced lookup text) = (pieces text).flatMap (settle lookup)

instance (lookup : String → Option String) (text : List Char) : Decidable (Settled lookup text) :=
  inferInstanceAs (Decidable (pieces (replaced lookup text) = _))

/-- The later lookup is asked for what the earlier one does not know. -/
def eitherOf (early late : String → Option String) (name : String) : Option String :=
  (early name).or (late name)

theorem settle_of_some {name : List Char} {value : String}
    (h : early (String.ofList name) = some value) :
    settle early (.span name) = value.toList.map .char := by
  simp only [settle, h]

theorem settle_of_none {name : List Char} (h : early (String.ofList name) = none) :
    settle early (.span name) = [.span name] := by
  simp only [settle, h]

theorem eitherOf_of_some {name value : String} (h : early name = some value) :
    eitherOf early late name = some value := by
  simp [eitherOf, h]

theorem eitherOf_of_none {name : String} (h : early name = none) :
    eitherOf early late name = late name := by
  simp [eitherOf, h]

theorem flatMap_replaceKnown_settle (piece : Piece) :
    (settle early piece).flatMap (replaceKnown late) =
      replaceKnown (eitherOf early late) piece := by
  cases piece with
  | char c => rfl
  | span name =>
    cases hearly : early (String.ofList name) with
    | some value =>
      rw [settle_of_some hearly, replaceKnown_of_some (eitherOf_of_some hearly), List.flatMap_map]
      exact List.flatMap_singleton' value.toList
    | none =>
      rw [settle_of_none hearly, List.flatMap_singleton, replaceKnown, replaceKnown,
        eitherOf_of_none hearly]

/-- **In a settled text, replacing twice is replacing once.** -/
theorem Settled.replaced_replaced (h : Settled early text) :
    replaced late (replaced early text) = replaced (eitherOf early late) text := by
  unfold Settled at h
  unfold replaced at h ⊢
  rw [h, List.flatMap_assoc]
  exact List.flatMap_congr fun piece _ => flatMap_replaceKnown_settle piece

theorem Settled.substituteBound_substituteBound {text : String} (h : Settled early text.toList) :
    substituteBound late (substituteBound early text) =
      substituteBound (eitherOf early late) text := by
  apply String.toList_inj.1
  rw [toList_substituteBound, toList_substituteBound, toList_substituteBound, h.replaced_replaced]

/-! ## Reading pieces again -/

/-- A piece that is read as itself: a character that opens nothing, or a span with a name. -/
def Piece.Proper : Piece → Prop
  | .char c => c ≠ '<'
  | .span name => name ≠ [] ∧ ∀ c ∈ name, isNameChar c = true

theorem isNameChar_ne {c : Char} (h : isNameChar c = true) : c ≠ '<' ∧ c ≠ '>' := by
  constructor <;> (rintro rfl; exact absurd h (by decide))

theorem piecesFrom_some_append {chars : List Char} (h : ∀ c ∈ chars, isNameChar c = true)
    (name rest : List Char) :
    piecesFrom (some name) (chars ++ rest) = piecesFrom (some (chars.reverse ++ name)) rest := by
  induction chars generalizing name with
  | nil => rfl
  | cons c more ih =>
    obtain ⟨hc, hmore⟩ := List.forall_mem_cons.1 h
    obtain ⟨hlt, hgt⟩ := isNameChar_ne hc
    rw [List.cons_append, piecesFrom]
    simp only [hlt, hgt, hc, decide_false, Bool.false_and, Bool.false_eq_true, if_false, if_true]
    rw [ih hmore]
    simp

/-- What is opened is closed by `>`, if it has a name. -/
theorem piecesFrom_some_span {name : List Char} (h : (Piece.span name).Proper) (rest : List Char) :
    piecesFrom (some []) (name ++ '>' :: rest) = .span name :: pieces rest := by
  obtain ⟨hne, hname⟩ := h
  rw [piecesFrom_some_append hname, piecesFrom]
  simp [hne, pieces]

theorem piecesFrom_none_append {chars : List Char} (h : '<' ∉ chars) (rest : List Char) :
    piecesFrom none (chars ++ rest) = chars.map .char ++ piecesFrom none rest := by
  induction chars with
  | nil => rfl
  | cons c more ih =>
    obtain ⟨hc, hmore⟩ := not_or.1 (mt List.mem_cons.2 h)
    simp [piecesFrom, Ne.symm hc, ih hmore]

/-- **Proper pieces are read again as they were written.** -/
theorem pieces_flatMap_written {read : List Piece} (h : ∀ piece ∈ read, piece.Proper) :
    pieces (read.flatMap Piece.written) = read := by
  induction read with
  | nil => rfl
  | cons piece rest ih =>
    obtain ⟨hpiece, hrest⟩ := List.forall_mem_cons.1 h
    have htail : piecesFrom none (rest.flatMap Piece.written) = rest := ih hrest
    rw [List.flatMap_cons]
    cases piece with
    | char c =>
      have hnot : '<' ∉ [c] := fun hmem => hpiece (List.mem_singleton.1 hmem).symm
      exact (piecesFrom_none_append hnot _).trans (congrArg _ htail)
    | span name =>
      have hopen : pieces ((Piece.span name).written ++ rest.flatMap Piece.written) =
          piecesFrom (some []) (name ++ '>' :: rest.flatMap Piece.written) := by
        simp [pieces, Piece.written, piecesFrom]
      rw [hopen, piecesFrom_some_span hpiece]
      exact congrArg _ htail

/-- Every span that is read has a name. -/
theorem proper_of_mem_piecesFrom {opened : Option (List Char)}
    (hopened : ∀ name ∈ opened, ∀ c ∈ name, isNameChar c = true) {name : List Char}
    (h : Piece.span name ∈ piecesFrom opened text) : (Piece.span name).Proper := by
  have habandoned : ∀ other : List Char, Piece.span name ∉ abandoned other := by
    simp [abandoned]
  have hnone : ∀ other ∈ (none : Option (List Char)), ∀ c ∈ other, isNameChar c = true := by
    simp
  have hempty : ∀ other ∈ some ([] : List Char), ∀ c ∈ other, isNameChar c = true := by
    simp
  fun_induction piecesFrom opened text with
  | case1 opened =>
    cases opened with
    | none => exact absurd h List.not_mem_nil
    | some other => exact absurd h (habandoned other)
  | case2 rest ih => exact ih hempty h
  | case3 c rest hc ih => exact ih hnone ((List.mem_cons.1 h).resolve_left (by simp))
  | case4 rest other ih =>
    exact ih hempty ((List.mem_append.1 h).resolve_left (habandoned other))
  | case5 c rest other hlt hgt ih =>
    rcases List.mem_cons.1 h with hspan | hrest
    · obtain rfl := Piece.span.inj hspan
      have hne : other ≠ [] := by
        rintro rfl
        simp at hgt
      refine ⟨by simpa using hne, fun d hd => ?_⟩
      exact hopened other rfl d (List.mem_reverse.1 hd)
    · exact ih hnone hrest
  | case6 c rest other hlt hgt hname ih =>
    refine ih (fun longer hlonger => ?_) h
    obtain rfl := Option.some.inj hlonger
    exact List.forall_mem_cons.2 ⟨hname, hopened other rfl⟩
  | case7 c rest other hlt hgt hname ih =>
    have hbehind := (List.mem_append.1 h).resolve_left (habandoned other)
    exact ih hnone ((List.mem_cons.1 hbehind).resolve_left (by simp))

theorem flatMap_written_settle (piece : Piece) :
    (settle early piece).flatMap Piece.written = replaceKnown early piece := by
  have hwritten : Piece.written = replaceKnown fun _ => none := by
    funext piece
    cases piece <;> rfl
  have hearly : eitherOf early (fun _ => none) = early := by
    funext name
    simp [eitherOf]
  rw [hwritten, flatMap_replaceKnown_settle, hearly]

/-- **Without a stray `<`, replacing brings about no span**, if none comes with a value either. Only
    the values count that are filled in. -/
theorem settled_of_values (htext : Piece.char '<' ∉ pieces text)
    (hvalues : ∀ name value, Piece.span name ∈ pieces text →
      early (String.ofList name) = some value → '<' ∉ value.toList) :
    Settled early text := by
  have hproper : ∀ piece ∈ (pieces text).flatMap (settle early), piece.Proper := by
    intro piece hpiece
    obtain ⟨before, hbefore, hpiece⟩ := List.mem_flatMap.1 hpiece
    cases before with
    | char c =>
      obtain rfl := List.mem_singleton.1 hpiece
      rintro rfl
      exact htext hbefore
    | span name =>
      cases hvalue : early (String.ofList name) with
      | some value =>
        rw [settle_of_some hvalue] at hpiece
        obtain ⟨c, hc, rfl⟩ := List.mem_map.1 hpiece
        rintro rfl
        exact hvalues name value hbefore hvalue hc
      | none =>
        rw [settle_of_none hvalue] at hpiece
        obtain rfl := List.mem_singleton.1 hpiece
        exact proper_of_mem_piecesFrom (by simp) hbefore
  have hwritten : replaced early text =
      ((pieces text).flatMap (settle early)).flatMap Piece.written := by
    rw [List.flatMap_assoc]
    exact List.flatMap_congr fun piece _ => (flatMap_written_settle piece).symm
  unfold Settled
  rw [hwritten, pieces_flatMap_written hproper]

theorem settled_of_not_mem (htext : Piece.char '<' ∉ pieces text)
    (hvalues : ∀ name value, early name = some value → '<' ∉ value.toList) :
    Settled early text :=
  settled_of_values htext fun _ value _ hvalue => hvalues _ value hvalue

end Template
end SshTemplate
