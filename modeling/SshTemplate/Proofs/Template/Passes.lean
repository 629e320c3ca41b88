import SshTemplate.Proofs.Template.Spans

/-!
# `Proofs.Template.Passes` — two passes are one

Gateways, values and the arguments of includes are filled twice: with what is bound where they are
read, and with the rest when a host is written. The second pass reads the output of the first. So
what it finds there could be a span that the text never had — one that a value brings along, or one
that a value closes which a bracket before it has opened. And where the text has to be complete in
the end, the error could be another one.

Neither happens in a text of which every `<` opens a span, if no value that is filled in early holds
a `<`. The first pass then leaves the spans that it does not know, in their order, and nothing else
that the second could take for one; so the two passes fill the same text, or miss the same name, as
one pass that asks both lookups (`two_passes_are_one`). A `>` in a value does no harm, because there
is no open bracket that it could close.
-/

set_option autoImplicit false

namespace SshTemplate
namespace Template

open Text

variable {early late : String → Option String} {text : List Char}

/-! ## Brackets that open a span -/

/-- Wherever a `<` stands in the text, a span begins. -/
def EveryBracketOpens (text : List Char) : Prop :=
  ∀ start, text[start]? = some '<' → ∃ name, SpanAt text start name

/-- Where the pieces are proper, a `<` in what they are written as is the beginning of a span. -/
theorem exists_standsAt_of_proper {cut : List Piece} (h : ∀ piece ∈ cut, piece.Proper)
    {start : Nat} (hbracket : (cut.flatMap Piece.written)[start]? = some '<') :
    ∃ name, StandsAt cut start (.span name) := by
  induction cut generalizing start with
  | nil => exact absurd hbracket (by simp)
  | cons piece rest ih =>
    obtain ⟨hpiece, hrest⟩ := List.forall_mem_cons.1 h
    rw [List.flatMap_cons] at hbracket
    by_cases hwithin : start < piece.written.length
    · rw [List.getElem?_append_left hwithin] at hbracket
      cases piece with
      | char c =>
        obtain rfl : c = '<' := by
          have hmem := List.mem_of_getElem? hbracket
          exact (List.mem_singleton.1 hmem).symm
        exact absurd rfl hpiece
      | span name =>
        cases start with
        | zero => exact ⟨name, standsAt_cons_iff.2 (Or.inl ⟨rfl, rfl⟩)⟩
        | succ start =>
          -- Behind its first character, a span holds a name and a `>`.
          have hmem : '<' ∈ name ++ ['>'] := List.mem_of_getElem? hbracket
          rcases List.mem_append.1 hmem with hmem | hmem
          · exact absurd rfl (isNameChar_ne (hpiece.2 '<' hmem)).1
          · exact absurd hmem (by decide)
    · have hle : piece.written.length ≤ start := Nat.le_of_not_lt hwithin
      rw [List.getElem?_append_right hle] at hbracket
      obtain ⟨name, hname⟩ := ih hrest hbracket
      exact ⟨name, standsAt_cons_iff.2 (Or.inr ⟨_, hname, by omega⟩)⟩

/-- **Every bracket opens a span exactly if none is read as a character.** -/
theorem everyBracketOpens_iff : EveryBracketOpens text ↔ Piece.char '<' ∉ pieces text := by
  have hspans := (isCut_pieces text).spans
  constructor
  · intro h hmem
    obtain ⟨before, after, hsplit⟩ := List.append_of_mem hmem
    have hwritten : text = before.flatMap Piece.written ++ '<' :: after.flatMap Piece.written := by
      rw [← written_pieces text, hsplit, List.flatMap_append, List.flatMap_cons]
      rfl
    have hbracket : text[(before.flatMap Piece.written).length]? = some '<' := by
      rw [hwritten, List.getElem?_append_right (Nat.le_refl _), Nat.sub_self]
      rfl
    obtain ⟨name, hspan⟩ := h _ hbracket
    -- The character and the span would stand at one place.
    have hstray : StandsAt (pieces text) (before.flatMap Piece.written).length (.char '<') :=
      ⟨before, after, hsplit, rfl⟩
    rcases hstray.apart ((hspans _ name).1 hspan) with ⟨-, hsame⟩ | hbefore | hbehind
    · cases hsame
    · simp [Piece.written] at hbefore
    · simp [Piece.written] at hbehind
  · intro h start hbracket
    have hproper : ∀ piece ∈ pieces text, piece.Proper := by
      intro piece hpiece
      cases piece with
      | char c =>
        rintro rfl
        exact h hpiece
      | span name => exact proper_of_mem_piecesFrom (by simp) hpiece
    rw [← written_pieces text] at hbracket
    obtain ⟨name, hname⟩ := exists_standsAt_of_proper hproper hbracket
    exact ⟨name, (hspans start name).2 hname⟩

instance (text : List Char) : Decidable (EveryBracketOpens text) :=
  decidable_of_iff _ everyBracketOpens_iff.symm

/-! ## The second pass -/

/-- No value of a span of the text holds a bracket that could open one. -/
def OpensNothing (early : String → Option String) (text : List Char) : Prop :=
  ∀ start name value, SpanAt text start name → early (String.ofList name) = some value →
    '<' ∉ value.toList

/-- Filling what the first pass leaves asks for the same names, in the same order. -/
theorem replaceAll_settle (cut : List Piece) :
    replaceAll late (cut.flatMap (settle early)) = replaceAll (eitherOf early late) cut := by
  induction cut with
  | nil => rfl
  | cons piece rest ih =>
    rw [List.flatMap_cons]
    cases piece with
    | char c =>
      rw [settle, List.singleton_append, replaceAll, replaceAll, ih]
    | span name =>
      cases hearly : early (String.ofList name) with
      | some value =>
        rw [settle_of_some hearly, replaceAll_chars_append, replaceAll, eitherOf_of_some hearly, ih]
      | none =>
        rw [settle_of_none hearly, List.singleton_append, replaceAll, replaceAll,
          eitherOf_of_none hearly, ih]

theorem Settled.substitute_substituteBound {text : String} (h : Settled early text.toList) :
    substitute late (substituteBound early text) = substitute (eitherOf early late) text := by
  unfold Settled at h
  unfold substitute
  rw [toList_substituteBound, h, replaceAll_settle]

theorem settled_of_everyBracketOpens (hopens : EveryBracketOpens text)
    (hvalues : OpensNothing early text) : Settled early text := by
  apply settled_of_values
  · exact everyBracketOpens_iff.1 hopens
  · intro name value hspan hvalue
    obtain ⟨start, hspan⟩ := span_mem_pieces_iff.1 hspan
    exact hvalues start name value hspan hvalue

/-- **Filling a text in two passes is filling it in one.** Let every `<` of the text open a span, and
    no value that the earlier lookup has for one of the spans hold a `<`. Then filling what the
    earlier lookup knows, and completing the result by the later one, comes to the same as completing
    the text by both, the earlier one first: to the same text, or to the same error. For what lies
    between the passes has the spans that are left over and no other: cut at its spans, it is the
    text cut at its own, with the characters of the values in place of the spans that are bound. -/
theorem two_passes_are_one {early : String → Option String} {text : String}
    (hopens : EveryBracketOpens text.toList) (hvalues : OpensNothing early text.toList)
    (late : String → Option String) :
    substitute late (substituteBound early text) = substitute (eitherOf early late) text ∧
      ∀ cut, IsCut text.toList cut →
        IsCut (substituteBound early text).toList (cut.flatMap (settle early)) := by
  have hsettled := settled_of_everyBracketOpens hopens hvalues
  refine ⟨hsettled.substitute_substituteBound, fun cut hcut => ?_⟩
  obtain rfl := hcut.unique (isCut_pieces text.toList)
  unfold Settled at hsettled
  rw [toList_substituteBound, ← hsettled]
  exact isCut_pieces _

/-- The first value closes nothing, the second is not read again, and a third span is missed by
    either way. -/
theorem gateway_is_filled_in_two_passes :
    let early : String → Option String := fun name => if name = "user" then some "it's>" else none
    let late : String → Option String := fun name => if name = "gw" then some "<user>" else none
    EveryBracketOpens "<user>@<gw>:<port>".toList ∧
      OpensNothing early "<user>@<gw>:<port>".toList ∧
      substitute late (substituteBound early "<user>@<gw>") = .ok "it's>@<user>" ∧
      substitute late (substituteBound early "<user>@<gw>:<port>") =
        .error (.unresolvedVariable "port") := by
  intro early late
  have hvalues : ∀ text, OpensNothing early text := by
    intro text start name value hspan hvalue
    obtain ⟨-, hvalue⟩ := Option.ite_none_right_eq_some.1 hvalue
    obtain rfl := Option.some.inj hvalue
    decide
  have hshort : EveryBracketOpens "<user>@<gw>".toList := by decide
  have hlong : EveryBracketOpens "<user>@<gw>:<port>".toList := by decide
  refine ⟨hlong, hvalues _, ?_, ?_⟩
  · rw [(two_passes_are_one hshort (hvalues _) late).1]
    rfl
  · rw [(two_passes_are_one hlong (hvalues _) late).1]
    rfl

/-- Behind a stray bracket, a value can make a span: the second pass finds what the text never had. -/
example :
    let early : String → Option String := fun name => if name = "a" then some "b>" else none
    ¬ EveryBracketOpens "<<a>".toList ∧ substituteBound early "<<a>" = "<b>" ∧
      substitute (fun _ => some "c") "<b>" = .ok "c" := by
  decide

end Template
end SshTemplate
