import SshTemplate.Proofs.Template.Settling

/-!
# `Proofs.Template.Spans` — which spans a text has, and what a filled text is

A text is filled through its pieces, and the pieces are read by a scanner that gives up what looked
like the beginning of a span and goes on behind it. What a span is can be said without reading: any
part `<name>` of the text, wherever it stands, of which the name is not empty and has no blank and
no bracket (`SpanAt`). **The scanner finds all of these and no other** (`isCut_pieces`), so no two of
them overlap, and a text can be cut in one way only (`IsCut.unique`): at its spans.

With that, `FilledBy` says what filling a text is without the scanner: the spans that are bound are
replaced by their values, and all else is copied.
-/

set_option autoImplicit false

namespace SshTemplate
namespace Template

open Text

variable {lookup : String → Option String} {text : List Char}

/-! ## Spans of a text -/

/-- What can stand between the brackets of a span. -/
structure IsName (name : List Char) : Prop where
  ne_nil : name ≠ []
  chars : ∀ c ∈ name, c ≠ '<' ∧ c ≠ '>' ∧ isBlank c = false

/-- `<name>` is a span and begins behind `start` characters of the text. -/
def SpanAt (text : List Char) (start : Nat) (name : List Char) : Prop :=
  IsName name ∧ (Piece.span name).written <+: text.drop start

theorem isName_iff_proper {name : List Char} : IsName name ↔ (Piece.span name).Proper := by
  have hchar : ∀ c, isNameChar c = true ↔ c ≠ '<' ∧ c ≠ '>' ∧ isBlank c = false := by
    intro c
    simp [isNameChar, and_assoc]
  constructor
  · rintro ⟨hne, hchars⟩
    exact ⟨hne, fun c hc => (hchar c).2 (hchars c hc)⟩
  · rintro ⟨hne, hchars⟩
    exact ⟨hne, fun c hc => (hchar c).1 (hchars c hc)⟩

/-- The spans of a text are not changed by what stands before it. -/
theorem spanAt_append_iff (front : List Char) {start : Nat} {name : List Char} :
    SpanAt (front ++ text) (front.length + start) name ↔ SpanAt text start name := by
  unfold SpanAt
  rw [List.drop_length_add_append]

/-- A span ends within the text. -/
theorem SpanAt.exists_append {start : Nat} {name : List Char} (h : SpanAt text start name) :
    ∃ front back, text = front ++ ((Piece.span name).written ++ back) ∧ front.length = start := by
  obtain ⟨back, hback⟩ := h.2
  refine ⟨text.take start, back, ?_, ?_⟩
  · rw [hback, List.take_append_drop]
  · have hpos := congrArg List.length hback
    simp only [Piece.written, List.length_append, List.length_cons, List.length_drop] at hpos
    rw [List.length_take]
    omega

/-! ## Where a piece stands -/

/-- The piece is one of those listed, and what is listed before it takes `start` characters. -/
def StandsAt (cut : List Piece) (start : Nat) (piece : Piece) : Prop :=
  ∃ before after, cut = before ++ piece :: after ∧
    (before.flatMap Piece.written).length = start

variable {cut : List Piece} {start : Nat} {piece : Piece}

theorem not_standsAt_nil : ¬ StandsAt [] start piece := by
  rintro ⟨before, after, hsplit, -⟩
  exact absurd hsplit (by simp)

theorem standsAt_cons_iff {first : Piece} :
    StandsAt (first :: cut) start piece ↔
      (first = piece ∧ start = 0) ∨
        ∃ behind, StandsAt cut behind piece ∧ start = first.written.length + behind := by
  constructor
  · rintro ⟨_ | ⟨head, before⟩, after, hsplit, rfl⟩
    · exact Or.inl ⟨(List.cons.inj hsplit).1, rfl⟩
    · obtain ⟨rfl, hrest⟩ := List.cons.inj hsplit
      exact Or.inr ⟨_, ⟨before, after, hrest, rfl⟩, by simp⟩
  · rintro (⟨rfl, rfl⟩ | ⟨behind, ⟨before, after, rfl, rfl⟩, rfl⟩)
    · exact ⟨[], cut, rfl, rfl⟩
    · exact ⟨first :: before, after, rfl, by simp⟩

theorem standsAt_append_iff {front : List Piece} :
    StandsAt (front ++ cut) start piece ↔
      StandsAt front start piece ∨
        ∃ behind, StandsAt cut behind piece ∧
          start = (front.flatMap Piece.written).length + behind := by
  induction front generalizing start with
  | nil => simp [not_standsAt_nil]
  | cons first rest ih =>
    simp only [List.cons_append, standsAt_cons_iff, ih, List.flatMap_cons, List.length_append]
    constructor
    · rintro (hfirst | ⟨behind, hrest | ⟨further, hcut, rfl⟩, rfl⟩)
      · exact Or.inl (Or.inl hfirst)
      · exact Or.inl (Or.inr ⟨behind, hrest, rfl⟩)
      · exact Or.inr ⟨further, hcut, by omega⟩
    · rintro ((hfirst | ⟨behind, hrest, rfl⟩) | ⟨further, hcut, rfl⟩)
      · exact Or.inl hfirst
      · exact Or.inr ⟨behind, Or.inl hrest, rfl⟩
      · exact Or.inr ⟨_, Or.inr ⟨further, hcut, rfl⟩, by omega⟩

/-- Two listed pieces are the same one, or one of them ends before the other begins. -/
theorem StandsAt.apart {other : Piece} {start' : Nat} (h : StandsAt cut start piece)
    (h' : StandsAt cut start' other) :
    (start = start' ∧ piece = other) ∨ start + piece.written.length ≤ start' ∨
      start' + other.written.length ≤ start := by
  induction cut generalizing start start' with
  | nil => exact absurd h not_standsAt_nil
  | cons first rest ih =>
    rcases standsAt_cons_iff.1 h with ⟨rfl, rfl⟩ | ⟨behind, hrest, rfl⟩
    · rcases standsAt_cons_iff.1 h' with ⟨rfl, rfl⟩ | ⟨behind', -, rfl⟩
      · exact Or.inl ⟨rfl, rfl⟩
      · exact Or.inr (Or.inl (by omega))
    · rcases standsAt_cons_iff.1 h' with ⟨rfl, rfl⟩ | ⟨behind', hrest', rfl⟩
      · exact Or.inr (Or.inr (by omega))
      · rcases ih hrest hrest' with ⟨rfl, rfl⟩ | hbefore | hbehind
        · exact Or.inl ⟨rfl, rfl⟩
        · exact Or.inr (Or.inl (by omega))
        · exact Or.inr (Or.inr (by omega))

/-! ## Cutting a text at its spans -/

/-- The text, cut at its spans, at all of them and nowhere else. -/
structure IsCut (text : List Char) (cut : List Piece) : Prop where
  written : cut.flatMap Piece.written = text
  spans : ∀ start name, SpanAt text start name ↔ StandsAt cut start (.span name)

/-- A span is found wherever it stands, whatever the scanner has tried before it. -/
theorem piecesFrom_append_span {name : List Char} (hname : (Piece.span name).Proper)
    (opened : Option (List Char)) (front back : List Char) :
    piecesFrom opened (front ++ ((Piece.span name).written ++ back)) =
      piecesFrom opened front ++ .span name :: pieces back := by
  have hopen : (Piece.span name).written ++ back = '<' :: (name ++ '>' :: back) := by
    simp [Piece.written]
  have hspan := piecesFrom_some_span hname back
  rw [hopen]
  fun_induction piecesFrom opened front with
  | case1 opened =>
    cases opened with
    | none => simpa [piecesFrom] using hspan
    | some abandoned => simpa [piecesFrom] using hspan
  | case2 rest ih => simpa [piecesFrom] using ih
  | case3 c rest h ih => simpa [piecesFrom, h] using ih
  | case4 rest other ih => simpa [piecesFrom] using ih
  | case5 c rest other h hgt ih => simp [piecesFrom, h, hgt, ih]
  | case6 c rest other h hgt hchar ih => simp [piecesFrom, h, hgt, hchar, ih]
  | case7 c rest other h hgt hchar ih => simp [piecesFrom, h, hgt, hchar, ih]

/-- **Reading cuts a text at its spans.** -/
theorem isCut_pieces (text : List Char) : IsCut text (pieces text) where
  written := written_pieces text
  spans start name := by
    constructor
    · intro h
      obtain ⟨front, back, rfl, rfl⟩ := h.exists_append
      refine ⟨pieces front, pieces back, ?_, by rw [written_pieces]⟩
      exact piecesFrom_append_span (isName_iff_proper.1 h.1) none front back
    · rintro ⟨before, after, hsplit, rfl⟩
      have hread : Piece.span name ∈ piecesFrom none text := by
        show Piece.span name ∈ pieces text
        rw [hsplit]
        exact List.mem_append_right before List.mem_cons_self
      have hproper := proper_of_mem_piecesFrom (by simp) hread
      have htext : text = before.flatMap Piece.written ++
          ((Piece.span name).written ++ after.flatMap Piece.written) := by
        rw [← written_pieces text, hsplit, List.flatMap_append, List.flatMap_cons]
      refine ⟨isName_iff_proper.2 hproper, after.flatMap Piece.written, ?_⟩
      rw [htext, List.drop_left]

theorem IsCut.tail {first : Piece} {rest : List Piece} (h : IsCut text (first :: rest)) :
    IsCut (rest.flatMap Piece.written) rest where
  written := rfl
  spans start name := by
    have htext : text = first.written ++ rest.flatMap Piece.written := h.written.symm
    have hpos : 0 < first.written.length := by cases first <;> simp [Piece.written]
    rw [← spanAt_append_iff first.written, ← htext, h.spans, standsAt_cons_iff]
    constructor
    · rintro (⟨-, hzero⟩ | ⟨behind, hstands, hsame⟩)
      · omega
      · obtain rfl : start = behind := by omega
        exact hstands
    · exact fun hstands => Or.inr ⟨start, hstands, rfl⟩

/-- A cut text that begins with a span is cut behind it. -/
theorem IsCut.exists_cons {name : List Char} (h : IsCut text cut) (hspan : SpanAt text 0 name) :
    ∃ rest, cut = .span name :: rest := by
  obtain ⟨before, after, rfl, hlength⟩ := (h.spans 0 name).1 hspan
  rcases before with _ | ⟨first, before⟩
  · exact ⟨after, rfl⟩
  · cases first <;> simp [Piece.written] at hlength

/-- **A text can be cut in one way only.** -/
theorem IsCut.unique {other : List Piece} (h : IsCut text cut) (h' : IsCut text other) :
    cut = other := by
  induction cut generalizing text other with
  | nil =>
    have hnil : other.flatMap Piece.written = [] := h'.written.trans h.written.symm
    rcases other with _ | ⟨first, rest⟩
    · rfl
    · cases first <;> simp [Piece.written] at hnil
  | cons first rest ih =>
    have hhead : ∃ more, other = first :: more := by
      cases first with
      | span name =>
        exact h'.exists_cons ((h.spans 0 name).2 ⟨[], rest, rfl, rfl⟩)
      | char c =>
        have hwritten : c :: rest.flatMap Piece.written = other.flatMap Piece.written :=
          h.written.trans h'.written.symm
        rcases other with _ | ⟨_ | name, more⟩
        · cases hwritten
        · obtain ⟨rfl, -⟩ := List.cons.inj hwritten
          exact ⟨more, rfl⟩
        · obtain ⟨rest', hrest'⟩ :=
            h.exists_cons ((h'.spans 0 name).2 ⟨[], more, rfl, rfl⟩)
          cases hrest'
    obtain ⟨more, rfl⟩ := hhead
    have hrests : rest.flatMap Piece.written = more.flatMap Piece.written :=
      List.append_cancel_left (h.written.trans h'.written.symm)
    rw [ih h.tail (hrests ▸ h'.tail)]

/-- The spans that are read are those of the text. -/
theorem span_mem_pieces_iff {name : List Char} :
    Piece.span name ∈ pieces text ↔ ∃ start, SpanAt text start name := by
  constructor
  · intro h
    obtain ⟨before, after, hsplit⟩ := List.append_of_mem h
    exact ⟨_, ((isCut_pieces text).spans _ name).2 ⟨before, after, hsplit, rfl⟩⟩
  · rintro ⟨start, hspan⟩
    obtain ⟨before, after, hsplit, -⟩ := ((isCut_pieces text).spans start name).1 hspan
    rw [hsplit]
    exact List.mem_append_right before List.mem_cons_self

/-! ## Filled texts -/

/-- The text with the spans that are bound replaced by their values, and all else copied. -/
def FilledBy (lookup : String → Option String) (text filled : String) : Prop :=
  ∃ cut, IsCut text.toList cut ∧ filled.toList = cut.flatMap (replaceKnown lookup)

/-- Every span of the text is bound. -/
def AllBound (lookup : String → Option String) (text : String) : Prop :=
  ∀ start name, SpanAt text.toList start name → ¬ UnboundIn lookup (String.ofList name)

/-- The name of an unbound span of the text with none before it. -/
def FirstUnboundSpan (lookup : String → Option String) (text : String) (name : String) : Prop :=
  ∃ start span, SpanAt text.toList start span ∧ name = String.ofList span ∧
    UnboundIn lookup name ∧
    ∀ earlier other, SpanAt text.toList earlier other → earlier < start →
      ¬ UnboundIn lookup (String.ofList other)

theorem filledBy_iff {text filled : String} :
    FilledBy lookup text filled ↔ substituteBound lookup text = filled := by
  constructor
  · rintro ⟨cut, hcut, hfilled⟩
    apply String.toList_inj.1
    rw [toList_substituteBound, hfilled, hcut.unique (isCut_pieces text.toList)]
    rfl
  · rintro rfl
    exact ⟨_, isCut_pieces text.toList, toList_substituteBound text⟩

theorem allBound_iff {text : String} :
    AllBound lookup text ↔
      ∀ span, Piece.span span ∈ pieces text.toList → ¬ UnboundIn lookup (String.ofList span) := by
  simp only [span_mem_pieces_iff]
  exact ⟨fun h span ⟨start, hspan⟩ => h start span hspan, fun h start span hspan =>
    h span ⟨start, hspan⟩⟩

/-- Complete filling is filling, where there is nothing that would stay. -/
theorem substitute_eq_ok_iff {text filled : String} :
    substitute lookup text = .ok filled ↔ FilledBy lookup text filled ∧ AllBound lookup text := by
  rw [filledBy_iff, allBound_iff, ← exists_substitute_eq_ok_iff]
  constructor
  · intro h
    exact ⟨(eq_substituteBound_of_substitute h).symm, filled, h⟩
  · rintro ⟨rfl, filled, h⟩
    rw [h, eq_substituteBound_of_substitute h]

/-- The first piece that is unbound is the span that comes first in the text. -/
theorem leftmostUnbound_pieces_iff {text name : String} :
    LeftmostUnbound (UnboundIn lookup) (pieces text.toList) name ↔
      FirstUnboundSpan lookup text name := by
  have hspans := (isCut_pieces text.toList).spans
  constructor
  · rintro ⟨before, span, after, hsplit, hbefore, hunbound, rfl⟩
    refine ⟨_, span, (hspans _ span).2 ⟨before, after, hsplit, rfl⟩, rfl, hunbound, ?_⟩
    intro earlier other hother hearlier
    have hstands := (hspans earlier other).1 hother
    rw [hsplit] at hstands
    rcases standsAt_append_iff.1 hstands with ⟨front, back, rfl, -⟩ | ⟨behind, -, hbehind⟩
    · exact hbefore other (List.mem_append_right front List.mem_cons_self)
    · omega
  · rintro ⟨start, span, hspan, rfl, hunbound, hearlier⟩
    obtain ⟨before, after, hsplit, rfl⟩ := (hspans start span).1 hspan
    refine ⟨before, span, after, hsplit, fun other hother => ?_, hunbound, rfl⟩
    obtain ⟨front, back, rfl⟩ := List.append_of_mem hother
    refine hearlier _ other ((hspans _ other).2 ⟨front, back ++ .span span :: after, ?_, rfl⟩) ?_
    · rw [hsplit, List.append_assoc, List.cons_append]
    · simp [Piece.written]

/-- Complete filling fails at the first unbound span. -/
theorem substitute_eq_unresolved_iff {text : String} {issue : Issue} :
    substitute lookup text = .error issue ↔
      ∃ name, FirstUnboundSpan lookup text name ∧ issue = .unresolvedVariable name := by
  simp only [substitute_eq_error_iff, leftmostUnbound_pieces_iff]

/-! ## Several texts -/

/-- `mapM` comes to a list exactly if it comes to each of its members. -/
theorem mapM_eq_ok_iff {ε α β : Type} {f : α → Except ε β} {as : List α} {bs : List β} :
    as.mapM f = .ok bs ↔ List.Forall₂ (fun a b => f a = .ok b) as bs := by
  constructor
  · intro h
    induction as generalizing bs with
    | nil => cases h; exact .nil
    | cons a rest ih =>
      rw [List.mapM_cons] at h
      obtain ⟨b, hb, h⟩ := exists_of_bind_eq_ok h
      obtain ⟨more, hmore, h⟩ := exists_of_bind_eq_ok h
      obtain rfl := Except.ok.inj h
      exact .cons hb (ih hmore)
  · intro h
    induction h with
    | nil => rfl
    | cons hb _ ih => rw [List.mapM_cons, hb, ih]; rfl

theorem mapM_substitute_eq_ok_iff {texts filled : List String} :
    texts.mapM (substitute lookup) = .ok filled ↔
      List.Forall₂ (FilledBy lookup) texts filled ∧ ∀ text ∈ texts, AllBound lookup text := by
  rw [mapM_eq_ok_iff]
  simp only [substitute_eq_ok_iff]
  constructor
  · intro h
    refine ⟨h.imp fun _ _ hboth => hboth.1, ?_⟩
    induction h with
    | nil => simp
    | cons hboth _ ih => exact List.forall_mem_cons.2 ⟨hboth.2, ih⟩
  · rintro ⟨hfilled, hbound⟩
    induction hfilled with
    | nil => exact .nil
    | cons hfirst _ ih =>
      obtain ⟨hbound, hrest⟩ := List.forall_mem_cons.1 hbound
      exact .cons ⟨hfirst, hbound⟩ (ih hrest)

/-- **Spans are replaced where they stand.** The spans of a text do not overlap, and the text can be
    cut at all of them, in one way. Filling it replaces those that are bound, each by its value as it
    is, and copies all else, the unbound spans included. Where every span has to be bound, filling
    comes to the same if they all are, and otherwise fails with the first that is not. -/
theorem spans_are_replaced_where_they_stand (lookup : String → Option String) (text : String) :
    (∀ start name start' name', SpanAt text.toList start name → SpanAt text.toList start' name' →
      (start = start' ∧ name = name') ∨ start + (Piece.span name).written.length ≤ start' ∨
        start' + (Piece.span name').written.length ≤ start) ∧
    (∃ cut, IsCut text.toList cut ∧ ∀ other, IsCut text.toList other → other = cut) ∧
    (∀ filled, substituteBound lookup text = filled ↔ FilledBy lookup text filled) ∧
    (∀ filled, substitute lookup text = .ok filled ↔
      FilledBy lookup text filled ∧ AllBound lookup text) ∧
    (∀ issue, substitute lookup text = .error issue ↔
      ∃ name, FirstUnboundSpan lookup text name ∧ issue = .unresolvedVariable name) ∧
    ((∃ issue, substitute lookup text = .error issue) ↔
      ∃ start name, SpanAt text.toList start name ∧ UnboundIn lookup (String.ofList name)) := by
  have hcut := isCut_pieces text.toList
  refine ⟨fun start name start' name' h h' => ?_, ⟨_, hcut, fun other hother => hother.unique hcut⟩,
    fun filled => filledBy_iff.symm, fun filled => substitute_eq_ok_iff,
    fun issue => substitute_eq_unresolved_iff, ?_⟩
  · rcases ((hcut.spans start name).1 h).apart ((hcut.spans start' name').1 h') with
      ⟨hstart, hname⟩ | hapart
    · exact Or.inl ⟨hstart, Piece.span.inj hname⟩
    · exact Or.inr hapart
  · constructor
    · rintro ⟨issue, hissue⟩
      obtain ⟨name, ⟨start, span, hspan, rfl, hunbound, -⟩, -⟩ :=
        substitute_eq_unresolved_iff.1 hissue
      exact ⟨start, span, hspan, hunbound⟩
    · rintro ⟨start, span, hspan, hunbound⟩
      cases hfilled : substitute lookup text with
      | error issue => exact ⟨issue, rfl⟩
      | ok filled => exact absurd hunbound ((substitute_eq_ok_iff.1 hfilled).2 start span hspan)

/-- A stray bracket opens nothing, and hides neither of the spans behind it. -/
theorem spans_behind_a_stray_bracket :
    let lookup : String → Option String := fun name => if name = "a" then some "<b>" else none
    SpanAt "<<a><b>".toList 1 ['a'] ∧ SpanAt "<<a><b>".toList 4 ['b'] ∧ 1 + 3 ≤ 4 ∧
      FilledBy lookup "<<a><b>" "<<b><b>" ∧
      substitute lookup "<<a><b>" = .error (.unresolvedVariable "b") ∧
      ∃ start name, SpanAt "<<a><b>".toList start name ∧ UnboundIn lookup (String.ofList name) := by
  intro lookup
  have hname : ∀ c : Char, c ≠ '<' ∧ c ≠ '>' ∧ isBlank c = false → IsName [c] := fun c hc =>
    ⟨by simp, List.forall_mem_singleton.2 hc⟩
  have hfirst : SpanAt "<<a><b>".toList 1 ['a'] := ⟨hname 'a' (by decide), "<b>".toList, by rfl⟩
  have hsecond : SpanAt "<<a><b>".toList 4 ['b'] := ⟨hname 'b' (by decide), [], by rfl⟩
  have herror : substitute lookup "<<a><b>" = .error (.unresolvedVariable "b") := by rfl
  obtain ⟨hapart, -, hfilled, -, -, hfails⟩ := spans_are_replaced_where_they_stand lookup "<<a><b>"
  refine ⟨hfirst, hsecond, ?_, (hfilled _).1 (by rfl), herror, hfails.1 ⟨_, herror⟩⟩
  rcases hapart 1 ['a'] 4 ['b'] hfirst hsecond with ⟨hsame, -⟩ | hbefore | hbehind
  · exact absurd hsame (by decide)
  · exact hbefore
  · exact absurd hbehind (by decide)

end Template
end SshTemplate
