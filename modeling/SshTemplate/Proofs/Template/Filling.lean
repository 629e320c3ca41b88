import SshTemplate.Proofs.Template.CrossProduct
import SshTemplate.Template.Expansion

/-!
# `Proofs.Template.Filling` — what filling a text can bring into it

A text with its spans replaced holds characters of the text and characters of values, and nothing
else; and no span reaches across a blank. So what is known of every character of a text and of every
value is known of what comes of them. Where every span has to be bound, filling fails at the first
that is not, and a host at the first of its texts that has one.
-/

set_option autoImplicit false

namespace SshTemplate
namespace Template

open Text

variable {lookup : String → Option String}

/-! ## Characters -/

/-- What the known spans of some characters are replaced by, and the other characters. -/
def replaced (lookup : String → Option String) (text : List Char) : List Char :=
  (pieces text).flatMap (replaceKnown lookup)

theorem toList_substituteBound (text : String) :
    (substituteBound lookup text).toList = replaced lookup text.toList := by
  unfold substituteBound
  exact String.toList_ofList

theorem replaceKnown_of_some {name : List Char} {value : String}
    (h : lookup (String.ofList name) = some value) :
    replaceKnown lookup (.span name) = value.toList := by
  rw [replaceKnown, h]

theorem replaceKnown_of_none {name : List Char} (h : lookup (String.ofList name) = none) :
    replaceKnown lookup (.span name) = (Piece.span name).written := by
  rw [replaceKnown, h]

/-- A character of a filled text is one of the text or one of the value of a span. -/
theorem mem_replaced {text : List Char} {c : Char} (h : c ∈ replaced lookup text) :
    c ∈ text ∨ ∃ span value, Piece.span span ∈ pieces text ∧
      lookup (String.ofList span) = some value ∧ c ∈ value.toList := by
  obtain ⟨piece, hpiece, hc⟩ := List.mem_flatMap.1 h
  have hwritten : ∀ d ∈ piece.written, d ∈ text := by
    intro d hd
    rw [← written_pieces text]
    exact List.mem_flatMap.2 ⟨piece, hpiece, hd⟩
  cases piece with
  | char d => exact Or.inl (hwritten c hc)
  | span name =>
    cases hvalue : lookup (String.ofList name) with
    | none =>
      rw [replaceKnown_of_none hvalue] at hc
      exact Or.inl (hwritten c hc)
    | some value =>
      rw [replaceKnown_of_some hvalue] at hc
      exact Or.inr ⟨name, value, hpiece, hvalue, hc⟩

theorem replaced_ne_nil {text : List Char} (htext : text ≠ [])
    (hvalues : ∀ name value, lookup name = some value → value ≠ "") :
    replaced lookup text ≠ [] := by
  have hpieces : pieces text ≠ [] := by
    intro hnil
    have hwritten := written_pieces text
    rw [hnil] at hwritten
    exact htext hwritten.symm
  obtain ⟨piece, rest, hsplit⟩ := List.exists_cons_of_ne_nil hpieces
  have hfirst : replaceKnown lookup piece ≠ [] := by
    cases piece with
    | char c => simp [replaceKnown]
    | span name =>
      cases hvalue : lookup (String.ofList name) with
      | none => simp [replaceKnown_of_none hvalue, Piece.written]
      | some value => simpa [replaceKnown_of_some hvalue] using hvalues _ value hvalue
  unfold replaced
  rw [hsplit, List.flatMap_cons]
  exact List.append_ne_nil_of_left_ne_nil hfirst _

/-! ## Unbound spans -/

/-- The name has no value. -/
def UnboundIn (lookup : String → Option String) (name : String) : Prop := lookup name = none

/-- The name of the first span of which the name is unbound. -/
def LeftmostUnbound (unbound : String → Prop) (pieces : List Piece) (name : String) : Prop :=
  ∃ before span after, pieces = before ++ .span span :: after ∧
    (∀ other, Piece.span other ∈ before → ¬ unbound (String.ofList other)) ∧
    unbound (String.ofList span) ∧ name = String.ofList span

theorem leftmostUnbound_cons_of_bound {unbound : String → Prop} {piece : Piece} {rest : List Piece}
    {name : String} (hpiece : ∀ span, piece = .span span → ¬ unbound (String.ofList span)) :
    LeftmostUnbound unbound (piece :: rest) name ↔ LeftmostUnbound unbound rest name := by
  constructor
  · rintro ⟨before, span, after, hsplit, hbefore, hspan, rfl⟩
    rcases before with _ | ⟨first, before⟩
    · obtain ⟨hfirst, -⟩ := List.cons.inj hsplit
      exact absurd hspan (hpiece span hfirst)
    · obtain ⟨-, hrest⟩ := List.cons.inj hsplit
      exact ⟨before, span, after, hrest, fun other hother => hbefore other (.tail _ hother), hspan,
        rfl⟩
  · rintro ⟨before, span, after, rfl, hbefore, hspan, rfl⟩
    refine ⟨piece :: before, span, after, rfl, fun other hother => ?_, hspan, rfl⟩
    rcases List.mem_cons.1 hother with hother | hother
    · exact hpiece other hother.symm
    · exact hbefore other hother

/-- **Replacing fails at the leftmost unbound span**, and nowhere else. -/
theorem replaceAll_eq_error_iff {pieces : List Piece} {issue : Issue} :
    replaceAll lookup pieces = .error issue ↔
      ∃ name, LeftmostUnbound (UnboundIn lookup) pieces name ∧
        issue = .unresolvedVariable name := by
  induction pieces with
  | nil =>
    constructor
    · intro h
      cases h
    · rintro ⟨name, ⟨before, span, after, hsplit, -⟩, -⟩
      exact absurd hsplit (by simp)
  | cons piece rest ih =>
    cases piece with
    | char c =>
      have hbound : ∀ span, Piece.char c = .span span →
          ¬ UnboundIn lookup (String.ofList span) := by
        rintro span ⟨⟩
      simp only [leftmostUnbound_cons_of_bound hbound]
      exact map_eq_error_iff.trans ih
    | span span =>
      rw [replaceAll]
      cases hvalue : lookup (String.ofList span) with
      | some value =>
        have hbound : ∀ other, Piece.span span = .span other →
            ¬ UnboundIn lookup (String.ofList other) := by
          rintro other ⟨⟩
          simp [UnboundIn, hvalue]
        simp only [leftmostUnbound_cons_of_bound hbound]
        exact map_eq_error_iff.trans ih
      | none =>
        constructor
        · intro h
          cases h
          exact ⟨_, ⟨[], span, rest, rfl, by simp, hvalue, rfl⟩, rfl⟩
        · rintro ⟨name, ⟨before, other, after, hsplit, hbefore, hother, rfl⟩, rfl⟩
          rcases before with _ | ⟨first, before⟩
          · obtain ⟨hfirst, -⟩ := List.cons.inj hsplit
            cases hfirst
            rfl
          · obtain ⟨hfirst, -⟩ := List.cons.inj hsplit
            exact absurd hvalue (hbefore span (by simp [← hfirst]))

theorem substitute_eq_error_iff {text : String} {issue : Issue} :
    substitute lookup text = .error issue ↔
      ∃ name, LeftmostUnbound (UnboundIn lookup) (pieces text.toList) name ∧
        issue = .unresolvedVariable name :=
  map_eq_error_iff.trans replaceAll_eq_error_iff

theorem exists_leftmostUnbound {unbound : String → Prop} {pieces : List Piece} {span : List Char}
    (hspan : Piece.span span ∈ pieces) (hunbound : unbound (String.ofList span)) :
    ∃ name, LeftmostUnbound unbound pieces name := by
  induction pieces with
  | nil => exact absurd hspan (by simp)
  | cons piece rest ih =>
    by_cases hpiece : ∃ other, piece = .span other ∧ unbound (String.ofList other)
    · obtain ⟨other, rfl, hother⟩ := hpiece
      exact ⟨_, [], other, rest, rfl, by simp, hother, rfl⟩
    · have hbound : ∀ other, piece = .span other → ¬ unbound (String.ofList other) :=
        fun other hother hnone => hpiece ⟨other, hother, hnone⟩
      rcases List.mem_cons.1 hspan with hfirst | hrest
      · exact absurd hunbound (hbound span hfirst.symm)
      · obtain ⟨name, hname⟩ := ih hrest
        exact ⟨name, (leftmostUnbound_cons_of_bound hbound).2 hname⟩

/-- A text in which no span is unbound can be filled. -/
theorem exists_substitute_eq_ok {text : String}
    (h : ∀ span, Piece.span span ∈ pieces text.toList → ¬ UnboundIn lookup (String.ofList span)) :
    ∃ filled, substitute lookup text = .ok filled := by
  cases hfilled : substitute lookup text with
  | ok filled => exact ⟨filled, rfl⟩
  | error issue =>
    obtain ⟨name, ⟨before, span, after, hsplit, -, hunbound, -⟩, -⟩ :=
      substitute_eq_error_iff.1 hfilled
    exact absurd hunbound (h span (by simp [hsplit]))

/-- A text that can be filled has no unbound span. -/
theorem not_unboundIn_of_substitute_eq_ok {text filled : String}
    (h : substitute lookup text = .ok filled) {span : List Char}
    (hspan : Piece.span span ∈ pieces text.toList) : ¬ UnboundIn lookup (String.ofList span) := by
  intro hunbound
  obtain ⟨name, hname⟩ := exists_leftmostUnbound hspan hunbound
  have herror := substitute_eq_error_iff.2 ⟨name, hname, rfl⟩
  rw [h] at herror
  cases herror

/-- Filling a text succeeds exactly if no span of it is unbound. -/
theorem exists_substitute_eq_ok_iff {text : String} :
    (∃ filled, substitute lookup text = .ok filled) ↔
      ∀ span, Piece.span span ∈ pieces text.toList → ¬ UnboundIn lookup (String.ofList span) :=
  ⟨fun ⟨_, h⟩ _ hspan => not_unboundIn_of_substitute_eq_ok h hspan, exists_substitute_eq_ok⟩

/-! ## Parts -/

theorem replaceAll_append (front back : List Piece) :
    replaceAll lookup (front ++ back) =
      replaceAll lookup front >>= fun filled => (filled ++ ·) <$> replaceAll lookup back := by
  induction front with
  | nil =>
    show replaceAll lookup back = _ <$> replaceAll lookup back
    cases replaceAll lookup back <;> rfl
  | cons piece rest ih =>
    cases piece with
    | char c =>
      rw [List.cons_append, replaceAll, replaceAll, ih]
      cases replaceAll lookup rest with
      | error issue => rfl
      | ok filled => cases replaceAll lookup back <;> rfl
    | span name =>
      rw [List.cons_append, replaceAll, replaceAll, ih]
      cases lookup (String.ofList name) with
      | none => rfl
      | some value =>
        cases replaceAll lookup rest with
        | error issue => rfl
        | ok filled =>
          cases replaceAll lookup back with
          | error issue => rfl
          | ok more => simp [bind, Except.bind, Functor.map, Except.map]

theorem replaceAll_flatMap {α : Type} (pieces : α → List Piece) (list : List α) :
    replaceAll lookup (list.flatMap pieces) =
      List.flatten <$> list.mapM fun a => replaceAll lookup (pieces a) := by
  induction list with
  | nil => rfl
  | cons a rest ih =>
    rw [List.flatMap_cons, replaceAll_append, ih, List.mapM_cons]
    cases replaceAll lookup (pieces a) with
    | error issue => rfl
    | ok filled => cases rest.mapM fun a => replaceAll lookup (pieces a) <;> rfl

theorem replaceAll_chars_append (chars : List Char) (back : List Piece) :
    replaceAll lookup (chars.map Piece.char ++ back) =
      (chars ++ ·) <$> replaceAll lookup back := by
  induction chars with
  | nil =>
    show replaceAll lookup back = _ <$> replaceAll lookup back
    cases replaceAll lookup back <;> rfl
  | cons c rest ih =>
    rw [List.map_cons, List.cons_append, replaceAll, ih]
    cases replaceAll lookup back <;> rfl

theorem piecesFrom_append_blank (opened : Option (List Char)) (front : List Char) {blank : Char}
    (hblank : isBlank blank = true) (back : List Char) :
    piecesFrom opened (front ++ blank :: back) =
      piecesFrom opened front ++ .char blank :: pieces back := by
  have hlt : blank ≠ '<' := by rintro rfl; exact absurd hblank (by decide)
  have hgt : blank ≠ '>' := by rintro rfl; exact absurd hblank (by decide)
  fun_induction piecesFrom opened front with
  | case1 opened =>
    cases opened with
    | none => simp [piecesFrom, hlt, pieces]
    | some name => simp [piecesFrom, hlt, hgt, isNameChar, hblank, pieces]
  | case2 rest ih => simpa [piecesFrom] using ih
  | case3 c rest h ih => simpa [piecesFrom, h] using ih
  | case4 rest name ih => simpa [piecesFrom] using ih
  | case5 c rest name h hgt ih => simp [piecesFrom, h, hgt, ih]
  | case6 c rest name h hgt hname ih => simp [piecesFrom, h, hgt, hname, ih]
  | case7 c rest name h hgt hname ih => simp [piecesFrom, h, hgt, hname, ih]

/-- **No span reaches across a blank.** -/
theorem replaced_append_blank (front : List Char) {blank : Char} (hblank : isBlank blank = true)
    (back : List Char) :
    replaced lookup (front ++ blank :: back) =
      replaced lookup front ++ blank :: replaced lookup back := by
  unfold replaced pieces
  rw [piecesFrom_append_blank none front hblank, List.flatMap_append, List.flatMap_cons]
  rfl

/-! ## Texts without spans -/

def Piece.isSpan : Piece → Bool
  | char _ => false
  | span _ => true

/-- No span is in the text. -/
def Spanless (text : List Char) : Prop := ∀ piece ∈ pieces text, piece.isSpan = false

instance (text : List Char) : Decidable (Spanless text) :=
  inferInstanceAs (Decidable (∀ piece ∈ pieces text, piece.isSpan = false))

/-- Nothing is replaced in a text without spans. -/
theorem Spanless.substituteBound {text : String} (h : Spanless text.toList) :
    substituteBound lookup text = text := by
  apply String.toList_inj.1
  rw [toList_substituteBound]
  refine Eq.trans (List.flatMap_congr fun piece hpiece => ?_) (written_pieces text.toList)
  cases piece with
  | char c => rfl
  | span name => exact absurd (h _ hpiece) (by simp [Piece.isSpan])

/-! ## The texts of a host -/

theorem instantiate_eq_ok_iff {template : HostTemplate} {stanza : Stanza} :
    template.instantiate lookup = .ok stanza ↔
      ∃ host lines, substitute lookup template.host = .ok host ∧
        template.lines.mapM (substitute lookup) = .ok lines ∧
        stanza = ⟨some host, headerOf host :: lines⟩ := by
  constructor
  · intro h
    obtain ⟨host, hhost, h⟩ := exists_of_bind_eq_ok h
    obtain ⟨lines, hlines, h⟩ := exists_of_bind_eq_ok h
    exact ⟨host, lines, hhost, hlines, (Except.ok.inj h).symm⟩
  · rintro ⟨host, lines, hhost, hlines, rfl⟩
    unfold HostTemplate.instantiate
    rw [hhost, hlines]
    rfl

/-- A host template fails at the first of its texts that cannot be filled. -/
theorem instantiate_eq_error_iff {template : HostTemplate} {issue : Issue} :
    template.instantiate lookup = .error issue ↔
      ∃ before text after, template.host :: template.lines = before ++ text :: after ∧
        (∀ other ∈ before, ∃ filled, substitute lookup other = .ok filled) ∧
        substitute lookup text = .error issue := by
  rw [← mapM_eq_error_iff, List.mapM_cons]
  unfold HostTemplate.instantiate
  rw [bind_eq_error_iff, bind_eq_error_iff]
  refine or_congr_right (exists_congr fun host => and_congr_right fun _ => ?_)
  rw [bind_pure_comp, bind_pure_comp, map_eq_error_iff, map_eq_error_iff]

/-! ## Values -/

/-- A character of a value is one of the token, a digit or a sign. -/
theorem mem_tokenValues {token : String} {values : List String}
    (h : tokenValues token = .ok values) {value : String} (hvalue : value ∈ values) {c : Char}
    (hc : c ∈ value.toList) : c ∈ token.toList ∨ c.isDigit = true ∨ c = '-' := by
  have hdigit : ∀ n : Nat, ∀ d ∈ Nat.toDigits 10 n, d.isDigit = true := fun n d hd =>
    Nat.isDigit_of_mem_toDigits (by decide) (by decide) hd
  have hsign : ∀ n : Int, ∀ d ∈ (if n < 0 then ['-'] else []), d = '-' := by
    intro n d hd
    split at hd
    · exact List.mem_singleton.1 hd
    · exact absurd hd (by simp)
  unfold tokenValues at h
  split at h
  · obtain rfl := Except.ok.inj h
    rw [List.mem_singleton.1 hvalue] at hc
    exact Or.inl hc
  · next inner hinner =>
    obtain ⟨range, -, h⟩ := exists_of_bind_eq_ok h
    obtain rfl := Except.ok.inj h
    obtain ⟨n, -, rfl⟩ := List.mem_map.1 hvalue
    unfold Range.written at hc
    rw [String.toList_ofList] at hc
    cases hwidth : range.width with
    | none =>
      rw [hwidth] at hc
      rcases List.mem_append.1 hc with hc | hc
      · exact Or.inr (Or.inr (hsign n c hc))
      · exact Or.inr (Or.inl (hdigit _ c hc))
    | some width =>
      rw [hwidth] at hc
      rcases List.mem_append.1 hc with hc | hc
      · rcases List.mem_append.1 hc with hc | hc
        · exact Or.inr (Or.inr (hsign n c hc))
        · rw [List.eq_of_mem_replicate hc]
          exact Or.inr (Or.inl (by decide))
      · exact Or.inr (Or.inl (hdigit _ c hc))

/-- The values of a domain are values of its tokens. -/
theorem exists_of_mem_domainValues {tokens values : List String}
    (h : domainValues tokens = .ok values) {value : String} (hvalue : value ∈ values) :
    ∃ token ∈ tokens, ∃ parts, tokenValues token = .ok parts ∧ value ∈ parts := by
  obtain ⟨lists, hlists, rfl⟩ := exists_of_map_eq_ok h
  obtain ⟨part, hpart, hmem⟩ := List.mem_flatten.1 hvalue
  obtain ⟨token, htoken, hvalues⟩ := exists_of_mem_of_mapM_eq_ok hlists hpart
  exact ⟨token, htoken, part, hvalues, hmem⟩

theorem mem_axis_of_mem_crossProduct {axes : List (String × List String)}
    {combination : Combination} (h : combination ∈ crossProduct axes) :
    ∀ binding ∈ combination, ∃ axis ∈ axes, binding.2 ∈ axis.2 := by
  induction axes generalizing combination with
  | nil =>
    obtain rfl := List.mem_singleton.1 h
    intro binding hb
    exact absurd hb (by simp)
  | cons axis rest ih =>
    obtain ⟨value, hvalue, hrest⟩ := List.mem_flatMap.1 h
    obtain ⟨choices, hchoices, rfl⟩ := List.mem_map.1 hrest
    intro binding hb
    rcases List.mem_cons.1 hb with rfl | hb
    · exact ⟨axis, by simp, hvalue⟩
    · obtain ⟨other, hmem, hother⟩ := ih hchoices binding hb
      exact ⟨other, List.mem_cons_of_mem _ hmem, hother⟩

/-- A bound value is one of a template variable or one of a variable of the document. -/
theorem mem_of_bound {axes : List (String × List String)} {combination : Combination}
    (h : combination ∈ crossProduct axes) {bindings : Variables} {name value : String}
    (hbound : bound combination bindings name = some value) :
    (∃ axis ∈ axes, value ∈ axis.2) ∨ bindings.get? name = some value := by
  unfold bound at hbound
  split at hbound
  · next found hfound =>
    obtain rfl := Option.some.inj hbound
    exact Or.inl (mem_axis_of_mem_crossProduct h _ (List.mem_of_find?_eq_some hfound))
  · exact Or.inr hbound

/-- Every combination binds the names of the template variables, and no other. -/
theorem map_fst_of_mem_crossProduct {axes : List (String × List String)} {combination : Combination}
    (h : combination ∈ crossProduct axes) : combination.map Prod.fst = axes.map Prod.fst := by
  induction axes generalizing combination with
  | nil =>
    obtain rfl := List.mem_singleton.1 h
    rfl
  | cons axis rest ih =>
    obtain ⟨value, -, hrest⟩ := List.mem_flatMap.1 h
    obtain ⟨choices, hchoices, rfl⟩ := List.mem_map.1 hrest
    rw [List.map_cons, List.map_cons, ih hchoices]

theorem unboundIn_bound_iff {axes : List (String × List String)} {combination : Combination}
    (h : combination ∈ crossProduct axes) {bindings : Variables} {name : String} :
    UnboundIn (bound combination bindings) name ↔
      name ∉ axes.map Prod.fst ∧ bindings.get? name = none := by
  rw [← map_fst_of_mem_crossProduct h]
  unfold UnboundIn bound
  cases hfound : combination.find? fun binding => binding.1 = name with
  | none =>
    have hnot : name ∉ combination.map Prod.fst := by
      intro hmem
      obtain ⟨binding, hbinding, rfl⟩ := List.mem_map.1 hmem
      exact absurd (List.find?_eq_none.1 hfound binding hbinding) (by simp)
    simp [hnot]
  | some binding =>
    have hname : binding.1 = name := by simpa using List.find?_some hfound
    have hmem : name ∈ combination.map Prod.fst :=
      List.mem_map.2 ⟨binding, List.mem_of_find?_eq_some hfound, hname⟩
    simp [hmem]

end Template
end SshTemplate
