import SshTemplate.Proofs.Writing.Lines
import SshTemplate.Proofs.Writing.Paragraphs

/-!
# `Proofs.Writing.Plain` — texts that use none of the template language

A template that uses none of the template language is an ssh configuration. Such a text is plain
(`PlainText`): it has hosts and literal lines only, no quotes are needed in it, and no host holds a
span.

Reading a plain text and rendering what it is read as are both laying out. Each of its directives is
read again from what is written of it (`Directive.Restorable`); reading only cuts them into sections
(`exists_read_of_restorable`), each a host with a name and lines and nothing else (`Section.Plain`);
and rendering writes the sections as they are, behind the sorted global lines (`exists_render`).
-/

set_option autoImplicit false

namespace SshTemplate

open Template (Combination Piece crossProduct)
open Directive (stretch sinceHost sectionsOf resolvedAll)

/-! ## Directives that are read back -/

theorem Directive.eq_of_ofLine_literal {line found : Line}
    (h : ofLine line = .ok (.literal found)) : line = found := by
  cases form_of_ofLine h with
  | literal => rfl

/-- What is written of the line is read as the same directive again. -/
structure Line.Restorable (line : Line) : Prop where
  normal : line.Normal
  noComment : line.keyword.toList.head? ≠ some '#'
  literal : Directive.ofLine line = .ok (.literal line)

theorem Line.Restorable.ofRaw?_written {line : Line} (h : line.Restorable) {indent : String}
    (hindent : ∀ c ∈ indent.toList, Text.isBlank c = true) :
    Directive.ofRaw? (line.written indent) = some (.literal line) := by
  refine Directive.ofRaw?_eq_some_iff.2 ⟨h.normal.isRemark_written h.noComment hindent, ?_⟩
  unfold Directive.read
  rw [h.normal.read_written hindent]
  exact h.literal

theorem ofRaw?_headerOf {name : String} (h : IsTrimmed name) :
    Directive.ofRaw? (headerOf name) = some (.host name) := by
  have hnormal : Line.Normal ⟨"Host", [name]⟩ := .sole (by decide) (by decide) h
  have hindent : ∀ c ∈ "".toList, Text.isBlank c = true := by simp
  have hheader : headerOf name = Line.written "" ⟨"Host", [name]⟩ := by
    unfold headerOf Line.written
    simp
  have hcomment : "Host".toList.head? ≠ some '#' := by decide
  rw [hheader]
  refine Directive.ofRaw?_eq_some_iff.2 ⟨hnormal.isRemark_written hcomment hindent, ?_⟩
  unfold Directive.read
  rw [hnormal.read_written hindent]
  rfl

/-! ## Plain texts -/

structure Line.Spanless (line : Line) : Prop where
  keyword : Template.Spanless line.keyword.toList
  args : ∀ arg ∈ line.args, Template.Spanless arg.toList

theorem Line.Spanless.written {line : Line} (h : line.Spanless) {indent : String}
    (hindent : ∀ c ∈ indent.toList, Text.isBlank c = true) :
    Template.Spanless (line.written indent).toList := by
  intro piece hpiece
  rw [Line.pieces_written hindent] at hpiece
  obtain ⟨part, hpart, hpiece⟩ := List.mem_flatMap.1 hpiece
  rcases List.mem_append.1 hpiece with hchar | hpiece
  · obtain ⟨c, -, rfl⟩ := List.mem_map.1 hchar
    rfl
  · have hmem : part.2 ∈ line.keyword :: line.args := by
      rw [← Line.map_snd_parts indent]
      exact List.mem_map_of_mem hpart
    rcases List.mem_cons.1 hmem with hkeyword | harg
    · exact h.keyword piece (hkeyword ▸ hpiece)
    · exact h.args _ harg piece hpiece

namespace Directive

/-- A `Host` line or a literal line, that needs no quotes. -/
inductive Plain : Directive → Prop where
  | host {name : String} (trimmed : IsTrimmed name) : Plain (.host name)
  | literal {line : Line} (tight : line.Tight) : Plain (.literal line)

/-- No span is in what the directive names or holds. -/
def Spanless : Directive → Prop
  | host name => Template.Spanless name.toList
  | literal line => line.Spanless
  | _ => True

/-- The directives from the first on that opens a section. -/
def fromFirstSection (directives : List Directive) : List Directive :=
  directives.dropWhile fun directive => !directive.opens

/-- A `Host` line or a literal line, that is read again from what is written of it. -/
inductive Restorable : Directive → Prop where
  | host {name : String} (trimmed : IsTrimmed name) : Restorable (.host name)
  | literal {line : Line} (restorable : line.Restorable) : Restorable (.literal line)

end Directive

/-- **A text made of remarks, `Host` lines and literal lines**, where no quotes are needed and no
    host holds a span. -/
structure PlainText (text : String) : Prop where
  lines : ∀ raw ∈ Text.lines text, Line.isRemark raw = false →
    ∃ directive, Directive.read raw = .ok directive ∧ directive.Plain
  spanless : ∀ directive ∈ Directive.fromFirstSection (Directive.ofText text), directive.Spanless

/-- Every line that is no remark is read as a directive that is read again from what is written of
    it. -/
def RestorableLines (lines : List String) : Prop :=
  ∀ raw ∈ lines, Line.isRemark raw = false →
    ∃ directive, Directive.read raw = .ok directive ∧ directive.Restorable

theorem PlainText.restorable {text : String} (h : PlainText text) :
    RestorableLines (Text.lines text) := by
  intro raw hraw hremark
  obtain ⟨directive, hread, hplain⟩ := h.lines raw hraw hremark
  refine ⟨directive, hread, ?_⟩
  cases hplain with
  | host trimmed => exact .host trimmed
  | literal tight =>
    obtain ⟨line, hline, hofLine⟩ := exists_of_bind_eq_ok hread
    obtain rfl := Directive.eq_of_ofLine_literal hofLine
    have hnormal := Line.normal_of_read hline hremark (Document.not_mem_of_mem_lines hraw) tight
    exact .literal ⟨hnormal, Line.noComment_of_read hline hremark, hofLine⟩

theorem RestorableLines.of_mem {lines : List String} (h : RestorableLines lines) :
    ∀ directive ∈ lines.filterMap Directive.ofRaw?, directive.Restorable := by
  intro directive hdirective
  obtain ⟨raw, hraw, hsome⟩ := List.mem_filterMap.1 hdirective
  obtain ⟨hremark, hread⟩ := Directive.ofRaw?_eq_some_iff.1 hsome
  obtain ⟨found, hfound, hrestorable⟩ := h raw hraw hremark
  obtain rfl := Except.ok.inj (hread.symm.trans hfound)
  exact hrestorable

/-! ## Reading -/

section Reading

variable {directives : List Directive} {bindings : Template.Variables}
variable {supplied : Option (List String)} {own later : Contents}

theorem Directive.resolvedAll_of_restorable (h : ∀ d ∈ directives, d.Restorable) :
    resolvedAll supplied bindings directives = directives := by
  induction directives with
  | nil => rfl
  | cons d rest ih =>
    obtain ⟨hd, hrest⟩ := List.forall_mem_cons.1 h
    have hself : d.resolved bindings = d ∧ d.bind supplied bindings = bindings := by
      cases hd <;> exact ⟨rfl, rfl⟩
    rw [resolvedAll, hself.1, hself.2, ih hrest]

/-- Nothing is out of place among hosts and literal lines. -/
theorem Contents.exists_obeyAll (h : ∀ d ∈ directives, d.Restorable) :
    ∃ later, own.obeyAll supplied directives = .ok later ∧ later.included = own.included := by
  induction directives generalizing own with
  | nil => exact ⟨own, rfl, rfl⟩
  | cons d rest ih =>
    obtain ⟨hd, hrest⟩ := List.forall_mem_cons.1 h
    obtain ⟨next, hnext, hincluded⟩ : ∃ next, own.obey supplied d = .ok next ∧
        next.included = own.included := by
      cases hd with
      | host => exact ⟨_, rfl, rfl⟩
      | literal =>
        refine ⟨_, rfl, ?_⟩
        unfold Contents.amend
        split <;> rfl
    obtain ⟨later, hlater, hsame⟩ : ∃ later, next.obeyAll supplied rest = .ok later ∧
        later.included = next.included := ih hrest
    refine ⟨later, ?_, hsame.trans hincluded⟩
    unfold obeyAll at hlater ⊢
    rw [List.foldlM_cons, hnext]
    exact hlater

namespace Document

theorem readLines_of_obeyAll {out : Outside} {readChild : ReadChild} {chain : Chain} {line : Nat}
    {lines : List String} {includes : List Document} (h : RestorableLines lines)
    (hobey : own.obeyAll supplied (lines.filterMap Directive.ofRaw?) = .ok later) :
    readLines out readChild chain supplied line lines ⟨own, includes⟩ = .pure ⟨later, includes⟩ := by
  induction lines generalizing own line with
  | nil =>
    obtain rfl := Except.ok.inj hobey
    rfl
  | cons raw rest ih =>
    obtain ⟨hraw, hrest⟩ := List.forall_mem_cons.1 h
    cases hremark : Line.isRemark raw with
    | true =>
      have hnone : Directive.ofRaw? raw = none := by simp [Directive.ofRaw?, hremark]
      rw [List.filterMap_cons_none hnone] at hobey
      rw [readLines_of_remark hremark]
      exact ih hrest hobey
    | false =>
      obtain ⟨directive, hread, hrestorable⟩ := hraw hremark
      have hsome := Directive.ofRaw?_eq_some_iff.2 ⟨hremark, hread⟩
      rw [List.filterMap_cons_some hsome] at hobey
      unfold Contents.obeyAll at hobey
      rw [List.foldlM_cons] at hobey
      obtain ⟨next, hnext, hlater⟩ := exists_of_bind_eq_ok hobey
      have hne : ∀ source args, directive ≠ .includes source args := by
        intro source args
        cases hrestorable <;> simp
      rw [readLines_of_obey hremark hread hne hnext]
      exact ih hrest hlater

/-- **A text of such lines can be read**, and is nothing but its directives laid out. -/
theorem exists_read_of_restorable {text : String} (h : RestorableLines (Text.lines text))
    (around : Surroundings) (locator : String) :
    ∃ own, read around locator text = .pure ⟨own, []⟩ ∧
      Contents.Filed (Directive.ofText text) own ∧ own.included = false := by
  obtain ⟨own, hobey, hincluded⟩ : ∃ own, (Contents.start locator false .empty).obeyAll none
      ((Text.lines text).filterMap Directive.ofRaw?) = .ok own ∧ own.included = false :=
    Contents.exists_obeyAll h.of_mem
  refine ⟨own, readLines_of_obeyAll h hobey, ?_, hincluded⟩
  have hfiled := Contents.filed_of_obeyAll (Contents.filed_start locator false .empty) hobey
  rwa [Directive.resolvedAll_of_restorable h.of_mem] at hfiled

end Document
end Reading

/-! ## Plain contents -/

/-- A host with a name and lines, and nothing else, that are written as they are. -/
structure Section.Plain (s : Section) : Prop where
  kind : s.kind = .host []
  parents : s.parents = []
  identities : s.identities = []
  name : IsTrimmed s.name ∧ Template.Spanless s.name.toList
  lines : ∀ line ∈ s.lines, line.Restorable ∧ line.Spanless

/-- The contents of a plain text. -/
structure Contents.Plain (own : Contents) : Prop where
  included : own.included = false
  root : ∀ line ∈ own.root.lines, line.Restorable
  sections : ∀ s ∈ own.sections, s.Plain

section Filing

variable {before directives : List Directive} {own : Contents}

theorem Directive.Restorable.line?_eq {d : Directive} (h : d.Restorable) {line : Line}
    (hline : d.line? = some line) : d = .literal line := by
  cases h with
  | host => cases hline
  | literal => exact congrArg _ (Option.some.inj hline)

/-- The lines of a stretch are literal lines in it. -/
theorem Directive.restorable_of_mem_stretch (h : ∀ d ∈ directives, d.Restorable) {line : Line}
    (hline : line ∈ (stretch directives).filterMap Directive.line?) :
    .literal line ∈ directives ∧ line.Restorable := by
  obtain ⟨d, hd, hsome⟩ := List.mem_filterMap.1 hline
  have hmem : d ∈ directives := (List.takeWhile_sublist _).subset hd
  obtain rfl := (h d hmem).line?_eq hsome
  refine ⟨hmem, ?_⟩
  cases h _ hmem with
  | literal restorable => exact restorable

theorem Directive.plain_of_mem_sectionsOf (h : ∀ d ∈ directives, d.Restorable)
    (hspanless : ∀ d ∈ fromFirstSection directives, d.Spanless) (hbefore : sinceHost before = []) :
    ∀ s ∈ sectionsOf before directives, s.Plain := by
  induction directives generalizing before with
  | nil => exact fun s hs => absurd hs (by simp [sectionsOf])
  | cons d rest ih =>
    obtain ⟨hd, hrest⟩ := List.forall_mem_cons.1 h
    have hbehind : sinceHost (before ++ [d]) = [] := by
      cases hd with
      | host => exact sinceHost_concat_of_host _
      | literal =>
        rw [sinceHost_concat rfl, hbefore]
        rfl
    intro s hs
    rw [sectionsOf] at hs
    cases hd with
    | @host name trimmed =>
      have hall : ∀ d ∈ .host name :: rest, d.Spanless := hspanless
      obtain ⟨hname, hothers⟩ := List.forall_mem_cons.1 hall
      rcases List.mem_append.1 hs with hs | hs
      · obtain rfl := List.mem_singleton.1 hs
        have hnone : ∀ d ∈ stretch rest, d.parent? = none ∧ d.identity? = none := by
          intro d hmem
          cases hrest d ((List.takeWhile_sublist _).subset hmem) <;> exact ⟨rfl, rfl⟩
        refine ⟨congrArg _ hbefore, ?_, ?_, ⟨trimmed, hname⟩, fun line hline => ?_⟩
        · exact List.filterMap_eq_nil_iff.2 fun d hmem => (hnone d hmem).1
        · exact List.filterMap_eq_nil_iff.2 fun d hmem => (hnone d hmem).2
        · obtain ⟨hmem, hrestorable⟩ := restorable_of_mem_stretch hrest hline
          exact ⟨hrestorable, hothers _ hmem⟩
      · refine ih hrest (fun d hd => ?_) hbehind s hs
        exact hothers d ((List.dropWhile_sublist _).subset hd)
    | literal =>
      exact ih hrest hspanless hbehind s hs

theorem Contents.Filed.plain (h : Filed directives own) (hincluded : own.included = false)
    (hrestorable : ∀ d ∈ directives, d.Restorable)
    (hspanless : ∀ d ∈ Directive.fromFirstSection directives, d.Spanless) : own.Plain := by
  refine ⟨hincluded, fun line hline => ?_, ?_⟩
  · rw [h.root] at hline
    exact (Directive.restorable_of_mem_stretch hrestorable hline).2
  · rw [h.sections]
    exact Directive.plain_of_mem_sectionsOf hrestorable hspanless rfl

end Filing

/-! ## Rendering -/

/-- The stanza of a host whose lines are written as they are. -/
def Section.plainStanza (s : Section) : Stanza :=
  ⟨some s.name, headerOf s.name :: s.lines.map (Line.written indentation)⟩

/-- The stanzas that plain contents are written as. -/
def Contents.plainStanzas (own : Contents) : List Stanza :=
  own.globalStanza :: own.sections.map Section.plainStanza

namespace Contents

variable {own : Contents} {keys : KeyLibrary} {place : Section × Nat}

theorem Plain.of_mem_hostPlaces (h : own.Plain) (hplace : place ∈ own.hostPlaces) :
    place.1.Plain :=
  h.sections _ (List.mem_of_getElem? (section_of_mem_hostPlaces hplace))

/-- A host without references and identities inherits its own lines. -/
theorem Plain.inherited (h : own.Plain) (hplace : place ∈ own.hostPlaces) :
    own.inherited keys place.2 = place.1.lines := by
  have hhost := h.of_mem_hostPlaces hplace
  unfold Contents.inherited resolveSection
  rw [section_of_mem_hostPlaces hplace]
  dsimp only
  have hreferences : place.1.references = [] := by
    unfold Section.references
    rw [hhost.parents, List.map_nil]
  have hblock : own.block keys place.1 = place.1.lines := by
    unfold block
    rw [hhost.identities, List.flatMap_nil, List.append_nil]
  rw [if_neg List.not_mem_nil, hreferences, walk, hblock]
  exact List.append_nil _

theorem Plain.hostPlaces (h : own.Plain) : own.hostPlaces = own.sections.zipIdx := by
  refine List.filter_eq_self.2 fun place hplace => ?_
  have hs : place.1 ∈ own.sections := List.mem_of_getElem? (List.mem_zipIdx_iff_getElem?.1 hplace)
  unfold Section.isHost
  rw [(h.sections _ hs).kind]

theorem Plain.templateVariables (h : own.Plain) (hplace : place ∈ own.hostPlaces) :
    place.1.templateVariables = [] := by
  unfold Section.templateVariables
  rw [(h.of_mem_hostPlaces hplace).kind]

/-- Nothing can be wrong with the hosts of a plain text. -/
theorem Plain.expands (h : own.Plain) (hwell : own.WellFormed) (keys : KeyLibrary) :
    own.Expands keys := by
  refine expands_of_not_hostFault hwell fun place hplace hfault => ?_
  have hhost := h.of_mem_hostPlaces hplace
  cases hfault with
  | @reference i s name reaches at_i names unnamed =>
    rw [(h.sections s (List.mem_of_getElem? at_i)).parents] at names
    exact absurd names List.not_mem_nil
  | domain declares chooses faulty =>
    rw [h.templateVariables hplace] at declares
    exact absurd declares List.not_mem_nil
  | @span text span chosen written holds unbound =>
    have hspanless : Template.Spanless text.toList := by
      rcases List.mem_cons.1 written with rfl | written
      · exact hhost.name.2
      · rw [h.inherited hplace] at written
        obtain ⟨line, hline, rfl⟩ := List.mem_map.1 written
        exact (hhost.lines line hline).2.written isBlank_of_mem_indentation
    exact absurd (hspanless _ holds) (by simp [Piece.isSpan])

theorem Plain.stanzaOf (h : own.Plain) (hplace : place ∈ own.hostPlaces)
    (combination : Combination) :
    own.stanzaOf keys place combination = place.1.plainStanza := by
  have hhost := h.of_mem_hostPlaces hplace
  have hlines : ∀ line ∈ place.1.lines,
      own.filled combination (line.written indentation) = line.written indentation :=
    fun line hline =>
      ((hhost.lines line hline).2.written isBlank_of_mem_indentation).substituteBound
  unfold Contents.stanzaOf Section.plainStanza
  rw [h.inherited hplace, List.map_congr_left hlines]
  unfold filled
  rw [hhost.name.2.substituteBound]

theorem Plain.expanded (h : own.Plain) :
    own.expanded keys = own.sections.map Section.plainStanza := by
  have hone : ∀ place ∈ own.hostPlaces,
      (crossProduct place.1.axes).map (own.stanzaOf keys place) = [place.1.plainStanza] := by
    intro place hplace
    unfold Section.axes
    rw [h.templateVariables hplace]
    exact congrArg (· :: []) (h.stanzaOf hplace [])
  unfold Contents.expanded
  have hsections : own.sections.map Section.plainStanza =
      own.sections.zipIdx.map fun place => place.1.plainStanza := by
    conv_lhs => rw [← List.zipIdx_map_fst 0 own.sections, List.map_map]
    rfl
  rw [List.flatMap_congr hone, h.hostPlaces, hsections, List.map_eq_flatMap]

/-- **The stanzas of plain contents are its sections**, behind that of the global lines. -/
theorem Plain.exists_render (h : own.Plain) (hwell : own.WellFormed) (keys : KeyLibrary) :
    ∃ rendering, Document.render ⟨own, []⟩ keys = .ok rendering ∧
      rendering.stanzas = own.plainStanzas := by
  obtain ⟨rendering, hrender⟩ := Document.exists_renderAfter_eq_ok ⟨own, []⟩ ∅
    (List.forall_mem_singleton.2 (h.expands hwell keys))
  have hmarked : Document.Marked ⟨own, []⟩ := ⟨h.included, fun _ hnone => absurd hnone (by
    simp [Document.preorderAll])⟩
  refine ⟨rendering, hrender, ?_⟩
  rw [Document.stanzas_of_marked hmarked hrender]
  unfold plainStanzas
  rw [← h.expanded]
  exact congrArg _ (List.flatMap_singleton _ own)

end Contents

end SshTemplate
