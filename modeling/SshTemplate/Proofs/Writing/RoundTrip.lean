import SshTemplate.Proofs.Writing.Plain

/-!
# `Proofs.Writing.RoundTrip` — what is written of a plain document is that document

Rendering a plain text should change nothing but the order of its global lines. Every line of its
stanzas is read as the directive it was written from, and the empty lines between them are remarks.
So the written text has the directives of the first one, with those before the first host sorted
(`ofText_textOf`). What these are laid out in is known without another look at the text
(`of_filed`), and the second document comes out of it by the same lemmas as the first.
-/

set_option autoImplicit false

namespace SshTemplate

open Directive (stretch sinceHost sectionsOf)

/-! ## Reading what was written -/

/-- The directives that a section is written as. -/
def Section.directives (s : Section) : List Directive := .host s.name :: s.lines.map .literal

/-- The directives that plain contents are written as. -/
def Contents.directives (own : Contents) : List Directive :=
  (Order.sort Line.le own.root.lines).map .literal ++ own.sections.flatMap Section.directives

theorem filterMap_ofRaw?_written {lines : List Line} (h : ∀ line ∈ lines, line.Restorable)
    {indent : String} (hindent : ∀ c ∈ indent.toList, Text.isBlank c = true) :
    (lines.map (Line.written indent)).filterMap Directive.ofRaw? = lines.map .literal := by
  rw [List.filterMap_map, ← List.filterMap_eq_map]
  exact List.filterMap_congr fun line hline => (h line hline).ofRaw?_written hindent

theorem Section.Plain.filterMap_ofRaw? {s : Section} (h : s.Plain) :
    s.plainStanza.lines.filterMap Directive.ofRaw? = s.directives := by
  unfold Section.plainStanza Section.directives
  rw [List.filterMap_cons_some (ofRaw?_headerOf h.name.1),
    filterMap_ofRaw?_written (fun line hline => (h.lines line hline).1)
      Contents.isBlank_of_mem_indentation]

/-- The lines between paragraphs ask for nothing. -/
theorem filterMap_intercalate {α : Type} {f : String → Option α} (hempty : f "" = none)
    (paragraphs : List (List String)) :
    ([""].intercalate paragraphs).filterMap f = paragraphs.flatten.filterMap f := by
  induction paragraphs with
  | nil => rfl
  | cons first rest ih =>
    cases rest with
    | nil => rw [List.intercalate_singleton, List.flatten_singleton]
    | cons second others =>
      rw [List.intercalate_cons_cons, List.filterMap_append, List.filterMap_append, ih,
        List.flatten_cons, List.filterMap_append]
      simp [hempty]

namespace Contents

variable {own : Contents}

theorem lines_plainStanzas (hwell : own.WellFormed) (hunbroken : own.IsUnbroken) :
    ∀ stanza ∈ own.plainStanzas, ∀ line ∈ stanza.lines,
      line ≠ "" ∧ SshTemplate.IsUnbroken line := by
  intro stanza hstanza
  rcases List.mem_cons.1 hstanza with rfl | hstanza
  · exact lines_globalStanza hwell hunbroken
  · obtain ⟨s, hs, rfl⟩ := List.mem_map.1 hstanza
    intro text htext
    rcases List.mem_cons.1 htext with rfl | htext
    · have hfront : SshTemplate.IsUnbroken "Host = " := by decide
      exact ⟨by simp [headerOf], hfront.append (hunbroken.names s hs)⟩
    · obtain ⟨line, hline, rfl⟩ := List.mem_map.1 htext
      exact ⟨((hwell.sections s hs).lines line hline).written_ne_empty indentation,
        (hunbroken.lines s hs line hline).written (by decide)⟩

theorem Plain.mem_root (h : own.Plain) :
    ∀ line ∈ Order.sort Line.le own.root.lines, line.Restorable :=
  fun line hline => h.root line ((Order.sort_perm Line.le _).mem_iff.1 hline)

theorem Plain.restorable_directives (h : own.Plain) : ∀ d ∈ own.directives, d.Restorable := by
  intro d hd
  rcases List.mem_append.1 hd with hd | hd
  · obtain ⟨line, hline, rfl⟩ := List.mem_map.1 hd
    exact .literal (h.mem_root line hline)
  · obtain ⟨s, hs, hd⟩ := List.mem_flatMap.1 hd
    rcases List.mem_cons.1 hd with rfl | hd
    · exact .host (h.sections s hs).name.1
    · obtain ⟨line, hline, rfl⟩ := List.mem_map.1 hd
      exact .literal ((h.sections s hs).lines line hline).1

/-- Every line of the stanzas asks for something. -/
theorem Plain.exists_ofRaw? (h : own.Plain) :
    ∀ stanza ∈ own.plainStanzas, ∀ raw ∈ stanza.lines,
      ∃ directive, Directive.ofRaw? raw = some directive := by
  intro stanza hstanza raw hraw
  rcases List.mem_cons.1 hstanza with rfl | hstanza
  · obtain ⟨line, hline, rfl⟩ := List.mem_map.1 hraw
    exact ⟨_, (h.mem_root line hline).ofRaw?_written (by simp)⟩
  · obtain ⟨s, hs, rfl⟩ := List.mem_map.1 hstanza
    rcases List.mem_cons.1 hraw with rfl | hraw
    · exact ⟨_, ofRaw?_headerOf (h.sections s hs).name.1⟩
    · obtain ⟨line, hline, rfl⟩ := List.mem_map.1 hraw
      exact ⟨_, ((h.sections s hs).lines line hline).1.ofRaw?_written isBlank_of_mem_indentation⟩

theorem Plain.filterMap_plainStanzas (h : own.Plain) :
    own.plainStanzas.flatMap (fun stanza => stanza.lines.filterMap Directive.ofRaw?) =
      own.directives := by
  unfold plainStanzas directives
  rw [List.flatMap_cons, List.flatMap_map]
  refine congrArg₂ _ (filterMap_ofRaw?_written h.mem_root (by simp)) ?_
  exact List.flatMap_congr fun s hs => (h.sections s hs).filterMap_ofRaw?

/-- **What is written of plain contents has their directives**, the global ones sorted. -/
theorem Plain.ofText_textOf (h : own.Plain) (hwell : own.WellFormed) (hunbroken : own.IsUnbroken) :
    RestorableLines (Text.lines (Stanza.textOf own.plainStanzas)) ∧
      Directive.ofText (Stanza.textOf own.plainStanzas) = own.directives := by
  have hlines := (Stanza.paragraphs_textOf (lines_plainStanzas hwell hunbroken)).1
  have hempty : Directive.ofRaw? "" = none := by
    have hremark : Line.isRemark "" = true := by decide
    simp [Directive.ofRaw?, hremark]
  have hread : Directive.ofText (Stanza.textOf own.plainStanzas) = own.directives := by
    unfold Directive.ofText
    rw [hlines, List.filterMap_append, filterMap_intercalate hempty]
    unfold Stanza.paragraphs
    rw [List.flatten_filter_not_isEmpty, List.filterMap_flatten, ← h.filterMap_plainStanzas,
      List.map_map, List.filterMap_cons_none hempty, List.filterMap_nil, List.append_nil]
    rfl
  refine ⟨fun raw hraw hremark => ?_, hread⟩
  obtain ⟨directive, hsome⟩ : ∃ directive, Directive.ofRaw? raw = some directive := by
    have hmem := hraw
    rw [hlines] at hmem
    have hnoRemark : raw ≠ "" := by
      rintro rfl
      exact absurd hremark (by decide)
    rcases List.mem_append.1 hmem with hmem | hmem
    · obtain ⟨paragraph, hparagraph, hmem⟩ :=
        (Stanza.mem_intercalate hmem).resolve_left hnoRemark
      obtain ⟨stanza, hstanza, rfl⟩ := List.mem_map.1 (List.mem_filter.1 hparagraph).1
      exact h.exists_ofRaw? stanza hstanza raw hmem
    · exact absurd (List.mem_singleton.1 hmem) hnoRemark
  have hdirective : directive ∈ own.directives := by
    rw [← hread]
    exact List.mem_filterMap.2 ⟨raw, hraw, hsome⟩
  exact ⟨directive, (Directive.ofRaw?_eq_some_iff.1 hsome).2,
    h.restorable_directives directive hdirective⟩

end Contents

/-! ## Laying out directives that were laid out -/

section Layout

variable {before : List Directive}

theorem Directive.sectionsOf_append_of_closed {front : List Directive}
    (h : ∀ d ∈ front, d.opens = false) (back : List Directive) :
    sectionsOf before (front ++ back) = sectionsOf (before ++ front) back := by
  induction front generalizing before with
  | nil => rw [List.nil_append, List.append_nil]
  | cons d rest ih =>
    obtain ⟨hd, hrest⟩ := List.forall_mem_cons.1 h
    rw [List.cons_append, sectionsOf, toSection?_of_not_opens hd, Option.toList_none,
      List.nil_append, ih hrest, List.append_assoc, List.singleton_append]

theorem Directive.sinceHost_append_literals (lines : List Line) :
    sinceHost (before ++ lines.map .literal) = sinceHost before := by
  induction lines generalizing before with
  | nil => rw [List.map_nil, List.append_nil]
  | cons line rest ih =>
    rw [List.map_cons, ← List.singleton_append, ← List.append_assoc, ih, sinceHost_concat rfl]
    exact List.append_nil _

theorem Directive.opens_of_mem_literals {lines : List Line} :
    ∀ d ∈ lines.map Directive.literal, d.opens = false := by
  intro d hd
  obtain ⟨line, -, rfl⟩ := List.mem_map.1 hd
  rfl

/-- The literal lines before the sections are the first stretch. -/
theorem Directive.stretch_literals_append (lines : List Line) (sections : List Section) :
    stretch (lines.map .literal ++ sections.flatMap Section.directives) = lines.map .literal := by
  unfold stretch
  rw [List.takeWhile_append_of_pos fun d hd => by simp [opens_of_mem_literals d hd]]
  cases sections with
  | nil => simp
  | cons s rest => exact List.append_nil _

theorem Section.Plain.addAll {s : Section} (h : s.Plain) :
    (Section.opened s.name (.host [])).addAll (s.lines.map .literal) = s := by
  have hline : (s.lines.map Directive.literal).filterMap Directive.line? = s.lines := by
    rw [List.filterMap_map]
    exact List.filterMap_some
  have hnone : ∀ d ∈ s.lines.map Directive.literal, d.parent? = none ∧ d.identity? = none := by
    intro d hd
    obtain ⟨line, -, rfl⟩ := List.mem_map.1 hd
    exact ⟨rfl, rfl⟩
  have hparent := List.filterMap_eq_nil_iff.2 fun d hd => (hnone d hd).1
  have hidentity := List.filterMap_eq_nil_iff.2 fun d hd => (hnone d hd).2
  obtain ⟨name, kind, lines, parents, identities⟩ := s
  obtain ⟨hkind, hparents, hidentities, -, -⟩ := h
  dsimp only at hkind hparents hidentities
  subst hkind hparents hidentities
  unfold Section.addAll
  rw [hline, hparent, hidentity]
  rfl

/-- Hosts are found again where their directives are laid out. -/
theorem Directive.sectionsOf_directives {sections : List Section} (h : ∀ s ∈ sections, s.Plain)
    (hbefore : sinceHost before = []) :
    sectionsOf before (sections.flatMap Section.directives) = sections := by
  induction sections generalizing before with
  | nil => rfl
  | cons s rest ih =>
    obtain ⟨hs, hrest⟩ := List.forall_mem_cons.1 h
    have hbehind : sinceHost (before ++ [.host s.name] ++ s.lines.map .literal) = [] := by
      rw [sinceHost_append_literals, sinceHost_concat_of_host]
    rw [List.flatMap_cons]
    unfold Section.directives
    rw [List.cons_append, sectionsOf]
    have hstretch := stretch_literals_append s.lines rest
    unfold Section.directives at hstretch
    rw [hstretch, hbefore, sectionsOf_append_of_closed opens_of_mem_literals]
    exact congrArg₂ _ hs.addAll (ih hrest hbehind)

/-- **What is laid out of the directives of plain contents is those contents**, their global lines
    sorted. -/
theorem Contents.Plain.of_filed {own again : Contents} (h : own.Plain)
    (hfiled : Filed own.directives again) (hincluded : again.included = false) :
    again.sections = own.sections ∧ again.root.lines = Order.sort Line.le own.root.lines ∧
      again.Plain := by
  have hsections : again.sections = own.sections := by
    rw [hfiled.sections]
    unfold directives
    rw [Directive.sectionsOf_append_of_closed Directive.opens_of_mem_literals]
    exact Directive.sectionsOf_directives h.sections (Directive.sinceHost_append_literals _)
  have hroot : again.root.lines = Order.sort Line.le own.root.lines := by
    rw [hfiled.root]
    unfold directives Section.addAll
    rw [Directive.stretch_literals_append, List.filterMap_map]
    exact List.filterMap_some
  refine ⟨hsections, hroot, hincluded, ?_, hsections ▸ h.sections⟩
  rw [hroot]
  exact h.mem_root

end Layout

theorem Line.sort_sort (lines : List Line) :
    Order.sort le (Order.sort le lines) = Order.sort le lines :=
  List.mergeSort_of_pairwise ((pairwise_sort lines).imp fun h => le_iff_precedes.2 h)

namespace Document

/-- Plain contents are rendered as their own sections, and what is written has their directives. -/
theorem exists_render_of_plain {around : Surroundings} {locator text : String} {own : Contents}
    (hread : read around locator text = .pure ⟨own, []⟩) (h : own.Plain) (keys : KeyLibrary) :
    ∃ rendering, render ⟨own, []⟩ keys = .ok rendering ∧
      rendering.text = Stanza.textOf own.plainStanzas ∧
      RestorableLines (Text.lines rendering.text) ∧
      Directive.ofText rendering.text = own.directives := by
  have hreadAs : ReadAs around.outside locator text ⟨own, []⟩ :=
    readAs_of_read (congrArg Logged.outcome hread)
  have hmem : own ∈ preorder ⟨own, []⟩ := by simp [preorder]
  have hwell := wellFormed_of_readAs hreadAs own hmem
  obtain ⟨rendering, hrender, hstanzas⟩ := h.exists_render hwell keys
  have htext : rendering.text = Stanza.textOf own.plainStanzas := congrArg Stanza.textOf hstanzas
  refine ⟨rendering, hrender, htext, ?_⟩
  rw [htext]
  exact h.ofText_textOf hwell (isUnbroken_of_readAs hreadAs own hmem)

/-- **A plain text comes back from what is written of it.** A text made of remarks, `Host` lines and
    literal lines, where no quotes are needed and no host holds a span, is read without asking for
    anything, and can be rendered; what is written is read as a document with the same sections and
    with the same global lines in order; and rendering that document gives the same text again. -/
theorem plain_text_round_trips {text : String} (h : PlainText text) (around : Surroundings)
    (locator : String) :
    ∃ document, read around locator text = .pure document ∧ document.includes = [] ∧
      ∀ keys, ∃ rendering, document.render keys = .ok rendering ∧
        ∀ (around' : Surroundings) (locator' : String),
          ∃ again, read around' locator' rendering.text = .pure again ∧ again.includes = [] ∧
            again.contents.sections = document.contents.sections ∧
            again.contents.root.lines.Perm document.contents.root.lines ∧
            again.contents.root.lines.Pairwise Line.Precedes ∧
            ∀ keys', ∃ rendering', again.render keys' = .ok rendering' ∧
              rendering'.text = rendering.text := by
  obtain ⟨own, hread, hfiled, hincluded⟩ := exists_read_of_restorable h.restorable around locator
  have hplain := hfiled.plain hincluded h.restorable.of_mem h.spanless
  refine ⟨⟨own, []⟩, hread, rfl, fun keys => ?_⟩
  obtain ⟨rendering, hrender, htext, hlines, hdirectives⟩ :=
    exists_render_of_plain hread hplain keys
  refine ⟨rendering, hrender, fun around' locator' => ?_⟩
  obtain ⟨again, hread', hfiled', hincluded'⟩ := exists_read_of_restorable hlines around' locator'
  rw [hdirectives] at hfiled'
  obtain ⟨hsections, hroot, hplain'⟩ := hplain.of_filed hfiled' hincluded'
  refine ⟨⟨again, []⟩, hread', rfl, hsections, ?_, ?_, fun keys' => ?_⟩
  · exact hroot ▸ Order.sort_perm Line.le _
  · exact hroot ▸ Line.pairwise_sort _
  · obtain ⟨rendering', hrender', htext', -⟩ := exists_render_of_plain hread' hplain' keys'
    refine ⟨rendering', hrender', ?_⟩
    rw [htext', htext]
    unfold Contents.plainStanzas Contents.globalStanza
    rw [hsections, hroot, Line.sort_sort]

def moorText : String := "Zone b\nArea = a <c>\n\nHost near\n# far\n  Send a b"

theorem plainText_moor : PlainText moorText := by
  have hlines : Text.lines moorText =
      ["Zone b", "Area = a <c>", "", "Host near", "# far", "  Send a b"] := by
    cbv
  have hzone : Directive.read "Zone b" = .ok (.literal ⟨"Zone", ["b"]⟩) := by cbv
  have harea : Directive.read "Area = a <c>" = .ok (.literal ⟨"Area", ["a <c>"]⟩) := by cbv
  have hhost : Directive.read "Host near" = .ok (.host "near") := by cbv
  have hsend : Directive.read "  Send a b" = .ok (.literal ⟨"Send", ["a", "b"]⟩) := by cbv
  have hsole : ∀ keyword arg, IsTrimmed arg → Line.Tight ⟨keyword, [arg]⟩ := by
    intro keyword arg harg
    exact ⟨fun other hother => List.singleton_injective hother ▸ harg, fun hne => absurd rfl hne⟩
  refine ⟨?_, ?_⟩
  · rw [hlines]
    intro raw hraw hremark
    simp only [List.mem_cons, List.not_mem_nil, or_false] at hraw
    rcases hraw with rfl | rfl | rfl | rfl | rfl | rfl
    · exact ⟨_, hzone, .literal (hsole _ _ (by decide))⟩
    · exact ⟨_, harea, .literal (hsole _ _ (by decide))⟩
    · exact absurd hremark (by decide)
    · exact ⟨_, hhost, .host (by decide)⟩
    · exact absurd hremark (by decide)
    · refine ⟨_, hsend, .literal ⟨fun arg harg => absurd harg (by simp), fun _ => ?_⟩⟩
      have hwords : Text.isBlank 'a' = false ∧ Text.isBlank 'b' = false := by decide
      simpa using hwords
  · have hdirectives : Directive.ofText moorText = [.literal ⟨"Zone", ["b"]⟩,
        .literal ⟨"Area", ["a <c>"]⟩, .host "near", .literal ⟨"Send", ["a", "b"]⟩] := by
      have hsome : ∀ {raw directive}, Directive.read raw = .ok directive →
          Line.isRemark raw = false → Directive.ofRaw? raw = some directive :=
        fun hread hremark => Directive.ofRaw?_eq_some_iff.2 ⟨hremark, hread⟩
      unfold Directive.ofText
      rw [hlines, List.filterMap_cons_some (hsome hzone (by decide)),
        List.filterMap_cons_some (hsome harea (by decide)), List.filterMap_cons_none (by cbv),
        List.filterMap_cons_some (hsome hhost (by decide)), List.filterMap_cons_none (by cbv),
        List.filterMap_cons_some (hsome hsend (by decide)), List.filterMap_nil]
    rw [hdirectives]
    intro directive hdirective
    have hmem : directive ∈ [.host "near", .literal ⟨"Send", ["a", "b"]⟩] := hdirective
    simp only [List.mem_cons, List.not_mem_nil, or_false] at hmem
    rcases hmem with rfl | rfl
    · show Template.Spanless _
      decide
    · exact ⟨by decide, by decide⟩

theorem moor_round_trips :
    PlainText moorText ∧ ∃ document rendering again,
      read harbour "moor" moorText = .pure document ∧
      document.render (.empty "") = .ok rendering ∧
      read harbour "again" rendering.text = .pure again ∧
      again.contents.sections = document.contents.sections := by
  obtain ⟨document, hread, -, hall⟩ := plain_text_round_trips plainText_moor harbour "moor"
  obtain ⟨rendering, hrender, hagain⟩ := hall (.empty "")
  obtain ⟨again, hread', -, hsections, -⟩ := hagain harbour "again"
  exact ⟨plainText_moor, document, rendering, again, hread, hrender, hread', hsections⟩

end Document
end SshTemplate
