import SshTemplate.Proofs.Reading.Steps
import SshTemplate.Proofs.Rendering.Flattening
import SshTemplate.Proofs.Template.Filling

/-!
# `Proofs.Rendering.Stanzas` — a rendering is the flattening

Rendering threads two things through the tree, the names it has seen and the warnings, and it may
stop at any line. What it emits depends on neither. One lemma per level says so — a host
(`hostStanzas_eq_ok`), a document (`render_eq_ok`), the tree (`stanzas_renderAfter`) — each of the
form: *if* something comes of it, it is the part of the flattening that belongs there, and no part
of that was a default (`Expands`).

The tree alone does not know which of its documents is the top one. `render` goes by a mark that
reading leaves, so the last step is about reading: the top document is unmarked, and every other one
is marked (`included_of_readWithin`).
-/

set_option autoImplicit false

namespace SshTemplate

open Template (Combination Combinations HostTemplate crossProduct bound substitute)

namespace Contents

variable {own : Contents} {keys : KeyLibrary}

/-! ## One host -/

/-- Nothing that the stanzas of a host are made of is missing. -/
structure HostExpands (own : Contents) (keys : KeyLibrary) (place : Section × Nat) : Prop where
  /-- Its references lead to sections, and what it inherits is the preorder of them. -/
  resolved : (own.resolveSection keys place.2 []).outcome = .ok (own.inherited keys place.2)
  contributes : ∃ order,
    own.Contributes keys [] place.2 (own.resolveSection keys place.2 []) order
  /-- Its lines can be written, -/
  written : ∀ line ∈ own.inherited keys place.2,
    writeLine indentation line = .ok (line.written indentation)
  /-- its domains are well-formed, -/
  domains : ∀ declared ∈ place.1.templateVariables,
    Template.domainValues declared.domain = .ok declared.values
  /-- and every choice of values binds every span. -/
  bound : ∀ combination ∈ crossProduct place.1.axes, ∀ text ∈ own.hostTexts keys place,
    substitute (bound combination own.bindings) text = .ok (own.filled combination text)

theorem eq_map_written {error : Unwritable → Error} {indent : String} {lines : List Line}
    {texts : List String}
    (h : (lines.mapM (writeLine indent)).mapError error = .ok texts) :
    texts = lines.map (Line.written indent) ∧
      ∀ line ∈ lines, writeLine indent line = .ok (line.written indent) := by
  have hlines := eq_ok_of_mapError h
  refine ⟨eq_map_of_mapM_eq_ok (fun line _ text => Line.eq_written_of_writeLine) hlines, ?_⟩
  intro line hline
  obtain ⟨text, htext⟩ := forall_of_mapM_eq_ok hlines line hline
  rw [htext, Line.eq_written_of_writeLine htext]

theorem templateOf_eq_ok {place : Section × Nat} {template : HostTemplate}
    (hs : own.sections[place.2]? = some place.1)
    (h : (own.templateOf keys place.2).outcome = .ok template) :
    template = ⟨place.1.name, (own.inherited keys place.2).map (Line.written indentation)⟩ ∧
      (own.resolveSection keys place.2 []).outcome = .ok (own.inherited keys place.2) ∧
      ∀ line ∈ own.inherited keys place.2,
        writeLine indentation line = .ok (line.written indentation) := by
  unfold templateOf at h
  dsimp only at h
  rw [hs] at h
  obtain ⟨lines, hlines, h⟩ := exists_of_bind_eq_ok h
  obtain ⟨texts, htexts, h⟩ := exists_of_bind_eq_ok h
  have hinherited : own.inherited keys place.2 = lines := by
    unfold inherited
    rw [hlines]
  obtain ⟨rfl, hwritten⟩ := eq_map_written htexts
  rw [hinherited]
  exact ⟨(Except.ok.inj h).symm, hlines, hwritten⟩

theorem instantiate_eq_ok {template : HostTemplate} {combination : Combination} {stanza : Stanza}
    (h : template.instantiate (Template.bound combination own.bindings) = .ok stanza) :
    stanza = ⟨some (own.filled combination template.host),
        headerOf (own.filled combination template.host) ::
          template.lines.map (own.filled combination)⟩ ∧
      ∀ text ∈ template.host :: template.lines,
        substitute (Template.bound combination own.bindings) text =
          .ok (own.filled combination text) := by
  obtain ⟨host, lines, hhost, hlines, rfl⟩ := Template.instantiate_eq_ok_iff.1 h
  have hfilled : ∀ text filled, substitute (Template.bound combination own.bindings) text =
      .ok filled → filled = own.filled combination text :=
    fun text filled => Template.eq_substituteBound_of_substitute
  have hname := hfilled _ _ hhost
  have hrest : lines = template.lines.map (own.filled combination) :=
    eq_map_of_mapM_eq_ok (fun text _ => hfilled text) hlines
  refine ⟨?_, fun text htext => ?_⟩
  · rw [← hname, ← hrest]
  · rcases List.mem_cons.1 htext with rfl | htext
    · rw [hhost, hname]
    · obtain ⟨filled, hfill⟩ := forall_of_mapM_eq_ok hlines text htext
      rw [hfill, hfilled _ _ hfill]

/-- **What a host gives is one stanza for each element of its cross product.** -/
theorem hostStanzas_eq_ok {place : Section × Nat} {stanzas : List Stanza}
    (hs : own.sections[place.2]? = some place.1)
    (h : (own.hostStanzas keys place.2 place.1).outcome = .ok stanzas) :
    stanzas = (crossProduct place.1.axes).map (own.stanzaOf keys place) ∧
      own.HostExpands keys place := by
  obtain ⟨template, htemplate, h⟩ := Logged.exists_of_bind_eq_ok h
  obtain ⟨rfl, hresolved, hwritten⟩ := templateOf_eq_ok hs htemplate
  obtain ⟨combinations, hcombinations, h⟩ := exists_of_bind_eq_ok (eq_ok_of_mapError h)
  rw [Combinations.visit_eq_mapM, Template.toList_ofVariables hcombinations] at h
  have hindex : place.2 < own.sections.length := (List.getElem?_eq_some_iff.1 hs).1
  refine ⟨?_, hresolved, resolveSection_contributes hindex hresolved, hwritten,
    (Template.axes_of_ofVariables hcombinations).1, fun combination hc text htext => ?_⟩
  · refine eq_map_of_mapM_eq_ok (fun combination _ stanza hstanza => ?_) h
    rw [(instantiate_eq_ok hstanza).1]
    unfold stanzaOf
    rw [List.map_map]
    rfl
  · obtain ⟨stanza, hstanza⟩ := forall_of_mapM_eq_ok h combination hc
    exact (instantiate_eq_ok hstanza).2 text htext

theorem outcome_templateOf {place : Section × Nat} (hs : own.sections[place.2]? = some place.1)
    (hresolved :
      (own.resolveSection keys place.2 []).outcome = .ok (own.inherited keys place.2))
    (hwritten : ∀ line ∈ own.inherited keys place.2,
      writeLine indentation line = .ok (line.written indentation)) :
    (own.templateOf keys place.2).outcome =
      .ok ⟨place.1.name, (own.inherited keys place.2).map (Line.written indentation)⟩ := by
  unfold templateOf writeLines
  dsimp only
  rw [hs, hresolved]
  show (do
    let written ← (List.mapM (writeLine indentation) (own.inherited keys place.2)).mapError _
    pure _) = _
  rw [mapM_eq_ok hwritten]
  rfl

theorem outcome_hostStanzas {place : Section × Nat} (hs : own.sections[place.2]? = some place.1)
    (h : own.HostExpands keys place) :
    (own.hostStanzas keys place.2 place.1).outcome =
      .ok ((crossProduct place.1.axes).map (own.stanzaOf keys place)) := by
  obtain ⟨combinations, hcombinations⟩ := Template.exists_ofVariables h.domains
  have hinstantiate : ∀ combination ∈ crossProduct place.1.axes,
      HostTemplate.instantiate
        ⟨place.1.name, (own.inherited keys place.2).map (Line.written indentation)⟩
        (Template.bound combination own.bindings) = .ok (own.stanzaOf keys place combination) := by
    intro combination hc
    have hbound := List.forall_mem_cons.1 (h.bound combination hc)
    unfold HostTemplate.instantiate stanzaOf
    rw [hbound.1, mapM_eq_ok hbound.2, List.map_map]
    rfl
  have hlist : combinations.toList = crossProduct place.1.axes :=
    Template.toList_ofVariables hcombinations
  unfold hostStanzas
  rw [Logged.bind_of_ok (outcome_templateOf hs h.resolved h.written), hcombinations]
  show Except.mapError _ (combinations.visit _) = _
  rw [Combinations.visit_eq_mapM, hlist, mapM_eq_ok hinstantiate]
  rfl

/-! ## One document -/

/-- Nothing that a document emits is missing. -/
structure Expands (own : Contents) (keys : KeyLibrary) : Prop where
  globals : ∀ line ∈ own.root.lines, writeLine "" line = .ok (line.written "")
  hosts : ∀ place ∈ own.hostPlaces, own.HostExpands keys place

/-- What a document emits: the stanza of its global lines if it is the top one, and its hosts. -/
def emitted (own : Contents) (keys : KeyLibrary) : List Stanza :=
  (if own.included then [] else [own.globalStanza]) ++ own.expanded keys

theorem section_of_mem_hostPlaces {place : Section × Nat} (h : place ∈ own.hostPlaces) :
    own.sections[place.2]? = some place.1 :=
  List.mem_zipIdx_iff_getElem?.1 (List.mem_filter.1 h).1

theorem allStanzas_eq_ok {stanzas : List Stanza}
    (h : (own.allStanzas keys).outcome = .ok stanzas) :
    stanzas = own.expanded keys ∧ ∀ place ∈ own.hostPlaces, own.HostExpands keys place := by
  obtain ⟨parts, hparts, h⟩ := Logged.exists_of_bind_eq_ok h
  obtain rfl : parts.flatten = stanzas := Except.ok.inj h
  constructor
  · have hplace : ∀ place ∈ own.hostPlaces, ∀ part,
        (own.hostStanzas keys place.2 place.1).outcome = .ok part →
          part = (crossProduct place.1.axes).map (own.stanzaOf keys place) := by
      intro place hp part hpart
      exact (hostStanzas_eq_ok (section_of_mem_hostPlaces hp) hpart).1
    rw [Logged.eq_map_of_forEach_eq_ok hplace hparts]
    rfl
  · intro place hp
    obtain ⟨stanzas, hstanzas⟩ := Logged.forall_of_forEach_eq_ok hparts place hp
    exact (hostStanzas_eq_ok (section_of_mem_hostPlaces hp) hstanzas).2

theorem expands_of_eq_ok {globals : List String} {stanzas : List Stanza}
    (hglobals : own.globals = .ok globals)
    (hstanzas : (own.allStanzas keys).outcome = .ok stanzas) : own.Expands keys := by
  refine ⟨fun line hline => ?_, (allStanzas_eq_ok hstanzas).2⟩
  exact (eq_map_written hglobals).2 line ((Order.sort_perm _ _).mem_iff.2 hline)

theorem render_eq_ok {seen : Order.TextSet} {rendering : Rendering}
    (h : own.render keys seen = .ok rendering) :
    rendering.stanzas = own.emitted keys ∧ own.Expands keys := by
  obtain ⟨globals, hglobals, h⟩ := exists_of_bind_eq_ok h
  obtain ⟨stanzas, hstanzas, h⟩ := exists_of_bind_eq_ok h
  obtain rfl := Except.ok.inj h
  refine ⟨?_, expands_of_eq_ok hglobals hstanzas⟩
  obtain ⟨rfl, -⟩ := allStanzas_eq_ok hstanzas
  obtain ⟨rfl, -⟩ := eq_map_written hglobals
  show (own.globalPart _).stanzas ++ own.expanded keys = _
  unfold globalPart emitted
  by_cases hi : own.included = true
  · rw [if_pos hi, if_pos hi]
  · rw [if_neg hi, if_neg hi]
    rfl

theorem exists_render_eq_ok (h : own.Expands keys) (seen : Order.TextSet) :
    ∃ rendering, own.render keys seen = .ok rendering := by
  have hglobals : own.globals =
      .ok ((Order.sort Line.le own.root.lines).map (Line.written "")) := by
    have hwritten : ∀ line ∈ Order.sort Line.le own.root.lines,
        writeLine "" line = .ok (line.written "") := by
      intro line hline
      exact h.globals line ((Order.sort_perm _ _).mem_iff.1 hline)
    unfold globals writeLines
    rw [mapM_eq_ok hwritten]
    rfl
  have hstanzas : (own.allStanzas keys).outcome = .ok (own.expanded keys) := by
    have hplaces := Logged.outcome_forEach fun place hp =>
      outcome_hostStanzas (section_of_mem_hostPlaces hp) (h.hosts place hp)
    exact congrArg Logged.outcome (Logged.bind_of_ok hplaces _)
  unfold render
  rw [hglobals]
  show ∃ rendering, (do
    let stanzas ← (own.allStanzas keys).outcome
    _) = Except.ok rendering
  rw [hstanzas]
  exact ⟨_, rfl⟩

end Contents

/-! ## The tree -/

namespace Document

-- The names that have been seen are other ones at every document, so they are general here.
mutual

/-- **What has been seen does not change what is emitted.** -/
theorem stanzas_renderAfter {keys : KeyLibrary} :
    ∀ (document : Document) (seen : Order.TextSet) (rendering : Rendering),
      document.renderAfter keys seen = .ok rendering →
        rendering.stanzas = document.preorder.flatMap (Contents.emitted · keys) ∧
          ∀ own ∈ document.preorder, own.Expands keys
  | ⟨own, includes⟩, seen, rendering, h => by
    rw [renderAfter] at h
    obtain ⟨first, hfirst, h⟩ := exists_of_bind_eq_ok h
    obtain ⟨rest, hrest, h⟩ := exists_of_bind_eq_ok h
    obtain rfl := Except.ok.inj h
    obtain ⟨hown, hexpands⟩ := Contents.render_eq_ok hfirst
    obtain ⟨hothers, hall⟩ := stanzas_renderAllAfter includes _ rest hrest
    rw [preorder]
    refine ⟨?_, List.forall_mem_cons.2 ⟨hexpands, hall⟩⟩
    rw [List.flatMap_cons, ← hown, ← hothers]
    rfl

theorem stanzas_renderAllAfter {keys : KeyLibrary} :
    ∀ (documents : List Document) (seen : Order.TextSet) (rendering : Rendering),
      renderAllAfter keys seen documents = .ok rendering →
        rendering.stanzas = (preorderAll documents).flatMap (Contents.emitted · keys) ∧
          ∀ own ∈ preorderAll documents, own.Expands keys
  | [], seen, rendering, h => by
    rw [renderAllAfter] at h
    obtain rfl := Except.ok.inj h
    exact ⟨rfl, fun own hown => absurd hown (by simp [preorderAll])⟩
  | document :: rest, seen, rendering, h => by
    rw [renderAllAfter] at h
    obtain ⟨first, hfirst, h⟩ := exists_of_bind_eq_ok h
    obtain ⟨others, hothers, h⟩ := exists_of_bind_eq_ok h
    obtain rfl := Except.ok.inj h
    obtain ⟨hstanzas, hexpands⟩ := stanzas_renderAfter document seen first hfirst
    obtain ⟨hmore, hall⟩ := stanzas_renderAllAfter rest _ others hothers
    rw [preorderAll]
    refine ⟨?_, List.forall_mem_append.2 ⟨hexpands, hall⟩⟩
    rw [List.flatMap_append, ← hstanzas, ← hmore]
    rfl

end

mutual

theorem exists_renderAfter_eq_ok {keys : KeyLibrary} :
    ∀ (document : Document) (seen : Order.TextSet), (∀ own ∈ document.preorder, own.Expands keys) →
      ∃ rendering, document.renderAfter keys seen = .ok rendering
  | ⟨own, includes⟩, seen, h => by
    rw [preorder] at h
    obtain ⟨hown, hothers⟩ := List.forall_mem_cons.1 h
    obtain ⟨first, hfirst⟩ := Contents.exists_render_eq_ok hown seen
    obtain ⟨rest, hrest⟩ := exists_renderAllAfter_eq_ok includes (first.seenAfter seen) hothers
    refine ⟨first.append rest, ?_⟩
    rw [renderAfter, hfirst]
    show (renderAllAfter keys (first.seenAfter seen) includes >>= _) = _
    rw [hrest]
    rfl

theorem exists_renderAllAfter_eq_ok {keys : KeyLibrary} :
    ∀ (documents : List Document) (seen : Order.TextSet),
      (∀ own ∈ preorderAll documents, own.Expands keys) →
      ∃ rendering, renderAllAfter keys seen documents = .ok rendering
  | [], seen, h => ⟨.empty, by rw [renderAllAfter]⟩
  | document :: rest, seen, h => by
    rw [preorderAll] at h
    obtain ⟨hdocument, hrest⟩ := List.forall_mem_append.1 h
    obtain ⟨first, hfirst⟩ := exists_renderAfter_eq_ok document seen hdocument
    obtain ⟨others, hothers⟩ := exists_renderAllAfter_eq_ok rest (first.seenAfter seen) hrest
    refine ⟨first.append others, ?_⟩
    rw [renderAllAfter, hfirst]
    show (renderAllAfter keys (first.seenAfter seen) rest >>= _) = _
    rw [hothers]
    rfl

end

/-- The top document is marked as the top one, and no other document is. -/
structure Marked (document : Document) : Prop where
  top : document.contents.included = false
  others : ∀ own ∈ preorderAll document.includes, own.included = true

theorem Marked.withIncludedGlobals {document : Document} (h : document.Marked)
    (lines : Contents → List Line) : (document.withIncludedGlobals lines).Marked := by
  refine ⟨h.top, fun own hown => ?_⟩
  have hown : own ∈ preorderAll (withAllGlobals lines document.includes) := hown
  rw [preorderAll_withAllGlobals] at hown
  obtain ⟨before, hbefore, rfl⟩ := List.mem_map.1 hown
  exact h.others before hbefore

theorem stanzas_of_marked {document : Document} {keys : KeyLibrary} {rendering : Rendering}
    (hmarked : document.Marked) (h : document.render keys = .ok rendering) :
    rendering.stanzas = document.flattening keys := by
  obtain ⟨own, includes⟩ := document
  have htop : own.included = false := hmarked.top
  obtain ⟨hstanzas, -⟩ := stanzas_renderAfter _ _ _ h
  rw [hstanzas]
  unfold flattening
  rw [preorder, List.flatMap_cons, List.flatMap_cons]
  have hrest : (preorderAll includes).flatMap (Contents.emitted · keys) =
      (preorderAll includes).flatMap (Contents.expanded · keys) := by
    refine List.flatMap_congr fun other hother => ?_
    unfold Contents.emitted
    rw [if_pos (hmarked.others other hother), List.nil_append]
  rw [hrest]
  unfold Contents.emitted
  rw [htop]
  rfl

/-! ## A tree that has been read -/

theorem included_of_readWithin {out : Outside} {depth : Nat} {chain : Chain} {start : Contents}
    {supplied : Option (List String)} {text : String} {document : Document}
    (h : (readWithin out depth chain start supplied text).outcome = .ok document) :
    document.contents.included = start.included ∧
      ∀ own ∈ preorderAll document.includes, own.included = true := by
  induction depth generalizing chain start supplied text document with
  | zero => cases h
  | succ depth ih =>
    obtain ⟨-, hincluded, hchildren⟩ := opening_of_mem_includes h
    refine ⟨hincluded, fun own hown => ?_⟩
    obtain ⟨child, hchild, hown⟩ := mem_preorderAll.1 hown
    obtain ⟨s, locator, keys, args, reply, -, -, -, hread⟩ := hchildren child hchild
    obtain ⟨htop, hothers⟩ := ih hread
    obtain ⟨contents, includes⟩ := child
    rw [preorder] at hown
    rcases List.mem_cons.1 hown with rfl | hown
    · exact htop
    · exact hothers own hown

theorem marked_of_readAs {out : Outside} {locator text : String} {document : Document}
    (h : ReadAs out locator text document) : document.Marked := by
  obtain ⟨depth, h⟩ := h
  obtain ⟨htop, hothers⟩ := included_of_readWithin h
  exact ⟨htop, hothers⟩

theorem host_of_mem_expanded {own : Contents} {keys : KeyLibrary} {stanza : Stanza}
    (h : stanza ∈ own.expanded keys) : stanza.host ≠ none := by
  obtain ⟨place, -, h⟩ := List.mem_flatMap.1 h
  obtain ⟨combination, -, rfl⟩ := List.mem_map.1 h
  exact fun hnone => absurd hnone (by simp [Contents.stanzaOf])

/-- **A rendering is the flattening of the tree.** For a document that has been read, with whatever
    it includes: it can be rendered if, and only if, nothing that its stanzas are made of is
    missing; and the stanzas are then those of the flattening. So the first one holds the global
    lines, in order, and is the only one without a host; there is one more for every choice of
    values of every host; and the global lines of included documents leave no trace. -/
theorem render_is_flattening {out : Outside} {locator text : String} {document : Document}
    (hread : ReadAs out locator text document) (keys : KeyLibrary) :
    ((∃ rendering, document.render keys = .ok rendering) ↔
      ∀ own ∈ document.preorder, own.Expands keys) ∧
    ∀ rendering, document.render keys = .ok rendering →
      rendering.stanzas = document.flattening keys ∧
      (Order.sort Line.le document.contents.root.lines).Perm document.contents.root.lines ∧
      (Order.sort Line.le document.contents.root.lines).Pairwise Line.Precedes ∧
      (∀ stanza ∈ rendering.stanzas.tail, stanza.host ≠ none) ∧
      rendering.stanzas.length = 1 + (document.allHosts.map Section.stanzaCount).sum ∧
      ∀ lines other, (document.withIncludedGlobals lines).render keys = .ok other →
        other.stanzas = rendering.stanzas := by
  have hmarked := marked_of_readAs hread
  constructor
  · constructor
    · rintro ⟨rendering, h⟩
      exact (stanzas_renderAfter document ∅ rendering h).2
    · exact exists_renderAfter_eq_ok document ∅
  · intro rendering h
    have hstanzas := stanzas_of_marked hmarked h
    refine ⟨hstanzas, Order.sort_perm _ _, Line.pairwise_sort _, ?_, ?_, ?_⟩
    · intro stanza hs
      rw [hstanzas] at hs
      obtain ⟨own, -, hs⟩ := List.mem_flatMap.1 hs
      exact host_of_mem_expanded hs
    · rw [hstanzas]
      exact document.length_flattening keys
    · intro lines other hother
      rw [stanzas_of_marked (hmarked.withIncludedGlobals lines) hother, hstanzas]
      exact document.flattening_withIncludedGlobals keys lines

theorem harbour_is_flattening :
    ReadAs harbour.outside "top" harbourText harbourDocument ∧
      ∃ rendering, harbourDocument.render (.empty "") = .ok rendering ∧
        rendering.stanzas = [⟨none, ["Area = a", "Zone = b"]⟩, ⟨some "near1", ["Host = near1"]⟩,
          ⟨some "near2", ["Host = near2"]⟩, ⟨some "far", ["Host = far", "    Port = 1"]⟩] := by
  have hread : ReadAs harbour.outside "top" harbourText harbourDocument :=
    readAs_of_read (congrArg Logged.outcome read_harbour)
  have htop : harbourDocument.contents.Expands (.empty "") := by
    have hstanzas : harbourDocument.contents.allStanzas (.empty "") =
        ⟨[], .ok [⟨some "near1", ["Host = near1"]⟩, ⟨some "near2", ["Host = near2"]⟩]⟩ := by
      unfold Contents.allStanzas
      cbv
    have hglobals : harbourDocument.contents.globals = .ok ["Area = a", "Zone = b"] := by cbv
    exact Contents.expands_of_eq_ok hglobals (congrArg Logged.outcome hstanzas)
  have hchild : harbourChild.contents.Expands (.empty "") := by
    have hstanzas : harbourChild.contents.allStanzas (.empty "") =
        ⟨[], .ok [⟨some "far", ["Host = far", "    Port = 1"]⟩]⟩ := by
      unfold Contents.allStanzas
      cbv
    have hglobals : harbourChild.contents.globals = .ok [] := by cbv
    exact Contents.expands_of_eq_ok hglobals (congrArg Logged.outcome hstanzas)
  have hnone : ∀ own ∈ ([] : List Contents), own.Expands (.empty "") :=
    fun own h => absurd h List.not_mem_nil
  have hall : ∀ own ∈ harbourDocument.preorder, own.Expands (.empty "") :=
    List.forall_mem_cons.2 ⟨htop, List.forall_mem_cons.2 ⟨hchild, hnone⟩⟩
  obtain ⟨rendering, hrender⟩ := (render_is_flattening hread (.empty "")).1.2 hall
  refine ⟨hread, rendering, hrender, ?_⟩
  rw [((render_is_flattening hread (.empty "")).2 rendering hrender).1]
  cbv

end Document
end SshTemplate
