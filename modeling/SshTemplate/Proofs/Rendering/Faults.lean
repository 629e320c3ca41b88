import SshTemplate.Proofs.Inheritance.Dangling
import SshTemplate.Proofs.Rendering.Stanzas
import SshTemplate.Proofs.Template.Domains
import SshTemplate.Proofs.Template.Filling
import SshTemplate.Proofs.Wellformed.Documents

/-!
# `Proofs.Rendering.Faults` — what can be wrong with a host

A host can be wrong in three ways (`HostFault`): a reference on the way to what it inherits names no
section or several, a token of a domain is malformed, or a span is unbound in some combination, and
then it is in all of them. Of a document that has been read all lines can be written, so nothing
else goes wrong: a host without a fault expands (`hostExpands_of_not_hostFault`), and one with a
fault fails, with the references before the domains and these before the spans (`HostError`).
-/

set_option autoImplicit false

namespace SshTemplate

open Template (Combination Combinations HostTemplate Piece LeftmostUnbound UnboundIn pieces
  crossProduct tokenValues domainValues substitute)

/-! ## One host -/

namespace Contents

variable {own : Contents} {keys : KeyLibrary} {place : Section × Nat}

/-- The name is that of no template variable of the host and of no variable of the document. -/
def Unbound (own : Contents) (host : Section) (name : String) : Prop :=
  (∀ declared ∈ host.templateVariables, declared.name ≠ name) ∧ own.bindings.get? name = none

/-- Every reference on the way to what the section inherits names one section. -/
def Resolves (own : Contents) (index : Nat) : Prop :=
  ∀ i s name, own.Reaches [] index i → own.sections[i]? = some s → name ∈ s.parents →
    ∃ j, own.Named name j

/-- **What can be wrong with a host.** -/
inductive HostFault (own : Contents) (keys : KeyLibrary) (place : Section × Nat) : Prop where
  /-- A section that it reaches names no section, or more than one. -/
  | reference {i : Nat} {s : Section} {name : String} (reaches : own.Reaches [] place.2 i)
      (at_i : own.sections[i]? = some s) (names : name ∈ s.parents)
      (unnamed : ∀ j, ¬ own.Named name j)
  /-- A token of one of its domains is malformed, -/
  | domain {declared : TemplateVariable} {token : String}
      (declares : declared ∈ place.1.templateVariables) (chooses : token ∈ declared.domain)
      (faulty : Template.FaultyToken token)
  /-- or it has a combination, and a span of its name or of its lines is unbound. -/
  | span {text : String} {span : List Char} (chosen : crossProduct place.1.axes ≠ [])
      (written : text ∈ own.hostTexts keys place) (holds : Piece.span span ∈ pieces text.toList)
      (unbound : own.Unbound place.1 (String.ofList span))

/-- Some text of the host, its name or a line, has an unbound span: the name is that of the leftmost
    one in the first such text. -/
def FirstUnbound (own : Contents) (keys : KeyLibrary) (place : Section × Nat) (name : String) :
    Prop :=
  ∃ before text after, own.hostTexts keys place = before ++ text :: after ∧
    (∀ other ∈ before, ∀ span, Piece.span span ∈ pieces other.toList →
      ¬ own.Unbound place.1 (String.ofList span)) ∧
    LeftmostUnbound (own.Unbound place.1) (pieces text.toList) name

/-- **The error of a host**: that of the first reference that dangles; if none does, that of the
    first malformed token; and if none is malformed, that of the leftmost unbound span of the first
    text that has one. -/
inductive HostError (own : Contents) (keys : KeyLibrary) (place : Section × Nat) :
    Error → Prop where
  | reference {fault : Reference} {issue : Issue}
      (dangles : own.Dangling [place.2] place.1.references fault)
      (found : own.positionOf fault.target = .error issue) :
      HostError own keys place (.resolve own.locator fault.holder issue)
  | domain {before after : List TemplateVariable} {declared : TemplateVariable}
      {tokens more : List String} {token : String} {issue : Issue} (resolves : own.Resolves place.2)
      (declares : place.1.templateVariables = before ++ declared :: after)
      (earlier : ∀ other ∈ before, ∃ values, domainValues other.domain = .ok values)
      (chooses : declared.domain = tokens ++ token :: more)
      (first : ∀ other ∈ tokens, ∃ values, tokenValues other = .ok values)
      (malformed : tokenValues token = .error issue) :
      HostError own keys place (.resolve own.locator place.1.name issue)
  | span {name : String} (resolves : own.Resolves place.2)
      (domains : ∀ declared ∈ place.1.templateVariables,
        ∃ values, domainValues declared.domain = .ok values)
      (chosen : crossProduct place.1.axes ≠ []) (first : own.FirstUnbound keys place name) :
      HostError own keys place (.resolve own.locator place.1.name (.unresolvedVariable name))

/-! ## A host without a fault -/

theorem exists_of_mem_right {α β : Type} {related : α → β → Prop} {as : List α} {bs : List β}
    (h : List.Forall₂ related as bs) {b : β} (hb : b ∈ bs) : ∃ a ∈ as, related a b := by
  induction h with
  | nil => exact absurd hb (by simp)
  | @cons a first as bs hfirst _ ih =>
    rcases List.mem_cons.1 hb with rfl | hb
    · exact ⟨a, by simp, hfirst⟩
    · obtain ⟨other, hother, hrelated⟩ := ih hb
      exact ⟨other, List.mem_cons_of_mem _ hother, hrelated⟩

/-- Whatever a host inherits is a line of some section, or one that makes ssh use a file of the key
    library. -/
theorem origin_of_mem_inherited {index : Nat} {line : Line} (hindex : index < own.sections.length)
    (h : line ∈ own.inherited keys index) :
    (∃ s ∈ own.sections, line ∈ s.lines) ∨
      ∃ fingerprint path, keys.lookup fingerprint = some path ∧ line ∈ identityLines path := by
  unfold inherited at h
  split at h
  · next lines hlines =>
    obtain ⟨order, hcontributes⟩ := resolveSection_contributes hindex hlines
    obtain ⟨blocks, hblocks, houtcome⟩ := hcontributes.blocks
    obtain rfl := Except.ok.inj (hlines.symm.trans houtcome)
    obtain ⟨block, hblock, hline⟩ := List.mem_flatten.1 h
    obtain ⟨i, -, s, parts, hs, hparts, rfl⟩ := exists_of_mem_right hblocks hblock
    rcases List.mem_append.1 hline with hline | hline
    · exact Or.inl ⟨s, List.mem_of_getElem? hs, hline⟩
    · obtain ⟨part, hpart, hline⟩ := List.mem_flatten.1 hline
      obtain ⟨identity, -, hidentity⟩ := exists_of_mem_right hparts hpart
      cases hidentity with
      | found defined earlier known => exact Or.inr ⟨_, _, known, hline⟩
      | missing unknown => exact absurd hline (by simp)
  · exact absurd h (by simp)

/-- Either way it is a line of some section, or has one argument. -/
theorem mem_inherited {index : Nat} {line : Line} (hindex : index < own.sections.length)
    (h : line ∈ own.inherited keys index) :
    (∃ s ∈ own.sections, line ∈ s.lines) ∨ line.args.length = 1 := by
  refine (origin_of_mem_inherited hindex h).imp_right ?_
  rintro ⟨fingerprint, path, -, hline⟩
  rcases List.mem_cons.1 hline with rfl | hline
  · rfl
  · rw [List.mem_singleton.1 hline]
    rfl

theorem writeLine_inherited (hown : own.WellFormed) (keys : KeyLibrary) {index : Nat}
    (hindex : index < own.sections.length) :
    ∀ line ∈ own.inherited keys index,
      writeLine indentation line = .ok (line.written indentation) := by
  intro line hline
  rcases mem_inherited hindex hline with ⟨s, hs, hmem⟩ | hlength
  · exact ((hown.sections s hs).lines line hmem).writeLine_eq_ok indentation
  · obtain ⟨keyword, args⟩ := line
    obtain ⟨arg, rfl⟩ := List.length_eq_one_iff.1 hlength
    rfl

theorem index_of_mem_hostPlaces (h : place ∈ own.hostPlaces) : place.2 < own.sections.length :=
  (List.getElem?_eq_some_iff.1 (section_of_mem_hostPlaces h)).1

/-- A span is unbound in some combination if it is in all of them. -/
theorem unboundIn_eq_unbound {combination : Combination}
    (h : combination ∈ crossProduct place.1.axes) :
    UnboundIn (Template.bound combination own.bindings) = own.Unbound place.1 := by
  funext name
  refine propext ((Template.unboundIn_bound_iff h).trans (and_congr_left fun _ => ?_))
  unfold Section.axes
  simp

theorem resolveSection_of_resolves {index : Nat} (hindex : index < own.sections.length)
    (h : own.Resolves index) :
    (own.resolveSection keys index []).outcome = .ok (own.inherited keys index) := by
  obtain ⟨lines, hlines⟩ := (resolveSection_isOk_iff hindex).2 h
  unfold inherited
  rw [hlines]

/-- **A host that has no fault expands.** -/
theorem hostExpands_of_not_hostFault (hown : own.WellFormed) (hplace : place ∈ own.hostPlaces)
    (h : ¬ own.HostFault keys place) : own.HostExpands keys place := by
  have hresolves : own.Resolves place.2 := by
    intro i s name hreaches hs hname
    by_contra hnone
    exact h (.reference hreaches hs hname fun j hj => hnone ⟨j, hj⟩)
  have hresolved : (own.resolveSection keys place.2 []).outcome = _ :=
    resolveSection_of_resolves (index_of_mem_hostPlaces hplace) hresolves
  refine ⟨hresolved, resolveSection_contributes (index_of_mem_hostPlaces hplace) hresolved,
    writeLine_inherited hown keys (index_of_mem_hostPlaces hplace), fun declared hd => ?_,
    fun combination hc text htext => ?_⟩
  · have htokens : ∀ token ∈ declared.domain, ∃ values, tokenValues token = .ok values := by
      intro token htoken
      cases hvalues : tokenValues token with
      | ok values => exact ⟨values, rfl⟩
      | error issue =>
        exact absurd (.domain hd htoken (Template.exists_tokenValues_eq_error_iff.1 ⟨_, hvalues⟩)) h
    exact TemplateVariable.domainValues_eq_ok (Template.exists_domainValues_eq_ok_iff.2 htokens)
  · have hbound : ∀ span, Piece.span span ∈ pieces text.toList →
        ¬ UnboundIn (Template.bound combination own.bindings) (String.ofList span) := by
      intro span hspan hunbound
      rw [unboundIn_eq_unbound hc] at hunbound
      exact h (.span (List.ne_nil_of_mem hc) htext hspan hunbound)
    obtain ⟨filled, hfilled⟩ := Template.exists_substitute_eq_ok hbound
    rw [hfilled, Template.eq_substituteBound_of_substitute hfilled]
    rfl

theorem not_hostFault_of_hostExpands (hplace : place ∈ own.hostPlaces)
    (h : own.HostExpands keys place) : ¬ own.HostFault keys place := by
  intro hfault
  cases hfault with
  | @reference i s name reaches at_i names unnamed =>
    have hresolves := (resolveSection_isOk_iff (index_of_mem_hostPlaces hplace)).1 ⟨_, h.resolved⟩
    obtain ⟨j, hj⟩ := hresolves i s name reaches at_i names
    exact unnamed j hj
  | @domain declared token declares chooses faulty =>
    obtain ⟨issue, malformed⟩ := Template.exists_tokenValues_eq_error_iff.2 faulty
    obtain ⟨values, hvalues⟩ := Template.exists_domainValues_eq_ok_iff.1
      ⟨_, h.domains declared declares⟩ token chooses
    exact absurd (malformed.symm.trans hvalues) (by simp)
  | @span text span chosen written holds unbound =>
    obtain ⟨combination, hc⟩ := List.exists_mem_of_ne_nil _ chosen
    rw [← unboundIn_eq_unbound hc] at unbound
    exact Template.not_unboundIn_of_substitute_eq_ok (h.bound combination hc text written) holds
      unbound

/-! ## A host with a fault -/

/-- The host with what it inherits, before its spans are filled. -/
def hostTemplate (own : Contents) (keys : KeyLibrary) (place : Section × Nat) : HostTemplate :=
  ⟨place.1.name, (own.inherited keys place.2).map (Line.written indentation)⟩

theorem instantiate_bound_eq_error_iff {combination : Combination}
    (hc : combination ∈ crossProduct place.1.axes) {issue : Issue} :
    (own.hostTemplate keys place).instantiate (Template.bound combination own.bindings) =
        .error issue ↔
      ∃ name, own.FirstUnbound keys place name ∧ issue = .unresolvedVariable name := by
  rw [Template.instantiate_eq_error_iff]
  simp only [Template.exists_substitute_eq_ok_iff, Template.substitute_eq_error_iff,
    unboundIn_eq_unbound hc]
  constructor
  · rintro ⟨before, text, after, hwritten, hbefore, name, hleftmost, rfl⟩
    exact ⟨name, ⟨before, text, after, hwritten, hbefore, hleftmost⟩, rfl⟩
  · rintro ⟨name, ⟨before, text, after, hwritten, hbefore, hleftmost⟩, rfl⟩
    exact ⟨before, text, after, hwritten, hbefore, name, hleftmost, rfl⟩

/-- **The combinations fail if there is one**, and with the same issue whichever it is. -/
theorem visit_eq_error_iff {combinations : Combinations}
    (h : Combinations.ofVariables place.1.templateVariables = .ok combinations) {issue : Issue} :
    (combinations.visit fun combination =>
        (own.hostTemplate keys place).instantiate (Template.bound combination own.bindings)) =
          .error issue ↔
      crossProduct place.1.axes ≠ [] ∧
        ∃ name, own.FirstUnbound keys place name ∧ issue = .unresolvedVariable name := by
  have hlist : combinations.toList = crossProduct place.1.axes := Template.toList_ofVariables h
  rw [Combinations.visit_eq_mapM, hlist, mapM_eq_error_iff]
  constructor
  · rintro ⟨before, combination, after, hsplit, -, hfails⟩
    have hc : combination ∈ crossProduct place.1.axes := by
      rw [hsplit]
      simp
    exact ⟨List.ne_nil_of_mem hc, (instantiate_bound_eq_error_iff hc).1 hfails⟩
  · rintro ⟨hchosen, hname⟩
    obtain ⟨combination, others, hsplit⟩ := List.exists_cons_of_ne_nil hchosen
    have hc : combination ∈ crossProduct place.1.axes := by
      rw [hsplit]
      simp
    exact ⟨[], combination, others, hsplit, by simp, (instantiate_bound_eq_error_iff hc).2 hname⟩

theorem hostStanzas_of_resolveSection_error {e : Error}
    (h : (own.resolveSection keys place.2 []).outcome = .error e) :
    (own.hostStanzas keys place.2 place.1).outcome = .error e := by
  have htemplate : (own.templateOf keys place.2).outcome = .error e := by
    unfold templateOf
    dsimp only
    rw [h]
    rfl
  unfold hostStanzas
  rw [Logged.bind_of_error htemplate]

/-- Where a host can be resolved, its domains and its texts decide. -/
theorem hostStanzas_of_resolves (hown : own.WellFormed) (hplace : place ∈ own.hostPlaces)
    (h : own.Resolves place.2) :
    (own.hostStanzas keys place.2 place.1).outcome =
      Except.mapError (.resolve own.locator place.1.name) (do
        let combinations ← Combinations.ofVariables place.1.templateVariables
        combinations.visit fun combination =>
          (own.hostTemplate keys place).instantiate
            (Template.bound combination own.bindings)) := by
  have hindex := index_of_mem_hostPlaces hplace
  have htemplate := outcome_templateOf (section_of_mem_hostPlaces hplace)
    (resolveSection_of_resolves hindex h) (writeLine_inherited hown keys hindex)
  unfold hostStanzas
  rw [Logged.bind_of_ok htemplate]
  rfl

/-- **A host that fails has its own error**, and where it has one, it fails. -/
theorem hostStanzas_eq_error_iff (hown : own.WellFormed) (hplace : place ∈ own.hostPlaces)
    {e : Error} :
    (own.hostStanzas keys place.2 place.1).outcome = .error e ↔ own.HostError keys place e := by
  have hs := section_of_mem_hostPlaces hplace
  constructor
  · intro h
    cases hresolution : (own.resolveSection keys place.2 []).outcome with
    | error other =>
      rw [hostStanzas_of_resolveSection_error hresolution] at h
      obtain rfl := Except.error.inj h
      obtain ⟨fault, issue, hdangles, hissue, rfl⟩ :=
        dangling_of_resolveSection_error hs hresolution
      exact .reference hdangles hissue
    | ok lines =>
      have hresolves : own.Resolves place.2 :=
        (resolveSection_isOk_iff (index_of_mem_hostPlaces hplace)).1 ⟨lines, hresolution⟩
      rw [hostStanzas_of_resolves hown hplace hresolves] at h
      obtain ⟨issue, hissue, rfl⟩ := mapError_eq_error_iff.1 h
      rcases bind_eq_error_iff.1 hissue with hdomains | ⟨combinations, hcombinations, hvisit⟩
      · obtain ⟨before, declared, after, hsplit, hbefore, hdomain⟩ :=
          Template.ofVariables_eq_error_iff.1 hdomains
        obtain ⟨tokens, token, more, htokens, hearlier, hmalformed⟩ :=
          Template.domainValues_eq_error_iff.1 hdomain
        exact .domain hresolves hsplit hbefore htokens hearlier hmalformed
      · obtain ⟨hchosen, name, hname, rfl⟩ := (visit_eq_error_iff hcombinations).1 hvisit
        have hdomains := (Template.axes_of_ofVariables hcombinations).1
        exact .span hresolves (fun declared hd => ⟨_, hdomains declared hd⟩) hchosen hname
  · intro h
    cases h with
    | reference dangles found =>
      exact hostStanzas_of_resolveSection_error (resolveSection_error_of_dangling hs dangles found)
    | @domain before after declared tokens more token issue resolves declares earlier chooses first
        malformed =>
      rw [hostStanzas_of_resolves hown hplace resolves]
      refine mapError_eq_error_iff.2 ⟨issue, bind_eq_error_iff.2 (Or.inl ?_), rfl⟩
      refine Template.ofVariables_eq_error_iff.2 ⟨before, declared, after, declares, earlier, ?_⟩
      exact Template.domainValues_eq_error_iff.2 ⟨tokens, token, more, chooses, first, malformed⟩
    | @span name resolves domains chosen first =>
      obtain ⟨combinations, hcombinations⟩ := Template.exists_ofVariables fun declared hd =>
        TemplateVariable.domainValues_eq_ok (domains declared hd)
      rw [hostStanzas_of_resolves hown hplace resolves]
      refine mapError_eq_error_iff.2 ⟨.unresolvedVariable name, ?_, rfl⟩
      have hvisit := (visit_eq_error_iff hcombinations).2 ⟨chosen, name, first, rfl⟩
      exact bind_eq_error_iff.2 (Or.inr ⟨combinations, hcombinations, hvisit⟩)

theorem HostError.unique (hown : own.WellFormed) (hplace : place ∈ own.hostPlaces) {e e' : Error}
    (h : own.HostError keys place e) (h' : own.HostError keys place e') : e = e' := by
  have hfails := (hostStanzas_eq_error_iff hown hplace).2 h
  have hfails' := (hostStanzas_eq_error_iff hown hplace).2 h'
  exact Except.error.inj (hfails.symm.trans hfails')

end Contents
end SshTemplate
