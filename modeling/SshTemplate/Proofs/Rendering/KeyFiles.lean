import SshTemplate.Proofs.Rendering.Failures
import SshTemplate.Proofs.Rendering.Identities
import SshTemplate.Proofs.Writing.Plain

/-!
# `Proofs.Rendering.KeyFiles` — what becomes of the path of a key file

The path of a key file is no part of a template. It comes from the key library, it is quoted, and it
should be in the stanza as it is. But it is put among the lines of the host before these are filled,
and filling cannot tell it from what the template says. So a span in the path is filled like any
other: if its name is bound, ssh is told of another file, and if not, nothing is rendered at all
(`jetty_loses_its_key_file`).

What is in the stanza is the path with its spans filled, and that is the path where it has none,
whatever blanks, quotes and single brackets it holds. Such a path has no say in anything else. Two
libraries differ in such paths only, or in not having these keys, if they find the same file wherever
one of them finds one with a span in its path (`KeyLibrary.Alike`). The texts of a host are then the
same, but for some in which there is nothing to fill (`alike_hostTexts`). So the same documents can
be rendered with both, and where one cannot be, the error is the same (`render_alike`).
-/

set_option autoImplicit false

namespace SshTemplate

open Template (Piece crossProduct pieces Spanless)

/-! ## Texts that hold a span -/

def HoldsSpan (text : String) : Prop := ¬ Spanless text.toList

instance (text : String) : Decidable (HoldsSpan text) :=
  inferInstanceAs (Decidable (¬ Spanless text.toList))

/-- The texts in which there is something to fill. -/
def spanned (texts : List String) : List String := texts.filter fun text => HoldsSpan text

section Spanned

variable {text : String} {texts texts' : List String}

theorem holdsSpan_of_span {name : List Char} (h : Piece.span name ∈ pieces text.toList) :
    HoldsSpan text :=
  fun hspanless => absurd (hspanless _ h) (by simp [Piece.isSpan])

theorem mem_spanned : text ∈ spanned texts ↔ text ∈ texts ∧ HoldsSpan text := by
  simp [spanned]

theorem spanned_append : spanned (texts ++ texts') = spanned texts ++ spanned texts' :=
  List.filter_append ..

/-- Where the texts that hold a span are the same, each of them is found again, and what stands
    before it with a span in it stood before it there. -/
theorem exists_split_of_spanned_eq (h : spanned texts = spanned texts') {before after : List String}
    (hsplit : texts = before ++ text :: after) (htext : HoldsSpan text) :
    ∃ before' after', texts' = before' ++ text :: after' ∧
      ∀ other ∈ before', HoldsSpan other → other ∈ before := by
  have hfirst : spanned (text :: after) = text :: spanned after :=
    List.filter_cons_of_pos (by simpa using htext)
  rw [hsplit, spanned_append, hfirst] at h
  obtain ⟨front, back, rfl, hfront, hback⟩ := List.filter_eq_append_iff.1 h.symm
  -- Between the two stand texts of the second list only, and none of them holds a span.
  obtain ⟨gap, after', rfl, hgap, -, -⟩ := List.filter_eq_cons_iff.1 hback
  refine ⟨front ++ gap, after', (List.append_assoc ..).symm, fun other hother hholds => ?_⟩
  rcases List.mem_append.1 hother with hother | hother
  · have hmem : other ∈ spanned before := by
      rw [← hfront]
      exact mem_spanned.2 ⟨hother, hholds⟩
    exact (mem_spanned.1 hmem).1
  · exact absurd hholds (by simpa using hgap other hother)

end Spanned

/-! ## Key libraries -/

namespace KeyLibrary

variable {keys keys' : KeyLibrary}

/-- **The libraries differ at most in key files without spans in their paths.** Whatever fingerprints
    are looked up, both find the same file or none, or neither finds one with a span in its path. -/
def Alike (keys keys' : KeyLibrary) : Prop :=
  ∀ fingerprints : List String,
    fingerprints.findSome? keys.lookup = fingerprints.findSome? keys'.lookup ∨
      (∀ path ∈ fingerprints.findSome? keys.lookup, Spanless path.toList) ∧
        ∀ path ∈ fingerprints.findSome? keys'.lookup, Spanless path.toList

theorem Alike.symm (h : keys.Alike keys') : keys'.Alike keys :=
  fun fingerprints => (h fingerprints).imp Eq.symm And.symm

/-- Libraries without any span in their paths are alike, an empty one included. -/
theorem alike_of_spanless
    (h : ∀ fingerprint path, keys.lookup fingerprint = some path → Spanless path.toList)
    (h' : ∀ fingerprint path, keys'.lookup fingerprint = some path → Spanless path.toList) :
    keys.Alike keys' := by
  have hfound : ∀ {keys : KeyLibrary},
      (∀ fingerprint path, keys.lookup fingerprint = some path → Spanless path.toList) →
        ∀ fingerprints : List String, ∀ path ∈ fingerprints.findSome? keys.lookup,
          Spanless path.toList := by
    intro keys hall fingerprints path hpath
    obtain ⟨fingerprint, -, hlookup⟩ := List.exists_of_findSome?_eq_some hpath
    exact hall fingerprint path hlookup
  exact fun fingerprints => Or.inr ⟨hfound h fingerprints, hfound h' fingerprints⟩

end KeyLibrary

/-- What is related to the same is related, where the relations compose. -/
theorem forall₂_of_common {α β γ : Type} {P : α → β → Prop} {Q : α → γ → Prop} {R : β → γ → Prop}
    {as : List α} {bs : List β} {cs : List γ} (h : List.Forall₂ P as bs)
    (h' : List.Forall₂ Q as cs) (hcompose : ∀ {a b c}, P a b → Q a c → R b c) :
    List.Forall₂ R bs cs := by
  induction h generalizing cs with
  | nil =>
    cases h'
    exact .nil
  | cons hfirst _ ih =>
    cases h' with
    | cons hfirst' hrest' => exact .cons (hcompose hfirst hfirst') (ih hrest')

/-! ## One host -/

namespace Contents

variable {own : Contents} {keys keys' : KeyLibrary} {identity path : String}
variable {place : Section × ℕ}

/-- What is written of the lines, where it holds a span. -/
def spannedLines (lines : List Line) : List String := spanned (lines.map (Line.written indentation))

theorem spannedLines_append (lines more : List Line) :
    spannedLines (lines ++ more) = spannedLines lines ++ spannedLines more := by
  unfold spannedLines
  rw [List.map_append, spanned_append]

theorem spannedLines_flatten {blocks blocks' : List (List Line)}
    (h : List.Forall₂ (fun block block' => spannedLines block = spannedLines block') blocks blocks') :
    spannedLines blocks.flatten = spannedLines blocks'.flatten := by
  induction h with
  | nil => rfl
  | cons hfirst _ ih =>
    rw [List.flatten_cons, List.flatten_cons, spannedLines_append, spannedLines_append, hfirst, ih]

/-- The lines of a key file hold no span but those of the path. -/
theorem spannedLines_identityLines (h : Spanless path.toList) :
    spannedLines (identityLines path) = [] := by
  have honly : Line.Spanless ⟨"IdentitiesOnly", ["yes"]⟩ := by
    constructor
    · show Spanless "IdentitiesOnly".toList
      decide
    · exact List.forall_mem_singleton.2 (by decide)
  have hfile : Line.Spanless ⟨"IdentityFile", [Shell.quote path]⟩ := by
    constructor
    · show Spanless "IdentityFile".toList
      decide
    · exact List.forall_mem_singleton.2 (Shell.spanless_quote h)
  have hall : ∀ line ∈ identityLines path, line.Spanless := by
    unfold identityLines
    exact List.forall_mem_cons.2 ⟨honly, List.forall_mem_singleton.2 hfile⟩
  refine List.filter_eq_nil_iff.2 fun text htext => ?_
  obtain ⟨line, hline, rfl⟩ := List.mem_map.1 htext
  rw [decide_eq_true_eq]
  exact not_not_intro ((hall line hline).written isBlank_of_mem_indentation)

theorem identityBlock_eq {part : List Line} (h : own.IdentityBlock keys identity part) :
    part = (((own.keys.get? identity).bind fun fingerprints =>
      fingerprints.findSome? keys.lookup).map identityLines).getD [] := by
  cases h with
  | @found before after fingerprint path defined earlier known =>
    have hfirst : (before ++ fingerprint :: after).findSome? keys.lookup = some path :=
      List.findSome?_eq_some_iff.2 ⟨before, fingerprint, after, rfl, known, earlier⟩
    rw [defined, Option.bind_some, hfirst]
    rfl
  | missing unknown =>
    cases hdefined : own.keys.get? identity with
    | none => rfl
    | some fingerprints =>
      rw [Option.bind_some, List.findSome?_eq_none_iff.2 (unknown fingerprints hdefined)]
      rfl

theorem alike_identityBlock (h : keys.Alike keys') {part part' : List Line}
    (hpart : own.IdentityBlock keys identity part)
    (hpart' : own.IdentityBlock keys' identity part') : spannedLines part = spannedLines part' := by
  have hnothing : ∀ found : Option String, (∀ path ∈ found, Spanless path.toList) →
      spannedLines ((found.map identityLines).getD []) = [] := by
    intro found hfound
    cases found with
    | none => rfl
    | some path => exact spannedLines_identityLines (hfound path rfl)
  rw [identityBlock_eq hpart, identityBlock_eq hpart']
  cases own.keys.get? identity with
  | none => rfl
  | some fingerprints =>
    rw [Option.bind_some, Option.bind_some]
    rcases h fingerprints with hsame | ⟨hspanless, hspanless'⟩
    · rw [hsame]
    · rw [hnothing _ hspanless, hnothing _ hspanless']

theorem alike_sectionBlock (h : keys.Alike keys') {i : ℕ} {block block' : List Line}
    (hblock : own.SectionBlock keys i block) (hblock' : own.SectionBlock keys' i block') :
    spannedLines block = spannedLines block' := by
  obtain ⟨s, parts, hs, hparts, rfl⟩ := hblock
  obtain ⟨t, parts', ht, hparts', rfl⟩ := hblock'
  obtain rfl := Option.some.inj (hs.symm.trans ht)
  rw [spannedLines_append, spannedLines_append,
    spannedLines_flatten (forall₂_of_common hparts hparts' (alike_identityBlock h))]

/-- **What a host inherits is the same, but for lines without spans.** The walk does not ask for
    keys, so it comes to the same sections. -/
theorem alike_inherited (h : keys.Alike keys') {index : ℕ} (hindex : index < own.sections.length) :
    spannedLines (own.inherited keys index) = spannedLines (own.inherited keys' index) := by
  by_cases hresolves : own.Resolves index
  · have hlines : (own.resolveSection keys index []).outcome = _ :=
      resolveSection_of_resolves hindex hresolves
    have hlines' : (own.resolveSection keys' index []).outcome = _ :=
      resolveSection_of_resolves hindex hresolves
    obtain ⟨order, hcontributes⟩ := resolveSection_contributes hindex hlines
    obtain ⟨order', hcontributes'⟩ := resolveSection_contributes hindex hlines'
    obtain rfl := hcontributes.preorder.unique hcontributes'.preorder
    obtain ⟨blocks, hblocks, houtcome⟩ := hcontributes.blocks
    obtain ⟨blocks', hblocks', houtcome'⟩ := hcontributes'.blocks
    rw [Except.ok.inj (hlines.symm.trans houtcome), Except.ok.inj (hlines'.symm.trans houtcome')]
    exact spannedLines_flatten (forall₂_of_common hblocks hblocks' (alike_sectionBlock h))
  · have hnothing : ∀ keys, own.inherited keys index = [] := by
      intro keys
      unfold inherited
      split
      · next lines hlines =>
        exact absurd ((resolveSection_isOk_iff hindex).1 ⟨lines, hlines⟩) hresolves
      · rfl
    rw [hnothing keys, hnothing keys']

theorem alike_hostTexts (h : keys.Alike keys') (hplace : place ∈ own.hostPlaces) :
    spanned (own.hostTexts keys place) = spanned (own.hostTexts keys' place) := by
  have hsplit : ∀ keys, spanned (own.hostTexts keys place) =
      spanned [place.1.name] ++ spannedLines (own.inherited keys place.2) := by
    intro keys
    unfold spannedLines
    rw [← spanned_append]
    rfl
  rw [hsplit keys, hsplit keys', alike_inherited h (index_of_mem_hostPlaces hplace)]

/-! ### Its faults -/

theorem HostFault.of_alike (h : keys.Alike keys') (hplace : place ∈ own.hostPlaces)
    (hfault : own.HostFault keys place) : own.HostFault keys' place := by
  cases hfault with
  | reference reaches at_i names unnamed => exact .reference reaches at_i names unnamed
  | domain declares chooses faulty => exact .domain declares chooses faulty
  | @span text span chosen written holds unbound =>
    have hmem : text ∈ spanned (own.hostTexts keys place) :=
      mem_spanned.2 ⟨written, holdsSpan_of_span holds⟩
    rw [alike_hostTexts h hplace] at hmem
    exact .span chosen (mem_spanned.1 hmem).1 holds unbound

/-- The first text with an unbound span is one of those that stay. -/
theorem FirstUnbound.of_alike (h : keys.Alike keys') (hplace : place ∈ own.hostPlaces)
    {name : String} (hfirst : own.FirstUnbound keys place name) :
    own.FirstUnbound keys' place name := by
  obtain ⟨before, text, after, htexts, hearlier, hleftmost⟩ := hfirst
  have htext : HoldsSpan text := by
    obtain ⟨front, span, back, hpieces, -⟩ := hleftmost
    have hspan : Piece.span span ∈ pieces text.toList := by
      rw [hpieces]
      simp
    exact holdsSpan_of_span hspan
  obtain ⟨before', after', htexts', hbefore⟩ :=
    exists_split_of_spanned_eq (alike_hostTexts h hplace) htexts htext
  refine ⟨before', text, after', htexts', fun other hother span hspan => ?_, hleftmost⟩
  exact hearlier other (hbefore other hother (holdsSpan_of_span hspan)) span hspan

theorem HostError.of_alike (h : keys.Alike keys') (hplace : place ∈ own.hostPlaces)
    {e : Error} (herror : own.HostError keys place e) : own.HostError keys' place e := by
  cases herror with
  | reference dangles found => exact .reference dangles found
  | domain resolves declares earlier chooses first malformed =>
    exact .domain resolves declares earlier chooses first malformed
  | span resolves domains chosen first =>
    exact .span resolves domains chosen (FirstUnbound.of_alike h hplace first)

end Contents

/-! ## The tree -/

/-- The first host that has a fault is the same, and so is its error. -/
theorem FirstError.of_alike {document : Document} {keys keys' : KeyLibrary}
    (h : keys.Alike keys') {e : Error} (hfirst : FirstError keys document.placedHosts e) :
    FirstError keys' document.placedHosts e := by
  cases hfirst with
  | @intro before after own place _ split earlier fault error =>
    have hplaces : ∀ host ∈ before ++ (own, place) :: after, host.2 ∈ host.1.hostPlaces := by
      intro host hhost
      exact (Document.mem_placedHosts.1 (split ▸ hhost)).2
    have hplace : place ∈ own.hostPlaces := hplaces (own, place) (by simp)
    refine .intro split (fun other hother hfault => ?_) (fault.of_alike h hplace)
      (error.of_alike h hplace)
    have hother' := hplaces other (List.mem_append_left _ hother)
    exact earlier other hother (hfault.of_alike h.symm hother')

namespace Document

variable {document : Document} {keys keys' : KeyLibrary}

/-- **Paths without spans decide neither whether there is a rendering nor what the error is.** -/
theorem render_alike (hwell : ∀ own ∈ document.preorder, own.WellFormed)
    (h : keys.Alike keys') {e : Error} (herror : document.render keys = .error e) :
    document.render keys' = .error e :=
  (render_eq_error_iff hwell).2 (((render_eq_error_iff hwell).1 herror).of_alike h)

/-- **A key file without spans in its path survives.** Take any document that has been read, and any
    key library. In its rendering, if there is one, an identity for which a key file is found —
    one of a host or of a section that the host inherits, whichever the combination — has its two
    lines in the stanza, and the path in the second is the quoted path with its spans filled. That
    is the quoted path as it is, if it has no spans; and such a path is never why there is no
    rendering: with another such path in its place, or without the key, there is none either, and
    the error is the same. -/
theorem key_file_survives {out : Outside} {locator text : String}
    (hread : ReadAs out locator text document) (keys : KeyLibrary) :
    (∀ rendering, document.render keys = .ok rendering →
      ∀ own ∈ document.preorder, ∀ place ∈ own.hostPlaces, ∀ index s,
        own.Reaches [] place.2 index → own.sections[index]? = some s →
          ∀ identity ∈ s.identities, ∀ path, own.keyFile keys identity = .ok path →
            ∀ combination ∈ crossProduct place.1.axes,
              let stanza := own.stanzaOf keys place combination
              stanza ∈ rendering.stanzas ∧
              Contents.keyLines (own.filled combination (Shell.quote path)) <:+: stanza.lines ∧
              (Spanless path.toList →
                Contents.keyLines (Shell.quote path) <:+: stanza.lines)) ∧
    ∀ keys', keys.Alike keys' →
      ((∃ rendering, document.render keys = .ok rendering) ↔
        ∃ rendering, document.render keys' = .ok rendering) ∧
      ∀ e, document.render keys = .error e ↔ document.render keys' = .error e := by
  have hwell := wellFormed_of_readAs hread
  constructor
  · intro rendering hrender own hown place hplace index s hreaches hs identity hidentity path hfile
      combination hc stanza
    have hexpands := ((stanzas_renderAfter document ∅ rendering hrender).2 _ hown).hosts place hplace
    have hlines := hexpands.infix_stanzaOf hreaches hs hidentity hfile combination
    refine ⟨stanzaOf_mem_stanzas hread hrender hown hplace hc, hlines, fun hspanless => ?_⟩
    rwa [own.filled_quote combination hspanless] at hlines
  · intro keys' halike
    have herrors : ∀ e, document.render keys = .error e ↔ document.render keys' = .error e :=
      fun e => ⟨render_alike hwell halike, render_alike hwell halike.symm⟩
    refine ⟨?_, herrors⟩
    cases hrender : document.render keys with
    | ok rendering =>
      cases hrender' : document.render keys' with
      | ok rendering' => simp
      | error e => exact absurd ((herrors e).2 hrender') (by simp [hrender])
    | error e => simp [(herrors e).1 hrender]

/-- A document with one host, which uses the identity `k`. -/
def jetty (declared : List TemplateVariable) : Document :=
  ⟨{ Contents.start "jetty" false .empty with
      sections := [⟨"h", .host declared, [], [], ["k"]⟩]
      keys := Dictionary.empty.insert "k" ["aa"] }, []⟩

def jettyText : String := "@key k aa\n@with n 1\nHost h\n@identity k"

/-- The same without a template variable. -/
def bareJettyText : String := "@key k aa\nHost h\n@identity k"

theorem readAs_jetty : ReadAs harbour.outside "jetty" jettyText (jetty [⟨"n", ["1"]⟩]) := by
  have hlines : Text.lines jettyText = ["@key k aa", "@with n 1", "Host h", "@identity k"] := by
    cbv
  refine ⟨1, ?_⟩
  unfold readWithin
  rw [hlines,
    readLines_of_obey (by cbv) (by cbv : _ = Except.ok (.key "k" ["aa"])) (by simp) rfl,
    readLines_of_obey (by cbv) (by cbv : _ = Except.ok (.withVariable ⟨"n", ["1"]⟩)) (by simp) rfl,
    readLines_of_obey (by cbv) (by cbv : _ = Except.ok (.host "h")) (by simp) rfl,
    readLines_of_obey (by cbv) (by cbv : _ = Except.ok (.identity "k")) (by simp) (by cbv)]
  rfl

theorem readAs_bareJetty : ReadAs harbour.outside "jetty" bareJettyText (jetty []) := by
  have hlines : Text.lines bareJettyText = ["@key k aa", "Host h", "@identity k"] := by
    cbv
  refine ⟨1, ?_⟩
  unfold readWithin
  rw [hlines,
    readLines_of_obey (by cbv) (by cbv : _ = Except.ok (.key "k" ["aa"])) (by simp) rfl,
    readLines_of_obey (by cbv) (by cbv : _ = Except.ok (.host "h")) (by simp) rfl,
    readLines_of_obey (by cbv) (by cbv : _ = Except.ok (.identity "k")) (by simp) (by cbv)]
  rfl

/-- A library with one key, which is in the file. -/
def keyIn (path : String) : KeyLibrary := .ofPairs [("aa", path)]

theorem eq_of_lookup_keyIn {path found fingerprint : String}
    (h : (keyIn path).lookup fingerprint = some found) : found = path := by
  have hget : (keyIn path).lookup fingerprint = _ :=
    Dictionary.get?_insertNew .empty "aa" fingerprint path
  rw [hget, Dictionary.get?_empty] at h
  split at h
  · exact (Option.some.inj h).symm
  · cases h

/-- Blanks, quotes and single brackets are no spans. -/
theorem odd_key_file_survives :
    let path := "/my keys/it's < \"one\" >"
    let document := jetty [⟨"n", ["1"]⟩]
    ReadAs harbour.outside "jetty" jettyText document ∧
      Spanless path.toList ∧ (keyIn path).Alike (.empty "") ∧
      ∃ rendering, document.render (keyIn path) = .ok rendering ∧
        ∃ stanza ∈ rendering.stanzas, stanza.host = some "h" ∧
          Contents.keyLines "'/my keys/it'\"'\"'s < \"one\" >'" <:+: stanza.lines := by
  intro path document
  let host : Section × ℕ := (⟨"h", .host [⟨"n", ["1"]⟩], [], [], ["k"]⟩, 0)
  have hspanless : Spanless path.toList := by decide +kernel
  have halike : (keyIn path).Alike (.empty "") :=
    KeyLibrary.alike_of_spanless (fun _ _ hfound => eq_of_lookup_keyIn hfound ▸ hspanless)
      fun _ _ hfound => by cases hfound
  have hstanzas : (document.contents.allStanzas (.empty "")).outcome =
      .ok [⟨some "h", ["Host = h"]⟩] := by
    decide +kernel
  have hglobals : document.contents.globals = .ok [] := by
    decide +kernel
  have hwithout : ∃ rendering, document.render (.empty "") = .ok rendering :=
    exists_renderAfter_eq_ok document ∅
      (List.forall_mem_singleton.2 (Contents.expands_of_eq_ok hglobals hstanzas))
  obtain ⟨hsurvives, hindifferent⟩ := key_file_survives readAs_jetty (keyIn path)
  obtain ⟨rendering, hrender⟩ := (hindifferent _ halike).1.2 hwithout
  have hplace : host ∈ document.contents.hostPlaces := by decide
  have hc : [("n", "1")] ∈ crossProduct host.1.axes := by decide
  have hfile : document.contents.keyFile (keyIn path) "k" = .ok path := by decide +kernel
  obtain ⟨hstanza, -, hlines⟩ := hsurvives rendering hrender _ (List.mem_singleton_self _) host
    hplace 0 host.1 (.here List.not_mem_nil) rfl "k" (by simp [host]) path hfile _ hc
  have hquote : Shell.quote path = "'/my keys/it'\"'\"'s < \"one\" >'" := by decide +kernel
  exact ⟨readAs_jetty, hspanless, halike, rendering, hrender, _, hstanza, by decide +kernel,
    hquote ▸ hlines hspanless⟩

/-- **Spans in the path of a key file are filled.** The key file is `/k/<n>`. Where `n` is bound, ssh
    is told of another one, `/k/1`; where it is not, there is no rendering. -/
theorem jetty_loses_its_key_file :
    let path := "/k/<n>"
    let document := jetty [⟨"n", ["1"]⟩]
    let stanza : Stanza :=
      ⟨some "h", ["Host = h", "    IdentitiesOnly = yes", "    IdentityFile = '/k/1'"]⟩
    ReadAs harbour.outside "jetty" jettyText document ∧
      document.contents.keyFile (keyIn path) "k" = .ok path ∧
      (∃ rendering, document.render (keyIn path) = .ok rendering ∧
        rendering.stanzas = [⟨none, []⟩, stanza]) ∧
      indentation ++ "IdentityFile = " ++ Shell.quote path ∉ stanza.lines ∧
      ReadAs harbour.outside "jetty" bareJettyText (jetty []) ∧
      (jetty []).contents.keyFile (keyIn path) "k" = .ok path ∧
      (jetty []).render (keyIn path) =
        .error (.resolve "jetty" "h" (.unresolvedVariable "n")) ∧
      ∃ rendering, (jetty []).render (.empty "") = .ok rendering := by
  intro path document stanza
  have hstanzas : (document.contents.allStanzas (keyIn path)).outcome = .ok [stanza] := by
    decide +kernel
  have hglobals : document.contents.globals = .ok [] := by
    decide +kernel
  obtain ⟨rendering, hrender⟩ := exists_renderAfter_eq_ok document ∅
    (List.forall_mem_singleton.2 (Contents.expands_of_eq_ok hglobals hstanzas))
  have hbare : ((jetty []).contents.allStanzas (.empty "")).outcome =
      .ok [⟨some "h", ["Host = h"]⟩] := by
    decide +kernel
  have hbareGlobals : (jetty []).contents.globals = .ok [] := by
    decide +kernel
  refine ⟨readAs_jetty, by decide +kernel, ⟨rendering, hrender, ?_⟩, by decide +kernel,
    readAs_bareJetty, by decide +kernel, ?_, ?_⟩
  · rw [stanzas_of_marked (marked_of_readAs readAs_jetty) hrender]
    decide +kernel
  · unfold render renderAfter Contents.render Contents.allStanzas
    cbv
  · exact exists_renderAfter_eq_ok (jetty []) ∅
      (List.forall_mem_singleton.2 (Contents.expands_of_eq_ok hbareGlobals hbare))

end Document
end SshTemplate
