import SshTemplate.Proofs.Rendering.Duplicates

/-!
# `Proofs.Rendering.Warnings` — what a rendering warns about, and in which order

Three parts of a rendering warn while they do something else: dropping the global lines of an
included document, looking up the identities of a section, and comparing host names. The last kind
is told apart from the others by its constructor and has a module of its own, `Duplicates.lean`. The
others are listed here without rendering anything (`Document.Warns`): document by document in
preorder, the dropped global lines and then, host by host, the identities of the sections that the
host inherits, in the order of the walk that calls itself.

The list has one entry for a host, a section and an identity, and none for a combination: template
variables do not occur in it. So a rendering of another tree that agrees in what does occur
(`WarnsLike`) gives the same warnings, whatever its hosts expand to.

`Preorder.unique` makes the list one list. With it, *is a list of the warnings* and *is the list of
the warnings* are the same, and the theorem is an equation.
-/

set_option autoImplicit false

namespace SshTemplate

/-- What of a section has to do with warnings: neither its lines nor its template variables. -/
def Section.outline (s : Section) : String × List String × List String × Bool :=
  (s.name, s.parents, s.identities, s.isHost)

namespace Contents

variable {own own' : Contents} {keys : KeyLibrary}

/-! ## One identity, one section, one host -/

/-- What is warned about when an identity is looked up: that no key has its name, or that no file
    holds one of its keys. -/
def identityWarning? (own : Contents) (keys : KeyLibrary) (identity : String) : Option Warning :=
  match own.keys.get? identity with
  | none => some (.undefinedIdentity own.locator identity)
  | some fingerprints =>
    if ∀ fingerprint ∈ fingerprints, keys.lookup fingerprint = none then
      some (.identityNotFound own.locator identity fingerprints)
    else none

/-- What is warned about for the identities of the section at `index`, in their order. -/
def sectionWarnings (own : Contents) (keys : KeyLibrary) (index : ℕ) : List Warning :=
  match own.sections[index]? with
  | none => []
  | some s => s.identities.filterMap (own.identityWarning? keys)

/-- The warnings of the host at `index` are those of the sections that it inherits, itself first, in
    preorder and each section once. -/
def HostWarns (own : Contents) (keys : KeyLibrary) (index : ℕ) (warnings : List Warning) : Prop :=
  ∃ order, own.Preorder [] [index] order ∧ warnings = order.flatMap (own.sectionWarnings keys)

theorem identityWarning?_eq (own : Contents) (keys : KeyLibrary) (identity : String) :
    own.identityWarning? keys identity =
      match own.keyFile keys identity with
      | .ok _ => none
      | .error warning => some warning := by
  unfold identityWarning? keyFile
  cases own.keys.get? identity with
  | none => rfl
  | some fingerprints =>
    dsimp only
    cases hfound : fingerprints.findSome? keys.lookup with
    | none => rw [if_pos (List.findSome?_eq_none_iff.1 hfound)]
    | some path =>
      obtain ⟨fingerprint, hmem, hpath⟩ := List.exists_of_findSome?_eq_some hfound
      rw [if_neg fun hnone => absurd ((hnone fingerprint hmem).symm.trans hpath) (by simp)]

theorem blockWarnings_eq {index : ℕ} {s : Section} (hs : own.sections[index]? = some s) :
    own.blockWarnings keys s = own.sectionWarnings keys index := by
  unfold blockWarnings sectionWarnings
  rw [hs]
  exact List.filterMap_congr fun identity _ => (own.identityWarning?_eq keys identity).symm

/-- **A walk warns about what it visits**, in the order in which it visits, also where it fails. -/
theorem walk_warnings (own : Contents) (keys : KeyLibrary) (visited : List ℕ)
    (references : List Reference) :
    ∃ order : List ℕ, (own.walk keys visited references).visited = order.reverse ++ visited ∧
      (own.walk keys visited references).warnings = order.flatMap (own.sectionWarnings keys) := by
  fun_induction walk own keys visited references with
  | case1 visited => exact ⟨[], rfl, rfl⟩
  | case2 visited reference rest issue h => exact ⟨[], rfl, rfl⟩
  | case3 visited reference rest index h hv ih => exact ih
  | case4 visited reference rest index h hv hs ih => exact ih
  | case5 visited reference rest index h hv s hs ih =>
    obtain ⟨order, hvisited, hwarnings⟩ := ih
    refine ⟨index :: order, ?_, ?_⟩
    · rw [Resolution.after, hvisited, List.reverse_cons, List.append_assoc]
      rfl
    · rw [Resolution.after, hwarnings, blockWarnings_eq hs, List.flatMap_cons]

/-- **A host that is resolved warns about what it inherits.** -/
theorem hostWarns_of_resolveSection {index : ℕ} {lines : List Line} {s : Section}
    (hs : own.sections[index]? = some s)
    (h : (own.resolveSection keys index []).outcome = .ok lines) :
    own.HostWarns keys index (own.resolveSection keys index []).warnings := by
  unfold resolveSection at h ⊢
  rw [hs] at h ⊢
  dsimp only at h ⊢
  rw [if_neg List.not_mem_nil] at h ⊢
  obtain ⟨others, hothers, -⟩ := outcome_after_eq_ok h
  obtain ⟨targets, order, -, htargets, horder, hvisited, -⟩ := walk_preorder hothers
  obtain ⟨order', hvisited', hwarnings⟩ := walk_warnings own keys [index] s.references
  -- What was visited tells in which order it was.
  have hsame : order'.reverse = order.reverse :=
    List.append_cancel_right (hvisited'.symm.trans hvisited)
  obtain rfl : order' = order := List.reverse_injective hsame
  have hvisit := Preorder.visit List.not_mem_nil hs (forall₂_references.1 htargets) horder .nil
  rw [List.append_nil] at hvisit
  refine ⟨index :: order', hvisit, ?_⟩
  rw [Resolution.after, hwarnings, blockWarnings_eq hs, List.flatMap_cons]

/-! ## One document -/

/-- The warning about global lines that are dropped, sorted and written, if there are any. -/
def droppedGlobals (own : Contents) : List Warning :=
  if own.included = true ∧ own.root.lines ≠ [] then
    [.ignoredGlobals own.locator ((Order.sort Line.le own.root.lines).map (Line.written ""))]
  else []

/-- The places of the hosts of a document among its sections, in the order of their declaration. -/
def hostIndices (own : Contents) : List ℕ := own.hostPlaces.map Prod.snd

/-- The warnings of a document are that about its global lines, and then those of its hosts. -/
def Warns (own : Contents) (keys : KeyLibrary) (warnings : List Warning) : Prop :=
  ∃ parts, List.Forall₂ (own.HostWarns keys) own.hostIndices parts ∧
    warnings = own.droppedGlobals ++ parts.flatten

theorem warnings_globalPart {globals : List String} (h : own.globals = .ok globals) :
    (own.globalPart globals).warnings = own.droppedGlobals := by
  obtain ⟨rfl, -⟩ := eq_map_written h
  have hempty : ((Order.sort Line.le own.root.lines).map (Line.written "")).isEmpty = true ↔
      own.root.lines = [] := by
    rw [List.isEmpty_iff, List.map_eq_nil_iff, ← List.length_eq_zero_iff,
      (Order.sort_perm Line.le own.root.lines).length_eq, List.length_eq_zero_iff]
  unfold globalPart droppedGlobals
  by_cases hi : own.included = true
  · by_cases hlines : own.root.lines = []
    · rw [if_pos hi, if_pos (hempty.2 hlines), if_neg fun h => h.2 hlines]
    · rw [if_pos hi, if_neg fun h => hlines (hempty.1 h), if_pos ⟨hi, hlines⟩]
  · rw [if_neg hi, if_neg fun h => hi h.1]

theorem log_hostStanzas (own : Contents) (keys : KeyLibrary) (place : Section × ℕ) :
    (own.hostStanzas keys place.2 place.1).log =
      (own.resolveSection keys place.2 []).warnings := by
  unfold hostStanzas
  cases houtcome : (own.templateOf keys place.2).outcome with
  | error error =>
    rw [Logged.bind_of_error houtcome]
    rfl
  | ok template =>
    rw [Logged.bind_of_ok houtcome]
    exact List.append_nil _

theorem log_allStanzas {stanzas : List Stanza} (h : (own.allStanzas keys).outcome = .ok stanzas) :
    (own.allStanzas keys).log =
      own.hostPlaces.flatMap fun place => (own.resolveSection keys place.2 []).warnings := by
  obtain ⟨parts, hparts, -⟩ := Logged.exists_of_bind_eq_ok h
  have hparts : (Logged.forEach (fun place : Section × ℕ => own.hostStanzas keys place.2 place.1)
      own.hostPlaces).outcome = .ok parts := hparts
  have hlog : (own.allStanzas keys).log = (Logged.forEach (fun place : Section × ℕ =>
      own.hostStanzas keys place.2 place.1) own.hostPlaces).log ++ [] :=
    congrArg Logged.log (Logged.bind_of_ok hparts _)
  rw [hlog, List.append_nil, Logged.log_forEach hparts]
  exact List.flatMap_congr fun place _ => log_hostStanzas own keys place

theorem filter_report (seen : Order.TextSet) :
    (own.report seen).filter (fun w => !w.isDuplicateHosts) = [] := by
  unfold report
  dsimp only
  split <;> rfl

theorem filter_eq_self {warnings : List Warning} (h : ∀ w ∈ warnings, w.isDuplicateHosts = false) :
    warnings.filter (fun w => !w.isDuplicateHosts) = warnings :=
  List.filter_eq_self.2 fun w hw => by simp [h w hw]

/-- **What a document warns about**, the report of its host names left out. -/
theorem warns_of_render {seen : Order.TextSet} {rendering : Rendering}
    (h : own.render keys seen = .ok rendering) :
    own.Warns keys (rendering.warnings.filter fun w => !w.isDuplicateHosts) := by
  obtain ⟨globals, hglobals, h⟩ := exists_of_bind_eq_ok h
  obtain ⟨stanzas, hstanzas, h⟩ := exists_of_bind_eq_ok h
  obtain rfl := Except.ok.inj h
  obtain ⟨hexpanded, hhosts⟩ := allStanzas_eq_ok hstanzas
  refine ⟨own.hostPlaces.map fun place => (own.resolveSection keys place.2 []).warnings, ?_, ?_⟩
  · unfold hostIndices
    rw [List.forall₂_map_left_iff, List.forall₂_map_right_iff]
    refine List.forall₂_same.2 fun place hplace => ?_
    exact hostWarns_of_resolveSection (section_of_mem_hostPlaces hplace)
      (hhosts place hplace).resolved
  · have hreport : (own.report seen).filter (fun w => !w.isDuplicateHosts) = [] :=
      filter_report seen
    have hparts : (own.allStanzas keys).log.filter (fun w => !w.isDuplicateHosts) =
        (own.allStanzas keys).log :=
      filter_eq_self fun w hw => not_isDuplicateHosts_of_mem_allStanzas hw
    have hdropped : (own.globalPart globals).warnings.filter (fun w => !w.isDuplicateHosts) =
        (own.globalPart globals).warnings :=
      filter_eq_self fun w hw => not_isDuplicateHosts_of_mem_globalPart hw
    unfold report at hreport
    rw [← emittedNames_expanded own keys, ← hexpanded] at hreport
    unfold Rendering.append
    rw [List.filter_append, List.filter_append, hdropped, hparts, hreport, List.append_nil,
      warnings_globalPart hglobals, log_allStanzas hstanzas]
    rfl

/-! ## One list -/

theorem HostWarns.unique {index : ℕ} {warnings warnings' : List Warning}
    (h : own.HostWarns keys index warnings) (h' : own.HostWarns keys index warnings') :
    warnings = warnings' := by
  obtain ⟨order, horder, rfl⟩ := h
  obtain ⟨order', horder', rfl⟩ := h'
  rw [horder.unique horder']

theorem Warns.unique {warnings warnings' : List Warning} (h : own.Warns keys warnings)
    (h' : own.Warns keys warnings') : warnings = warnings' := by
  obtain ⟨parts, hparts, rfl⟩ := h
  obtain ⟨parts', hparts', rfl⟩ := h'
  have hunique : Relator.RightUnique (own.HostWarns keys) := fun _ _ _ => HostWarns.unique
  rw [List.right_unique_forall₂' hunique hparts hparts']

/-! ## What the warnings come from -/

/-- The documents agree in all that has to do with warnings. -/
structure WarnsLike (own own' : Contents) : Prop where
  locator : own'.locator = own.locator
  included : own'.included = own.included
  globals : own'.root.lines = own.root.lines
  keys : own'.keys = own.keys
  sections : own'.sections.map Section.outline = own.sections.map Section.outline

namespace WarnsLike

theorem symm (h : own.WarnsLike own') : own'.WarnsLike own :=
  ⟨h.locator.symm, h.included.symm, h.globals.symm, h.keys.symm, h.sections.symm⟩

theorem getElem? (h : own.WarnsLike own') (i : ℕ) :
    own'.sections[i]?.map Section.outline = own.sections[i]?.map Section.outline := by
  rw [← List.getElem?_map, ← List.getElem?_map, h.sections]

theorem exists_section (h : own.WarnsLike own') {i : ℕ} {s : Section}
    (hs : own.sections[i]? = some s) :
    ∃ s', own'.sections[i]? = some s' ∧ s'.outline = s.outline := by
  have hmap := h.getElem? i
  rw [hs] at hmap
  exact Option.map_eq_some_iff.1 hmap

theorem named (h : own.WarnsLike own') {name : String} {j : ℕ} (hj : own.Named name j) :
    own'.Named name j := by
  obtain ⟨⟨s, hs, rfl⟩, honly⟩ := hj
  obtain ⟨s', hs', houtline⟩ := h.exists_section hs
  refine ⟨⟨s', hs', congrArg Prod.fst houtline⟩, fun k t' ht' hname => ?_⟩
  obtain ⟨t, ht, houtline⟩ := h.symm.exists_section ht'
  exact honly k t ht ((congrArg Prod.fst houtline).trans hname)

theorem preorder (h : own.WarnsLike own') {visited starts order : List ℕ}
    (horder : own.Preorder visited starts order) : own'.Preorder visited starts order := by
  induction horder with
  | nil => exact .nil
  | skip seen _ ih => exact .skip seen ih
  | @visit visited targets starts inner later i s fresh place edges _ _ ihInner ihLater =>
    obtain ⟨s', hs', houtline⟩ := h.exists_section place
    have hparents : s'.parents = s.parents := congrArg (fun outline => outline.2.1) houtline
    refine .visit fresh hs' ?_ ihInner ihLater
    rw [hparents]
    exact edges.imp fun _ _ => h.named

theorem sectionWarnings_eq (h : own.WarnsLike own') (keys : KeyLibrary) :
    own'.sectionWarnings keys = own.sectionWarnings keys := by
  have hidentity : own'.identityWarning? keys = own.identityWarning? keys := by
    unfold identityWarning?
    rw [h.locator, h.keys]
  funext i
  have hmap := h.getElem? i
  unfold sectionWarnings
  rw [hidentity]
  cases hs : own.sections[i]? with
  | none =>
    rw [hs] at hmap
    rw [Option.map_eq_none_iff.1 hmap]
  | some s =>
    obtain ⟨s', hs', houtline⟩ := h.exists_section hs
    have hidentities : s'.identities = s.identities :=
      congrArg (fun outline => outline.2.2.1) houtline
    rw [hs']
    dsimp only
    rw [hidentities]

theorem hostWarns (h : own.WarnsLike own') {index : ℕ} {warnings : List Warning}
    (hw : own.HostWarns keys index warnings) : own'.HostWarns keys index warnings := by
  obtain ⟨order, horder, rfl⟩ := hw
  exact ⟨order, h.preorder horder, by rw [h.sectionWarnings_eq]⟩

theorem hostIndices_eq (h : own.WarnsLike own') : own'.hostIndices = own.hostIndices := by
  have houtlines : ∀ own : Contents, own.hostIndices =
      ((own.sections.map Section.outline).zipIdx.filter fun place => place.1.2.2.2).map
        Prod.snd := by
    intro own
    unfold hostIndices hostPlaces
    rw [List.zipIdx_map, List.filter_map, List.map_map]
    rfl
  rw [houtlines, houtlines own, h.sections]

theorem warns (h : own.WarnsLike own') {warnings : List Warning} (hw : own.Warns keys warnings) :
    own'.Warns keys warnings := by
  obtain ⟨parts, hparts, rfl⟩ := hw
  refine ⟨parts, ?_, ?_⟩
  · rw [h.hostIndices_eq]
    exact hparts.imp fun _ _ => h.hostWarns
  · unfold droppedGlobals
    rw [h.locator, h.included, h.globals]

end WarnsLike
end Contents

/-! ## The tree -/

namespace Document

/-- Documents warn one after the other. -/
def WarnAll (keys : KeyLibrary) (documents : List Contents) (warnings : List Warning) : Prop :=
  ∃ parts, List.Forall₂ (fun own part => own.Warns keys part) documents parts ∧
    warnings = parts.flatten

/-- The warnings of a tree are those of its documents, in preorder. -/
def Warns (document : Document) (keys : KeyLibrary) (warnings : List Warning) : Prop :=
  WarnAll keys document.preorder warnings

theorem WarnAll.append {keys : KeyLibrary} {front back : List Contents}
    {warnings more : List Warning} (hfront : WarnAll keys front warnings)
    (hback : WarnAll keys back more) : WarnAll keys (front ++ back) (warnings ++ more) := by
  obtain ⟨parts, hparts, rfl⟩ := hfront
  obtain ⟨others, hothers, rfl⟩ := hback
  exact ⟨parts ++ others, List.rel_append hparts hothers, List.flatten_append.symm⟩

theorem WarnAll.unique {keys : KeyLibrary} {documents : List Contents}
    {warnings warnings' : List Warning} (h : WarnAll keys documents warnings)
    (h' : WarnAll keys documents warnings') : warnings = warnings' := by
  obtain ⟨parts, hparts, rfl⟩ := h
  obtain ⟨parts', hparts', rfl⟩ := h'
  have hunique : Relator.RightUnique fun (own : Contents) part => own.Warns keys part :=
    fun _ _ _ => Contents.Warns.unique
  rw [List.right_unique_forall₂' hunique hparts hparts']

theorem WarnAll.of_forall₂ {keys : KeyLibrary} {documents documents' : List Contents}
    {warnings : List Warning} (h : WarnAll keys documents warnings)
    (hlike : List.Forall₂ Contents.WarnsLike documents documents') :
    WarnAll keys documents' warnings := by
  obtain ⟨parts, hparts, rfl⟩ := h
  refine ⟨parts, ?_, rfl⟩
  induction hlike generalizing parts with
  | nil => exact hparts
  | cons hlike _ ih =>
    cases hparts with
    | cons hpart hrest => exact .cons (hlike.warns hpart) (ih _ hrest)

mutual

/-- **What has been seen does not change these warnings**, and each document adds its own. -/
theorem warnAll_renderAfter {keys : KeyLibrary} :
    ∀ (document : Document) (seen : Order.TextSet) (rendering : Rendering),
      document.renderAfter keys seen = .ok rendering →
        WarnAll keys document.preorder (rendering.warnings.filter fun w => !w.isDuplicateHosts)
  | ⟨own, includes⟩, seen, rendering, h => by
    rw [renderAfter] at h
    obtain ⟨first, hfirst, h⟩ := exists_of_bind_eq_ok h
    obtain ⟨rest, hrest, h⟩ := exists_of_bind_eq_ok h
    obtain rfl := Except.ok.inj h
    have hown : WarnAll keys [own] (first.warnings.filter fun w => !w.isDuplicateHosts) :=
      ⟨[_], .cons (Contents.warns_of_render hfirst) .nil, (List.append_nil _).symm⟩
    have hothers := warnAll_renderAllAfter includes _ rest hrest
    rw [preorder]
    show WarnAll keys ([own] ++ _) ((first.warnings ++ rest.warnings).filter _)
    rw [List.filter_append]
    exact hown.append hothers

theorem warnAll_renderAllAfter {keys : KeyLibrary} :
    ∀ (documents : List Document) (seen : Order.TextSet) (rendering : Rendering),
      renderAllAfter keys seen documents = .ok rendering →
        WarnAll keys (preorderAll documents)
          (rendering.warnings.filter fun w => !w.isDuplicateHosts)
  | [], seen, rendering, h => by
    rw [renderAllAfter] at h
    obtain rfl := Except.ok.inj h
    exact ⟨[], .nil, rfl⟩
  | document :: rest, seen, rendering, h => by
    rw [renderAllAfter] at h
    obtain ⟨first, hfirst, h⟩ := exists_of_bind_eq_ok h
    obtain ⟨others, hothers, h⟩ := exists_of_bind_eq_ok h
    obtain rfl := Except.ok.inj h
    have hdocument := warnAll_renderAfter document seen first hfirst
    have hrest := warnAll_renderAllAfter rest _ others hothers
    rw [preorderAll]
    show WarnAll keys _ ((first.warnings ++ others.warnings).filter _)
    rw [List.filter_append]
    exact hdocument.append hrest

end

/-- **The warnings of a rendering, listed.** Whatever is read, with whatever it includes, and
    rendered: the warnings that are no reports of host names are those of the tree, and those of
    the tree are one list. Dropped global lines are all of them, sorted, and only the included
    documents drop any. And no rendering of a tree that agrees in what has to do with warnings — it
    may have other lines, other variables, and other domains of them — warns about more or less. -/
theorem warnings_are_listed {out : Outside} {locator text : String} {document : Document}
    (hread : ReadAs out locator text document) {keys : KeyLibrary} {rendering : Rendering}
    (h : document.render keys = .ok rendering) :
    (∀ warnings, document.Warns keys warnings ↔
      rendering.warnings.filter (fun w => !w.isDuplicateHosts) = warnings) ∧
    document.Marked ∧
    (∀ own : Contents, (Order.sort Line.le own.root.lines).Perm own.root.lines ∧
      (Order.sort Line.le own.root.lines).Pairwise Line.Precedes) ∧
    ∀ (document' : Document) (rendering' : Rendering),
      List.Forall₂ Contents.WarnsLike document.preorder document'.preorder →
      document'.render keys = .ok rendering' →
        rendering'.warnings.filter (fun w => !w.isDuplicateHosts) =
          rendering.warnings.filter fun w => !w.isDuplicateHosts := by
  have hwarns := warnAll_renderAfter document ∅ rendering h
  refine ⟨fun warnings => ⟨fun hw => hwarns.unique hw, ?_⟩, marked_of_readAs hread,
    fun own => ⟨Order.sort_perm _ _, Line.pairwise_sort _⟩, fun document' rendering' hlike h' => ?_⟩
  · rintro rfl
    exact hwarns
  · exact (warnAll_renderAfter document' ∅ rendering' h').unique (hwarns.of_forall₂ hlike)

/-- Where the document `/dock` can be included, which has global lines and identities without a key
    file. -/
def wharf : Surroundings :=
  { readUrl := Address.reader
    home := some "/home"
    fetcher := .ofDictionary ⟨[("/dock",
      .ok "Zone b\nArea a\n@key lost ff\nHost far\n@identity lost\n@identity none")], by simp⟩ }

def wharfText : String :=
  "@include /dock\n@HostAttrs crew\n@identity ghost\n@with n 1 2\nHost near<n>\n@is crew"

def wharfChild : Document :=
  ⟨{ Contents.start "/dock" true .empty with
      root := ⟨"Root", .root, [⟨"Zone", ["b"]⟩, ⟨"Area", ["a"]⟩], [], []⟩
      keys := Dictionary.empty.insert "lost" ["ff"]
      sections := [⟨"far", .host [], [], [], ["lost", "none"]⟩] }, []⟩

def wharfDocument : Document :=
  ⟨{ Contents.start "top" false .empty with
      sections := [⟨"crew", .bundle, [], [], ["ghost"]⟩,
        ⟨"near<n>", .host [⟨"n", ["1", "2"]⟩], [], ["crew"], []⟩] }, [wharfChild]⟩

theorem readAs_wharf : ReadAs wharf.outside "top" wharfText wharfDocument := by
  have hlines : Text.lines wharfText =
      ["@include /dock", "@HostAttrs crew", "@identity ghost", "@with n 1 2", "Host near<n>",
        "@is crew"] := by
    cbv
  have hchildLines : Text.lines
      "Zone b\nArea a\n@key lost ff\nHost far\n@identity lost\n@identity none" =
        ["Zone b", "Area a", "@key lost ff", "Host far", "@identity lost", "@identity none"] := by
    cbv
  have hchild : readWithin wharf.outside 1 ["top", "/dock"] (.start "/dock" true .empty) (some [])
      "Zone b\nArea a\n@key lost ff\nHost far\n@identity lost\n@identity none" =
        ⟨[], .ok wharfChild⟩ := by
    unfold readWithin
    rw [hchildLines,
      readLines_of_obey (by cbv) (by cbv : _ = Except.ok (.literal ⟨"Zone", ["b"]⟩)) (by simp) rfl,
      readLines_of_obey (by cbv) (by cbv : _ = Except.ok (.literal ⟨"Area", ["a"]⟩)) (by simp) rfl,
      readLines_of_obey (by cbv) (by cbv : _ = Except.ok (.key "lost" ["ff"])) (by simp) rfl,
      readLines_of_obey (by cbv) (by cbv : _ = Except.ok (.host "far")) (by simp) rfl,
      readLines_of_obey (by cbv) (by cbv : _ = Except.ok (.identity "lost")) (by simp)
        (by cbv),
      readLines_of_obey (by cbv) (by cbv : _ = Except.ok (.identity "none")) (by simp)
        (by cbv)]
    rfl
  have hopen : openInclude wharf.outside ["top"] (.start "top" false .empty) 1 "/dock" [] =
      ⟨[.path "/dock"], .ok ⟨"/dock", .start "/dock" true .empty, [],
        "Zone b\nArea a\n@key lost ff\nHost far\n@identity lost\n@identity none"⟩⟩ := by
    have hresolve : (Contents.start "top" false .empty).resolve "/dock" = "/dock" := by cbv
    have hs : wharf.outside.classify
        ((Contents.start "top" false .empty).resolve "/dock") = .ok (.path "/dock") := by
      rw [hresolve]
      cbv
    rw [openInclude_of_answer hs (by decide) rfl, hresolve]
    rfl
  have htop : topText wharf.outside "top" = "top" := by cbv
  refine ⟨2, ?_⟩
  unfold readWithin
  rw [htop, hlines,
    readLines_of_include (by cbv) (by cbv : _ = Except.ok (Directive.includes "/dock" [])) hopen
      hchild,
    readLines_of_obey (by cbv) (by cbv : _ = Except.ok (.hostAttrs "crew")) (by simp) rfl,
    readLines_of_obey (by cbv) (by cbv : _ = Except.ok (.identity "ghost")) (by simp) (by cbv),
    readLines_of_obey (by cbv) (by cbv : _ = Except.ok (.withVariable ⟨"n", ["1", "2"]⟩)) (by simp)
      rfl,
    readLines_of_obey (by cbv) (by cbv : _ = Except.ok (.host "near<n>")) (by simp) rfl,
    readLines_of_obey (by cbv) (by cbv : _ = Except.ok (.inherits "crew")) (by simp) rfl]
  rfl

theorem wharf_warns : wharfDocument.Warns (.empty "") [.undefinedIdentity "top" "ghost",
    .ignoredGlobals "/dock" ["Area = a", "Zone = b"], .identityNotFound "/dock" "lost" ["ff"],
    .undefinedIdentity "/dock" "none"] := by
  have htop : wharfDocument.contents.Warns (.empty "") [.undefinedIdentity "top" "ghost"] := by
    have hresolve : wharfDocument.contents.resolveSection (.empty "") 1 [] =
        ⟨[0, 1], [.undefinedIdentity "top" "ghost"], .ok []⟩ := by
      cbv
    have hhost : wharfDocument.contents.HostWarns (.empty "") 1
        (wharfDocument.contents.resolveSection (.empty "") 1 []).warnings :=
      Contents.hostWarns_of_resolveSection rfl (congrArg Resolution.outcome hresolve)
    rw [hresolve] at hhost
    exact ⟨[_], .cons hhost .nil, by cbv⟩
  have hchild : wharfChild.contents.Warns (.empty "")
      [.ignoredGlobals "/dock" ["Area = a", "Zone = b"], .identityNotFound "/dock" "lost" ["ff"],
        .undefinedIdentity "/dock" "none"] := by
    have hresolve : wharfChild.contents.resolveSection (.empty "") 0 [] =
        ⟨[0], [.identityNotFound "/dock" "lost" ["ff"], .undefinedIdentity "/dock" "none"],
          .ok []⟩ := by
      cbv
    have hhost : wharfChild.contents.HostWarns (.empty "") 0
        (wharfChild.contents.resolveSection (.empty "") 0 []).warnings :=
      Contents.hostWarns_of_resolveSection rfl (congrArg Resolution.outcome hresolve)
    rw [hresolve] at hhost
    exact ⟨[_], .cons hhost .nil, by cbv⟩
  exact ⟨[_, _], .cons htop (.cons hchild .nil), rfl⟩

theorem wharf_warnings_are_listed :
    ReadAs wharf.outside "top" wharfText wharfDocument ∧
      ∃ rendering, wharfDocument.render (.empty "") = .ok rendering ∧
        rendering.warnings.filter (fun w => !w.isDuplicateHosts) =
          [.undefinedIdentity "top" "ghost", .ignoredGlobals "/dock" ["Area = a", "Zone = b"],
            .identityNotFound "/dock" "lost" ["ff"], .undefinedIdentity "/dock" "none"] := by
  have htop : wharfDocument.contents.Expands (.empty "") := by
    have hstanzas : (wharfDocument.contents.allStanzas (.empty "")).outcome =
        .ok [⟨some "near1", ["Host = near1"]⟩, ⟨some "near2", ["Host = near2"]⟩] := by
      decide +kernel
    exact Contents.expands_of_eq_ok (by cbv : _ = Except.ok []) hstanzas
  have hchild : wharfChild.contents.Expands (.empty "") := by
    have hstanzas : (wharfChild.contents.allStanzas (.empty "")).outcome =
        .ok [⟨some "far", ["Host = far"]⟩] := by
      decide +kernel
    exact Contents.expands_of_eq_ok (by cbv : _ = Except.ok ["Area = a", "Zone = b"]) hstanzas
  have hnone : ∀ own ∈ ([] : List Contents), own.Expands (.empty "") :=
    fun own h => absurd h List.not_mem_nil
  have hall : ∀ own ∈ wharfDocument.preorder, own.Expands (.empty "") :=
    List.forall_mem_cons.2 ⟨htop, List.forall_mem_cons.2 ⟨hchild, hnone⟩⟩
  obtain ⟨rendering, hrender⟩ := exists_renderAfter_eq_ok wharfDocument ∅ hall
  obtain ⟨hlisted, -⟩ := warnings_are_listed readAs_wharf hrender
  exact ⟨readAs_wharf, rendering, hrender, (hlisted _).1 wharf_warns⟩

end Document
end SshTemplate
