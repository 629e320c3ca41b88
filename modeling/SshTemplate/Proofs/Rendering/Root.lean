import SshTemplate.Proofs.Rendering.Identities
import SshTemplate.Proofs.Rendering.Unreached

/-!
# `Proofs.Rendering.Root` — what a rendering makes of the root section

To the reader the root is a section like the others: whatever stands before the first host is filed
in it, lines and identities by the same steps. Rendering looks at one thing of it, the global lines,
and at these only when they have been sorted. So a document with another root renders the same if
the sorted lines come to the same (`render_withRoot`), and there are two ways in which they do.

The lines may stand in another order, in any documents of the tree at once. The order of lines tells
any two of them apart, so there is one way to sort them, and with it one first line that cannot be
written (`order_of_globals_is_irrelevant`).

And the identities may be any. A host that inherits a section has the lines of the key file for each
of its identities, or the rendering warns. For those of the root there is neither: they are
recorded, and nothing asks for them (`root_identities_are_lost`). What such an identity is to come
to is there only if something else in the documents gives it.
-/

set_option autoImplicit false

namespace SshTemplate

open Template (crossProduct)

namespace Contents

variable {own : Contents} {keys : KeyLibrary} {identity : String}

/-- **Of the root section, a rendering looks at the sorted lines.** -/
theorem render_withRoot {root : Section} (h : (own.withRoot root).globals = own.globals)
    (seen : Order.TextSet) : (own.withRoot root).render keys seen = own.render keys seen := by
  have htemplate : ∀ index, (own.withRoot root).templateOf keys index =
      own.templateOf keys index := by
    intro index
    unfold templateOf
    rw [own.resolveSection_withRoot root keys index]
    rfl
  have hstanzas : (own.withRoot root).allStanzas keys = own.allStanzas keys := by
    unfold allStanzas hostStanzas
    simp only [htemplate]
    rfl
  have hlocator : (own.withRoot root).locator = own.locator := rfl
  have hincluded : (own.withRoot root).included = own.included := rfl
  exact render_congr hlocator hincluded h hstanzas seen

/-! ## The order of the global lines -/

/-- Global lines can be sorted in one way. -/
theorem globals_of_sorted {sorted : List Line} (hperm : sorted.Perm own.root.lines)
    (hsorted : sorted.Pairwise Line.Precedes) :
    own.globals = own.writeLines own.root.name "" sorted := by
  have hantisymm : ∀ a b : Line, a.le b → b.le a → a = b := fun a b hab hba =>
    (Line.le_iff_precedes.1 hab).antisymm (Line.le_iff_precedes.1 hba)
  have hsame : Order.sort Line.le own.root.lines = sorted :=
    Order.sort_eq_of_pairwise Line.le_total Line.le_trans hantisymm hperm
      (hsorted.imp fun h => Line.le_iff_precedes.2 h)
  unfold globals
  rw [hsame]

theorem globals_perm {lines : List Line} (h : lines.Perm own.root.lines) :
    (own.withGlobals lines).globals = own.globals := by
  have hsorted : (own.withGlobals lines).globals =
      (own.withGlobals lines).writeLines own.root.name "" (Order.sort Line.le own.root.lines) :=
    globals_of_sorted ((Order.sort_perm _ _).trans h.symm) (Line.pairwise_sort _)
  rw [hsorted]
  rfl

end Contents

namespace Document

variable {keys : KeyLibrary}

mutual

/-- The second tree is the first with the global lines of each document in some order. -/
inductive Reordered : Document → Document → Prop
  | mk {own : Contents} {lines : List Line} {includes includes' : List Document}
      (globals : lines.Perm own.root.lines) (below : AllReordered includes includes') :
      Reordered ⟨own, includes⟩ ⟨own.withGlobals lines, includes'⟩

inductive AllReordered : List Document → List Document → Prop
  | nil : AllReordered [] []
  | cons {document document' : Document} {rest rest' : List Document}
      (first : Reordered document document') (others : AllReordered rest rest') :
      AllReordered (document :: rest) (document' :: rest')

end

-- As in a rendering, the names that have been seen are other ones at every document.
mutual

theorem Reordered.renderAfter : ∀ {document document' : Document}, Reordered document document' →
    ∀ seen, document'.renderAfter keys seen = document.renderAfter keys seen
  | _, _, .mk globals below, seen => by
    rw [Document.renderAfter, Document.renderAfter]
    simp only [below.renderAllAfter]
    exact congrArg (· >>= _) (Contents.render_withRoot (Contents.globals_perm globals) seen)

theorem AllReordered.renderAllAfter : ∀ {documents documents' : List Document},
    AllReordered documents documents' →
      ∀ seen, renderAllAfter keys seen documents' = renderAllAfter keys seen documents
  | _, _, .nil, seen => rfl
  | _, _, .cons first others, seen => by
    rw [Document.renderAllAfter, Document.renderAllAfter, first.renderAfter seen]
    simp only [others.renderAllAfter]

end

/-- **The order of global lines does not matter.** In every tree of documents the global lines of
    each document may be put in any order, and the rendering is the same, whatever the keys: it has
    the same stanzas, the same host names and the same warnings, those about dropped global lines
    included, or it is the same error. For the lines of a document are written as they come when
    they are sorted, and whoever sorts them comes to the same list. -/
theorem order_of_globals_is_irrelevant {document document' : Document}
    (h : Reordered document document') (keys : KeyLibrary) :
    document'.render keys = document.render keys ∧
      ∀ own ∈ document.preorder, ∀ sorted : List Line, sorted.Perm own.root.lines →
        sorted.Pairwise Line.Precedes →
          own.globals = own.writeLines own.root.name "" sorted :=
  ⟨h.renderAfter ∅, fun _ _ _ hperm hsorted => Contents.globals_of_sorted hperm hsorted⟩

/-- A document that includes one with the global lines. -/
def above (lines : List Line) : Document :=
  ⟨Contents.start "above" false .empty,
    [⟨(Contents.start "below" true .empty).withGlobals lines, []⟩]⟩

/-- The error is about the line that comes first when they are sorted, also where it stands last. -/
theorem order_of_wharf_is_irrelevant :
    let reordered := wharfChild.contents.withGlobals [⟨"Area", ["a"]⟩, ⟨"Zone", ["b"]⟩]
    let first : Line := ⟨"Area", ["x\"", "y"]⟩
    let last : Line := ⟨"Zone", ["z\"", "y"]⟩
    Document.render ⟨wharfDocument.contents, [⟨reordered, []⟩]⟩ (.empty "") =
        wharfDocument.render (.empty "") ∧
      (above [last, first]).render (.empty "") = (above [first, last]).render (.empty "") ∧
      (above [first, last]).render (.empty "") =
        .error (.output "below" "Root" (.quoteInArgument "Area" "x\"")) := by
  intro reordered first last
  have hwharf : Reordered wharfDocument ⟨wharfDocument.contents, [⟨reordered, []⟩]⟩ :=
    .mk (.refl _) (.cons (.mk (.swap _ _ _) .nil) .nil)
  have habove : Reordered (above [first, last]) (above [last, first]) :=
    .mk (.refl _) (.cons (.mk (.swap _ _ _) .nil) .nil)
  refine ⟨(order_of_globals_is_irrelevant hwharf _).1,
    (order_of_globals_is_irrelevant habove _).1, ?_⟩
  unfold render renderAfter Contents.render Contents.allStanzas
  cbv

end Document

/-! ## The identities of the root -/

namespace Contents

variable {own : Contents} {keys : KeyLibrary} {identity : String}

/-- The document with other identities in its root section. -/
def withRootIdentities (own : Contents) (identities : List String) : Contents :=
  own.withRoot { own.root with identities := identities }

/-- What an identity of the root section is to come to: the lines of its key file in the stanza, or
    the warning that it has none. -/
def CarriesGlobally (own : Contents) (keys : KeyLibrary) (identity : String) (stanza : Stanza)
    (warnings : List Warning) : Prop :=
  match own.keyFile keys identity with
  | .ok path => ∀ line ∈ identityLines path, line.written "" ∈ stanza.lines
  | .error warning => warning ∈ warnings

theorem mem_globalStanza {text : String} :
    text ∈ own.globalStanza.lines ↔ ∃ line ∈ own.root.lines, line.written "" = text := by
  have hsorted : ∀ line, line ∈ Order.sort Line.le own.root.lines ↔ line ∈ own.root.lines :=
    fun line => (Order.sort_perm _ _).mem_iff
  unfold globalStanza
  simp only [List.mem_map, hsorted]

/-- A failed lookup is not what is warned about when global lines are dropped. -/
theorem not_mem_droppedGlobals_of_keyFile {other : Contents} {warning : Warning}
    (h : other.keyFile keys identity = .error warning) : warning ∉ own.droppedGlobals := by
  intro hmem
  unfold droppedGlobals at hmem
  split at hmem
  · obtain rfl := List.mem_singleton.1 hmem
    unfold keyFile at h
    split at h
    · cases h
    · split at h <;> cases h
  · exact absurd hmem List.not_mem_nil

end Contents

namespace Document

variable {document : Document} {keys : KeyLibrary} {rendering : Rendering}

/-- Some section that a host of the tree inherits has an identity that is warned about so. -/
def Misses (document : Document) (keys : KeyLibrary) (warning : Warning) : Prop :=
  ∃ own ∈ document.preorder, ∃ place ∈ own.hostPlaces, ∃ index s,
    own.Reaches [] place.2 index ∧ own.sections[index]? = some s ∧
      ∃ identity ∈ s.identities, own.keyFile keys identity = .error warning

/-- What an identity of the root section is to come to is there without it: the top document says
    the lines of the key file by itself, or the warning is due for the sake of a host. -/
def GivenElsewhere (document : Document) (keys : KeyLibrary) (identity : String) : Prop :=
  match document.contents.keyFile keys identity with
  | .ok path => ∀ line ∈ Contents.identityLines path,
      ∃ own ∈ document.contents.root.lines, own.written "" = line.written ""
  | .error warning => document.Misses keys warning

/-- **Failed lookups are warned about for the sake of a host**, and not otherwise. -/
theorem mem_warnings_iff_misses (hrender : document.render keys = .ok rendering)
    {own : Contents} {identity : String} {warning : Warning}
    (hfile : own.keyFile keys identity = .error warning) :
    warning ∈ rendering.warnings ↔ document.Misses keys warning := by
  constructor
  · intro hmem
    have hkind := Contents.not_isDuplicateHosts_of_keyFile hfile
    obtain ⟨parts, hparts, hall⟩ := warnAll_renderAfter document ∅ rendering hrender
    have hlisted : warning ∈ parts.flatten :=
      hall ▸ List.mem_filter.2 ⟨hmem, by simp [hkind]⟩
    obtain ⟨part, hpart, hmem⟩ := List.mem_flatten.1 hlisted
    obtain ⟨holder, hholder, hosts, hhosts, rfl⟩ := Contents.exists_of_mem_right hparts hpart
    have hnot : warning ∉ holder.droppedGlobals :=
      Contents.not_mem_droppedGlobals_of_keyFile hfile
    obtain ⟨warnings, hwarnings, hmem⟩ :=
      List.mem_flatten.1 ((List.mem_append.1 hmem).resolve_left hnot)
    obtain ⟨start, hstart, order, horder, rfl⟩ := Contents.exists_of_mem_right hhosts hwarnings
    obtain ⟨place, hplace, rfl⟩ := List.mem_map.1 hstart
    obtain ⟨index, hindex, hmem⟩ := List.mem_flatMap.1 hmem
    obtain ⟨i, hi, hreaches⟩ := horder.mem_iff.1 hindex
    obtain rfl := List.mem_singleton.1 hi
    unfold Contents.sectionWarnings at hmem
    cases hs : holder.sections[index]? with
    | none => rw [hs] at hmem; exact absurd hmem List.not_mem_nil
    | some s =>
      rw [hs] at hmem
      obtain ⟨used, hused, hwarns⟩ := List.mem_filterMap.1 hmem
      rw [Contents.identityWarning?_eq] at hwarns
      refine ⟨holder, hholder, place, hplace, index, s, hreaches, hs, used, hused, ?_⟩
      split at hwarns
      · cases hwarns
      · next hused => rw [hused, Option.some.inj hwarns]
  · rintro ⟨holder, hholder, place, hplace, index, s, hreaches, hs, used, hused, hfails⟩
    exact mem_warnings_of_keyFile hrender hholder hplace hreaches hs hused hfails

/-- **The identities of the root section leave no trace.** Take any document that has been read and
    its rendering, if there is one. With other identities in the root section of any document of the
    tree, or with none, the rendering is the same. Its first stanza has the global lines of the top
    document and no others. So what an identity of the root is to come to — the two lines of its key
    file in the first stanza, or a warning — is there exactly if something else gives it. This is
    not so for the identities of a section that a host inherits: each of them gives every stanza of
    that host the lines of its key file, or there is a warning. -/
theorem root_identities_are_lost {out : Outside} {locator text : String}
    (hread : ReadAs out locator text document) (hrender : document.render keys = .ok rendering) :
    (∀ own identities document',
      Replaced own (own.withRootIdentities identities) document document' →
        document'.render keys = .ok rendering) ∧
    (∃ hosts, rendering.stanzas = document.contents.globalStanza :: hosts ∧
      ∀ stanza ∈ hosts, stanza.host ≠ none) ∧
    (∀ identity, document.contents.CarriesGlobally keys identity document.contents.globalStanza
        rendering.warnings ↔ document.GivenElsewhere keys identity) ∧
    ∀ own ∈ document.preorder, ∀ place ∈ own.hostPlaces, ∀ index s,
      own.Reaches [] place.2 index → own.sections[index]? = some s → ∀ identity ∈ s.identities,
        match own.keyFile keys identity with
        | .ok path => ∀ combination ∈ crossProduct place.1.axes,
            own.stanzaOf keys place combination ∈ rendering.stanzas ∧
              Contents.keyLines (own.filled combination (Shell.quote path)) <:+:
                (own.stanzaOf keys place combination).lines
        | .error warning => warning ∈ rendering.warnings := by
  refine ⟨fun own identities document' hreplaced => ?_, ?_, fun identity => ?_, ?_⟩
  · have hsame : (own.withRootIdentities identities).globals = own.globals := rfl
    rw [← hrender]
    exact hreplaced.renderAfter (Contents.render_withRoot hsame) ∅
  · refine ⟨_, stanzas_of_marked (marked_of_readAs hread) hrender, fun stanza hstanza => ?_⟩
    obtain ⟨own, -, hexpanded⟩ := List.mem_flatMap.1 hstanza
    exact host_of_mem_expanded hexpanded
  · unfold Contents.CarriesGlobally GivenElsewhere
    cases hfile : document.contents.keyFile keys identity with
    | ok path => simp only [Contents.mem_globalStanza]
    | error warning => exact mem_warnings_iff_misses hrender hfile
  · intro own hown place hplace index s hreaches hs identity hidentity
    cases hfile : own.keyFile keys identity with
    | error warning =>
      exact mem_warnings_of_keyFile hrender hown hplace hreaches hs hidentity hfile
    | ok path =>
      intro combination hc
      have hexpands :=
        ((stanzas_renderAfter document ∅ rendering hrender).2 own hown).hosts place hplace
      exact ⟨stanzaOf_mem_stanzas hread hrender hown hplace hc,
        hexpands.infix_stanzaOf hreaches hs hidentity hfile combination⟩

def coveText : String := "@key k aa\n@identity k\n@identity ghost\nHost h\n@identity k"

/-- A document whose root section has the identities; one of its host has a key file in `oneKey`. -/
def cove (identities : List String) : Document :=
  ⟨{ Contents.start "cove" false .empty with
      root := ⟨"Root", .root, [], [], identities⟩
      keys := Dictionary.empty.insert "k" ["aa"]
      sections := [⟨"h", .host [], [], [], ["k"]⟩] }, []⟩

theorem readAs_cove : ReadAs harbour.outside "cove" coveText (cove ["k", "ghost"]) := by
  have hlines : Text.lines coveText =
      ["@key k aa", "@identity k", "@identity ghost", "Host h", "@identity k"] := by
    cbv
  refine ⟨1, ?_⟩
  unfold readWithin
  rw [hlines,
    readLines_of_obey (by cbv) (by cbv : _ = Except.ok (.key "k" ["aa"])) (by simp) rfl,
    readLines_of_obey (by cbv) (by cbv : _ = Except.ok (.identity "k")) (by simp) (by cbv),
    readLines_of_obey (by cbv) (by cbv : _ = Except.ok (.identity "ghost")) (by simp) (by cbv),
    readLines_of_obey (by cbv) (by cbv : _ = Except.ok (.host "h")) (by simp) rfl,
    readLines_of_obey (by cbv) (by cbv : _ = Except.ok (.identity "k")) (by simp) (by cbv)]
  rfl

theorem exists_render_cove :
    ∃ rendering, (cove ["k", "ghost"]).render oneKey = .ok rendering := by
  have hstanzas : ((cove ["k", "ghost"]).contents.allStanzas oneKey).outcome =
      .ok [⟨some "h", ["Host = h", "    IdentitiesOnly = yes", "    IdentityFile = /k/one"]⟩] := by
    decide +kernel
  have hglobals : (cove ["k", "ghost"]).contents.globals = .ok [] := by
    decide +kernel
  exact exists_renderAfter_eq_ok (cove ["k", "ghost"]) ∅
    (List.forall_mem_singleton.2 (Contents.expands_of_eq_ok hglobals hstanzas))

/-- Without its root identities the document renders the same, and the host has its key file. -/
theorem cove_identities_are_lost :
    ReadAs harbour.outside "cove" coveText (cove ["k", "ghost"]) ∧
      ∃ rendering, (cove ["k", "ghost"]).render oneKey = .ok rendering ∧
        (cove []).render oneKey = .ok rendering ∧
        ∃ stanza ∈ rendering.stanzas, Contents.keyLines "/k/one" <:+: stanza.lines := by
  obtain ⟨rendering, hrender⟩ := exists_render_cove
  obtain ⟨hlost, -, -, hcarried⟩ := root_identities_are_lost readAs_cove hrender
  refine ⟨readAs_cove, rendering, hrender, hlost _ [] _ (.here []), ?_⟩
  have hown : (cove ["k", "ghost"]).contents ∈ (cove ["k", "ghost"]).preorder :=
    List.mem_singleton_self _
  have hplace : (⟨"h", .host [], [], [], ["k"]⟩, 0) ∈
      (cove ["k", "ghost"]).contents.hostPlaces := by
    decide
  have hfile : (cove ["k", "ghost"]).contents.keyFile oneKey "k" = .ok "/k/one" := by
    decide +kernel
  have hfilled : (cove ["k", "ghost"]).contents.filled [] (Shell.quote "/k/one") = "/k/one" := by
    decide +kernel
  have hhost := hcarried _ hown _ hplace 0 _ (.here List.not_mem_nil) rfl "k"
    (List.mem_singleton_self "k")
  rw [hfile] at hhost
  obtain ⟨hstanza, hlines⟩ := hhost [] (by decide)
  exact ⟨_, hstanza, hfilled ▸ hlines⟩

/-- **An identity of the root is lost in silence.** The two of `cove` are recorded. There is a key
    file for the first, and the global stanza is empty; there is no key for the second, and nothing
    is warned about. -/
theorem cove_loses_its_identities :
    let document := cove ["k", "ghost"]
    ReadAs harbour.outside "cove" coveText document ∧
      document.contents.root.identities = ["k", "ghost"] ∧
      document.contents.keyFile oneKey "k" = .ok "/k/one" ∧
      document.contents.keyFile oneKey "ghost" = .error (.undefinedIdentity "cove" "ghost") ∧
      ∃ rendering, document.render oneKey = .ok rendering ∧
        rendering.stanzas = [⟨none, []⟩, ⟨some "h", ["Host = h", "    IdentitiesOnly = yes",
          "    IdentityFile = /k/one"]⟩] ∧
        rendering.warnings = [] ∧
        ∀ identity ∈ document.contents.root.identities,
          ¬ document.contents.CarriesGlobally oneKey identity ⟨none, []⟩ rendering.warnings := by
  intro document
  have hfound : document.contents.keyFile oneKey "k" = .ok "/k/one" := by
    decide +kernel
  have hmissing : document.contents.keyFile oneKey "ghost" =
      .error (.undefinedIdentity "cove" "ghost") := by
    decide +kernel
  obtain ⟨rendering, hrender⟩ := exists_render_cove
  have hwarnings : rendering.warnings = [] := by
    have hresult : (document.render oneKey).toOption.map Rendering.warnings = some [] := by
      decide +kernel
    rw [hrender] at hresult
    exact Option.some.inj hresult
  refine ⟨readAs_cove, rfl, hfound, hmissing, rendering, hrender, ?_, hwarnings, ?_⟩
  · rw [stanzas_of_marked (marked_of_readAs readAs_cove) hrender]
    decide +kernel
  · rw [hwarnings]
    have hfirst : ¬ document.contents.CarriesGlobally oneKey "k" ⟨none, []⟩ [] := by
      unfold Contents.CarriesGlobally
      rw [hfound]
      exact fun h => List.not_mem_nil (h _ List.mem_cons_self)
    have hsecond : ¬ document.contents.CarriesGlobally oneKey "ghost" ⟨none, []⟩ [] := by
      unfold Contents.CarriesGlobally
      rw [hmissing]
      exact List.not_mem_nil
    exact List.forall_mem_cons.2 ⟨hfirst, List.forall_mem_singleton.2 hsecond⟩

end Document
end SshTemplate
