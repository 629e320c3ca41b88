import SshTemplate.Proofs.Inheritance.Agreement
import SshTemplate.Proofs.Rendering.Flattening

/-!
# `Proofs.Rendering.Unreached` — a bundle that no host inherits leaves no trace

Two renderings are compared here, of two trees that differ in one section of one of their documents.
The section is one that no path of `@is` references leads to from a host, and everything in it may
differ but its name, its kind and its place. The renderings are the same, errors and warnings
included (`unreached_bundles_are_invisible`). So what cannot be resolved, looked up or filled in
such a section never matters, and what it holds reaches no host by any other way than an `@is` line.

The name has to stay: a reference to a name that two sections bear is an error, whichever of them
is used. The set that a walk stays in is that of the sections that some host does reach, and for one
document the rest is `AgreeOn`. From there on the tree is looked at from above: a part of it that
renders alike after whatever has been seen may be put in place of another.
-/

set_option autoImplicit false

namespace SshTemplate
namespace Contents

variable {own other : Contents} {keys : KeyLibrary}

/-- No path of `@is` references leads from a host to the section at `index`. -/
def Unreached (own : Contents) (index : Nat) : Prop :=
  ∀ place ∈ own.hostPlaces, ¬ own.Reaches [] place.2 index

/-- The document with other contents in the section at `index`, which keeps its name and kind. -/
def withSection (own : Contents) (index : Nat) (lines : List Line)
    (parents identities : List String) : Contents :=
  { own with
    sections := own.sections.modify index fun s =>
      { s with lines := lines, parents := parents, identities := identities } }

/-! ## What hosts reach -/

/-- The places that some host reaches. -/
def Live (own : Contents) (i : Nat) : Prop :=
  ∃ place ∈ own.hostPlaces, own.Reaches [] place.2 i

theorem Reaches.trans_inherits {i j k : Nat} (h : own.Reaches [] i j) (hedge : own.Inherits j k) :
    own.Reaches [] i k := by
  induction h with
  | here _ => exact .step List.not_mem_nil hedge (.here List.not_mem_nil)
  | step fresh edge _ ih => exact .step fresh edge (ih hedge)

theorem closed_live (own : Contents) : own.Closed own.Live := by
  intro i j hi hedge
  obtain ⟨place, hplace, hpath⟩ := hi
  exact ⟨place, hplace, hpath.trans_inherits hedge⟩

theorem live_of_mem_hostPlaces {place : Section × Nat} (h : place ∈ own.hostPlaces) :
    own.Live place.2 :=
  ⟨place, h, .here List.not_mem_nil⟩

/-! ## One document -/

/-- What a document renders to comes of its global lines and of its hosts. -/
theorem render_congr (hlocator : other.locator = own.locator)
    (hincluded : other.included = own.included) (hglobals : other.globals = own.globals)
    (hstanzas : other.allStanzas keys = own.allStanzas keys) (seen : Order.TextSet) :
    other.render keys seen = own.render keys seen := by
  have hpart : ∀ globals, other.globalPart globals = own.globalPart globals := by
    intro globals
    unfold globalPart
    rw [hincluded, hlocator]
  unfold Contents.render
  simp only [hglobals, hpart, hstanzas, hlocator]

/-- What the documents must have in common apart from the sections that hosts reach. -/
structure RendersLike (own other : Contents) : Prop extends AgreeOn own.Live own other where
  included : other.included = own.included
  root : other.root = own.root
  bindings : other.bindings = own.bindings
  hostPlaces : other.hostPlaces = own.hostPlaces

theorem RendersLike.hostStanzas (h : own.RendersLike other) {place : Section × Nat}
    (hplace : place ∈ own.hostPlaces) :
    other.hostStanzas keys place.2 place.1 = own.hostStanzas keys place.2 place.1 := by
  have hlive : own.Live place.2 := live_of_mem_hostPlaces hplace
  have htemplate : other.templateOf keys place.2 = own.templateOf keys place.2 := by
    unfold templateOf writeLines
    rw [h.resolveSection own.closed_live hlive, h.sections place.2 hlive, h.locator]
  unfold Contents.hostStanzas
  rw [htemplate, h.locator, h.bindings]

/-- **A document renders by what its hosts reach.** -/
theorem RendersLike.render (h : own.RendersLike other) (seen : Order.TextSet) :
    other.render keys seen = own.render keys seen := by
  have hglobals : other.globals = own.globals := by
    unfold globals writeLines
    rw [h.root, h.locator]
  have hstanzas : other.allStanzas keys = own.allStanzas keys := by
    have hplaces : Logged.forEach (fun place => other.hostStanzas keys place.2 place.1)
        other.hostPlaces =
          Logged.forEach (fun place => own.hostStanzas keys place.2 place.1) own.hostPlaces := by
      rw [h.hostPlaces]
      exact Logged.forEach_congr fun place hplace => h.hostStanzas hplace
    exact congrArg (List.flatten <$> ·) hplaces
  exact render_congr h.locator h.included hglobals hstanzas seen

/-! ## Replacing an unreached section -/

theorem hostPlaces_withSection {index : Nat} {lines : List Line} {parents identities : List String}
    (h : ∀ s, own.sections[index]? = some s → s.isHost = false) :
    (own.withSection index lines parents identities).hostPlaces = own.hostPlaces := by
  have hmodify : ∀ (sections : List Section) (start i : Nat),
      (∀ s, sections[i]? = some s → s.isHost = false) →
        (((sections.modify i fun s => { s with lines, parents, identities }).zipIdx start).filter
          fun place => place.1.isHost) =
            (sections.zipIdx start).filter fun place => place.1.isHost := by
    intro sections
    induction sections with
    | nil => exact fun start i _ => by rw [List.modify_nil]
    | cons s rest ih =>
      intro start i hi
      cases i with
      | zero =>
        have hs : s.isHost = false := hi s rfl
        have hs' : Section.isHost { s with lines, parents, identities } = false := hs
        rw [List.modify_zero_cons, List.zipIdx_cons, List.zipIdx_cons, List.filter_cons,
          List.filter_cons, hs, hs']
        rfl
      | succ i =>
        have hrest : ∀ t, rest[i]? = some t → t.isHost = false := fun t ht => hi t ht
        rw [List.modify_succ_cons, List.zipIdx_cons, List.zipIdx_cons, List.filter_cons,
          List.filter_cons, ih (start + 1) i hrest]
  exact hmodify own.sections 0 index h

/-- A host reaches itself. -/
theorem Unreached.not_host {index : Nat} (h : own.Unreached index) {s : Section}
    (hs : own.sections[index]? = some s) : s.isHost = false := by
  by_contra hhost
  have hplace : (s, index) ∈ own.hostPlaces :=
    List.mem_filter.2 ⟨List.mem_zipIdx_iff_getElem?.2 hs, by simpa using hhost⟩
  exact h _ hplace (.here List.not_mem_nil)

theorem Unreached.rendersLike {index : Nat} (h : own.Unreached index) (lines : List Line)
    (parents identities : List String) :
    own.RendersLike (own.withSection index lines parents identities) where
  locator := rfl
  keys := rfl
  names := by
    refine List.ext_getElem? fun i => ?_
    unfold withSection
    rw [List.getElem?_map, List.getElem?_map, List.getElem?_modify]
    cases own.sections[i]? with
    | none => rfl
    | some s =>
      show some (Section.name (if index = i then _ else s)) = some s.name
      split <;> rfl
  sections := by
    intro i hi
    have hne : index ≠ i := by
      rintro rfl
      obtain ⟨place, hplace, hpath⟩ := hi
      exact h place hplace hpath
    exact List.getElem?_modify_ne _ _ hne
  included := rfl
  root := rfl
  bindings := rfl
  hostPlaces := hostPlaces_withSection fun _ => h.not_host

end Contents

namespace Document

/-- The second tree is the first with `other` in place of the contents `own` of one of its
    documents, whichever this is. -/
inductive Replaced (own other : Contents) : Document → Document → Prop where
  | here (includes : List Document) : Replaced own other ⟨own, includes⟩ ⟨other, includes⟩
  | within (contents : Contents) (before after : List Document) {document document' : Document}
      (below : Replaced own other document document') :
      Replaced own other ⟨contents, before ++ document :: after⟩
        ⟨contents, before ++ document' :: after⟩

theorem renderAllAfter_congr {keys : KeyLibrary} {document document' : Document}
    (h : ∀ seen, document'.renderAfter keys seen = document.renderAfter keys seen)
    (before after : List Document) (seen : Order.TextSet) :
    renderAllAfter keys seen (before ++ document' :: after) =
      renderAllAfter keys seen (before ++ document :: after) := by
  induction before generalizing seen with
  | nil => rw [List.nil_append, List.nil_append, renderAllAfter, renderAllAfter, h]
  | cons first rest ih =>
    rw [List.cons_append, List.cons_append, renderAllAfter, renderAllAfter]
    simp only [ih]

/-- **One document of a tree may be exchanged for another that renders alike.** -/
theorem Replaced.renderAfter {own other : Contents} {keys : KeyLibrary}
    {document document' : Document} (h : Replaced own other document document')
    (hown : ∀ seen, other.render keys seen = own.render keys seen) (seen : Order.TextSet) :
    document'.renderAfter keys seen = document.renderAfter keys seen := by
  induction h generalizing seen with
  | here includes => rw [Document.renderAfter, Document.renderAfter, hown]
  | within contents before after _ ih =>
    rw [Document.renderAfter, Document.renderAfter]
    simp only [renderAllAfter_congr ih]

/-- **Bundles are only ever inherited.** Let no host of a document reach one of its sections by
    `@is`. Then other lines, other identities and other `@is` references in this section change
    nothing about the rendering of a tree that the document stands in, at whatever place, with
    whatever keys: it is the same configuration with the same warnings, or the same error. -/
theorem unreached_bundles_are_invisible {own : Contents} {index : Nat}
    (hunreached : own.Unreached index) (lines : List Line) (parents identities : List String)
    {document document' : Document}
    (hreplaced : Replaced own (own.withSection index lines parents identities) document document')
    (keys : KeyLibrary) : document'.render keys = document.render keys := by
  have hlike := hunreached.rendersLike lines parents identities
  exact hreplaced.renderAfter hlike.render ∅

/-- A document that is included, with a bundle `idle` that inherits and is not inherited. -/
def lagoon : Contents :=
  { Contents.start "lagoon" true .empty with
    sections := [
      ⟨"idle", .bundle, [⟨"Port", ["1"]⟩], ["base"], []⟩,
      ⟨"base", .bundle, [⟨"User", ["me"]⟩], ["base"], []⟩,
      ⟨"boat", .host [], [], ["base"], []⟩] }

def bay : Document := ⟨Contents.start "bay" false .empty, [⟨lagoon, []⟩]⟩

/-- The host reaches the last two sections of `lagoon`, and no reference leads back. -/
theorem unreached_idle : lagoon.Unreached 0 := by
  have hedges : ∀ i j, lagoon.Inherits i j → j = 1 := by
    intro i j hedge
    obtain ⟨s, name, hs, hname, hj⟩ := hedge
    have hsections : ∀ t ∈ lagoon.sections, ∀ parent ∈ t.parents, parent = "base" := by decide
    obtain rfl := hsections s (List.mem_of_getElem? hs) name hname
    exact (hj.2 1 ⟨"base", .bundle, [⟨"User", ["me"]⟩], ["base"], []⟩ rfl rfl).symm
  have haway : ∀ i j, lagoon.Reaches [] i j → i ≠ 0 → j ≠ 0 := by
    intro i j hpath
    induction hpath with
    | here _ => exact id
    | step _ edge _ ih => exact fun _ => ih (by rw [hedges _ _ edge]; decide)
  intro place hplace hpath
  have hhost : place.2 ≠ 0 := by
    have hall : ∀ p ∈ lagoon.hostPlaces, p.2 ≠ 0 := by decide
    exact hall place hplace
  exact haway _ _ hpath hhost rfl

/-- A line that cannot be written, a name that no section bears, an identity without a key. -/
theorem idle_is_invisible :
    lagoon.Unreached 0 ∧
      Document.render ⟨bay.contents, [⟨lagoon.withSection 0
        [⟨"Forward", ["<nowhere>", "a\"b"]⟩] ["nowhere", "boat"] ["ghost"], []⟩]⟩ (.empty "") =
        bay.render (.empty "") := by
  refine ⟨unreached_idle, unreached_bundles_are_invisible unreached_idle
    [⟨"Forward", ["<nowhere>", "a\"b"]⟩] ["nowhere", "boat"] ["ghost"] ?_ (.empty "")⟩
  exact Replaced.within bay.contents [] [] (.here [])

end Document
end SshTemplate
