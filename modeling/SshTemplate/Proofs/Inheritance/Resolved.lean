import Mathlib
import SshTemplate.Proofs.Inheritance.Preorder

/-!
# `Proofs.Inheritance.Resolved` — what a resolved section consists of

`resolveSection` answers with lines, with the sections it has visited and with what it warned about.
This module says what the first two of them are, in terms of the graph of `Preorder.lean`: the
lines are the blocks of the sections visited, in preorder and with nothing between them, and what
is visited is what the white paths from the section lead to.

One invariant carries all of it. The walk follows a *flat* list of references, in which the
references of a section that was just visited stand in front of those that were waiting, and
`walk_preorder` says of any such list that following it is the depth first walk from what its
references name. The induction is the walk's own; `Preorder.split` is what takes the front of the
list apart again into what lies below the visited section and what lay behind it.

A walk that fails has visited sections too, and they stay visited. So a sequence of resolutions with
one visited set is described whatever becomes of each of them (`EachContributes`).
-/

set_option autoImplicit false

namespace SshTemplate
namespace Contents

variable {own : Contents} {keys : KeyLibrary}

/-! ## Blocks -/

/-- What an identity of a section contributes. -/
inductive IdentityBlock (own : Contents) (keys : KeyLibrary) (identity : String) :
    List Line → Prop where
  /-- The first of its fingerprints that is in the library decides which key file is used. -/
  | found {before after : List String} {fingerprint path : String}
      (defined : own.keys.get? identity = some (before ++ fingerprint :: after))
      (earlier : ∀ other ∈ before, keys.lookup other = none)
      (known : keys.lookup fingerprint = some path) :
      IdentityBlock own keys identity
        [⟨"IdentitiesOnly", ["yes"]⟩, ⟨"IdentityFile", [Shell.quote path]⟩]
  /-- An identity without a key file contributes nothing. -/
  | missing (unknown : ∀ fingerprints, own.keys.get? identity = some fingerprints →
      ∀ fingerprint ∈ fingerprints, keys.lookup fingerprint = none) :
      IdentityBlock own keys identity []

/-- What the section at `i` contributes by itself: its lines, then those of its identities. -/
def SectionBlock (own : Contents) (keys : KeyLibrary) (i : Nat) (lines : List Line) : Prop :=
  ∃ s parts, own.sections[i]? = some s ∧
    List.Forall₂ (own.IdentityBlock keys) s.identities parts ∧ lines = s.lines ++ parts.flatten

theorem identityBlock_of_keyFile (identity : String) :
    own.IdentityBlock keys identity (match own.keyFile keys identity with
      | .ok path => identityLines path
      | .error _ => []) := by
  unfold keyFile
  cases hdefined : own.keys.get? identity with
  | none => exact .missing fun fingerprints h => absurd (hdefined.symm.trans h) (by simp)
  | some fingerprints =>
    dsimp only
    cases hfound : fingerprints.findSome? keys.lookup with
    | none =>
      refine .missing fun others h fingerprint hmem => ?_
      obtain rfl : fingerprints = others := Option.some.inj (hdefined.symm.trans h)
      exact List.findSome?_eq_none_iff.1 hfound fingerprint hmem
    | some path =>
      obtain ⟨before, fingerprint, after, rfl, hknown, hearlier⟩ :=
        List.findSome?_eq_some_iff.1 hfound
      exact .found hdefined hearlier hknown

theorem sectionBlock_block {i : Nat} {s : Section} (hs : own.sections[i]? = some s) :
    own.SectionBlock keys i (own.block keys s) := by
  refine ⟨s, s.identities.map fun identity => match own.keyFile keys identity with
    | .ok path => identityLines path
    | .error _ => [], hs, ?_, rfl⟩
  refine List.forall₂_map_right_iff.2 ?_
  exact List.forall₂_same.2 fun identity _ => identityBlock_of_keyFile identity

/-! ## The walk -/

/-- What was visited stays visited, also where the walk fails. -/
theorem visited_walk (own : Contents) (keys : KeyLibrary) (visited : List Nat)
    (references : List Reference) :
    ∃ more, (own.walk keys visited references).visited = more ++ visited := by
  fun_induction walk own keys visited references with
  | case1 visited => exact ⟨[], rfl⟩
  | case2 visited reference rest issue h => exact ⟨[], rfl⟩
  | case3 visited reference rest index h hv ih => exact ih
  | case4 visited reference rest index h hv hs ih => exact ih
  | case5 visited reference rest index h hv s hs ih =>
    obtain ⟨more, hmore⟩ := ih
    refine ⟨more ++ [index], ?_⟩
    rw [Resolution.after, hmore, List.append_assoc]
    rfl

/-- The references of a section name what its `@is` lines name. -/
theorem forall₂_references {s : Section} {targets : List Nat} :
    List.Forall₂ (fun reference j => own.Named reference.target j) s.references targets ↔
      List.Forall₂ own.Named s.parents targets := by
  unfold Section.references
  exact List.forall₂_map_left_iff

/-- The lines in front of what a resolution comes to. -/
theorem outcome_after_eq_ok {block lines : List Line} {warnings : List Warning}
    {rest : Resolution} (h : (rest.after block warnings).outcome = .ok lines) :
    ∃ others, rest.outcome = .ok others ∧ lines = block ++ others := by
  unfold Resolution.after at h
  cases hrest : rest.outcome with
  | error e => rw [hrest] at h; exact absurd h (by simp [Functor.map, Except.map])
  | ok others =>
    rw [hrest] at h
    exact ⟨others, rfl, (Except.ok.inj h).symm⟩

/-- **Following references is walking depth first.** If nothing fails, every reference of the list
    names one section, and the walk from these sections visits what was visited, in preorder; the
    lines are the blocks of the visited sections. -/
theorem walk_preorder {visited : List Nat} {references : List Reference} {lines : List Line}
    (h : (own.walk keys visited references).outcome = .ok lines) :
    ∃ targets order blocks,
      List.Forall₂ (fun reference j => own.Named reference.target j) references targets ∧
      own.Preorder visited targets order ∧
      (own.walk keys visited references).visited = order.reverse ++ visited ∧
      List.Forall₂ (own.SectionBlock keys) order blocks ∧ lines = blocks.flatten := by
  fun_induction walk own keys visited references generalizing lines with
  | case1 visited =>
    obtain rfl : [] = lines := Except.ok.inj h
    exact ⟨[], [], [], .nil, .nil, rfl, .nil, rfl⟩
  | case2 visited reference rest issue hname => exact absurd h (by simp)
  | case3 visited reference rest index hname seen ih =>
    obtain ⟨targets, order, blocks, htargets, horder, hvisited, hblocks, rfl⟩ := ih h
    exact ⟨index :: targets, order, blocks, .cons (positionOf_eq_ok_iff.1 hname) htargets,
      .skip seen horder, hvisited, hblocks, rfl⟩
  | case4 visited reference rest index hname fresh hs ih =>
    -- A name leads to a section, so there is one at the place it leads to.
    obtain ⟨⟨s, hplace, -⟩, -⟩ := positionOf_eq_ok_iff.1 hname
    exact absurd (hs.symm.trans hplace) (by simp)
  | case5 visited reference rest index hname fresh s hs ih =>
    obtain ⟨others, hothers, rfl⟩ := outcome_after_eq_ok h
    obtain ⟨targets, order, blocks, htargets, horder, hvisited, hblocks, rfl⟩ := ih hothers
    -- The front of the list holds the references of the section, the rest those that waited.
    have hfront := List.forall₂_take_append _ _ _ htargets.flip
    have hback := List.forall₂_drop_append _ _ _ htargets.flip
    rw [← List.take_append_drop s.references.length targets] at horder
    obtain ⟨inner, later, rfl, hinner, hlater⟩ := horder.split
    have hedges := forall₂_references.1 hfront.flip
    refine ⟨index :: targets.drop s.references.length, index :: (inner ++ later),
      own.block keys s :: blocks, .cons (positionOf_eq_ok_iff.1 hname) hback.flip,
      .visit fresh hs hedges hinner hlater, ?_, .cons (sectionBlock_block hs) hblocks, rfl⟩
    rw [Resolution.after, hvisited]
    simp

/-- A failure behind what a section contributes is the failure of the whole. -/
theorem outcome_after_eq_error {block : List Line} {warnings : List Warning} {rest : Resolution}
    {e : Error} (h : (rest.after block warnings).outcome = .error e) : rest.outcome = .error e := by
  unfold Resolution.after at h
  cases hrest : rest.outcome with
  | ok lines => rw [hrest] at h; exact absurd h (by simp [Functor.map, Except.map])
  | error e' => rw [hrest] at h; exact congrArg _ (Except.error.inj h)

/-- **A walk fails at a name.** Some reference of the list, or of a section that a white path leads
    to from what the list names, names no section or more than one. -/
theorem unresolved_of_walk_error {visited : List Nat} {references : List Reference} {e : Error}
    (h : (own.walk keys visited references).outcome = .error e) :
    (∃ reference ∈ references, ∀ j, ¬ own.Named reference.target j) ∨
      ∃ reference ∈ references, ∃ i j s name, own.Named reference.target i ∧
        own.Reaches visited i j ∧ own.sections[j]? = some s ∧ name ∈ s.parents ∧
        ∀ k, ¬ own.Named name k := by
  fun_induction walk own keys visited references with
  | case1 visited => exact absurd h (by simp)
  | case2 visited reference rest issue hname =>
    refine Or.inl ⟨reference, by simp, fun j hj => ?_⟩
    exact absurd (hname.symm.trans (positionOf_eq_ok_iff.2 hj)) (by simp)
  | case3 visited reference rest index hname seen ih =>
    rcases ih h with ⟨r, hr, hnone⟩ | ⟨r, hr, hpath⟩
    · exact Or.inl ⟨r, List.mem_cons_of_mem _ hr, hnone⟩
    · exact Or.inr ⟨r, List.mem_cons_of_mem _ hr, hpath⟩
  | case4 visited reference rest index hname fresh hs ih =>
    obtain ⟨⟨s, hplace, -⟩, -⟩ := positionOf_eq_ok_iff.1 hname
    exact absurd (hs.symm.trans hplace) (by simp)
  | case5 visited reference rest index hname fresh s hs ih =>
    have hnamed := positionOf_eq_ok_iff.1 hname
    have hless : ∀ k ∈ visited, k ∈ index :: visited := fun k hk => List.mem_cons_of_mem _ hk
    rcases ih (outcome_after_eq_error h) with
      ⟨r, hr, hnone⟩ | ⟨r, hr, i, j, t, name, hri, hpath, ht, hname', hnone⟩
    · rcases List.mem_append.1 hr with hr | hr
      · obtain ⟨name, hmem, rfl⟩ := List.mem_map.1 hr
        exact Or.inr ⟨reference, by simp, index, index, s, name, hnamed, .here fresh, hs, hmem,
          hnone⟩
      · exact Or.inl ⟨r, List.mem_cons_of_mem _ hr, hnone⟩
    · rcases List.mem_append.1 hr with hr | hr
      · obtain ⟨parent, hmem, rfl⟩ := List.mem_map.1 hr
        have hedge : own.Inherits index i := ⟨s, parent, hs, hmem, hri⟩
        exact Or.inr ⟨reference, by simp, index, j, t, name, hnamed,
          .step fresh hedge (hpath.mono hless), ht, hname', hnone⟩
      · exact Or.inr ⟨r, List.mem_cons_of_mem _ hr, i, j, t, name, hri, hpath.mono hless, ht,
          hname', hnone⟩

/-! ## One section -/

/-- What a resolution of the section at `index` amounts to, if it succeeds: `order` are the sections
    it visits. -/
structure Contributes (own : Contents) (keys : KeyLibrary) (visited : List Nat) (index : Nat)
    (resolution : Resolution) (order : List Nat) : Prop where
  /-- The sections come in the order of the walk that calls itself. -/
  preorder : own.Preorder visited [index] order
  /-- Each of them comes once, -/
  once : order.Nodup
  /-- and they are those that a white path leads to. -/
  reached : ∀ j, j ∈ order ↔ own.Reaches visited index j
  kept : ∀ j ∈ visited, j ∈ resolution.visited
  added : ∀ j, (j ∈ resolution.visited ∧ j ∉ visited) ↔ own.Reaches visited index j
  /-- The lines are their blocks, one after the other. -/
  blocks : ∃ blocks, List.Forall₂ (own.SectionBlock keys) order blocks ∧
    resolution.outcome = .ok blocks.flatten

/-- The order alone decides what is added to the visited sections. -/
theorem contributes_of_preorder {visited order : List Nat} {index : Nat} {resolution : Resolution}
    {blocks : List (List Line)} (horder : own.Preorder visited [index] order)
    (hvisited : resolution.visited = order.reverse ++ visited)
    (hblocks : List.Forall₂ (own.SectionBlock keys) order blocks)
    (houtcome : resolution.outcome = .ok blocks.flatten) :
    own.Contributes keys visited index resolution order := by
  obtain ⟨honce, hfresh⟩ := horder.nodup_and_fresh
  have hreached : ∀ j, j ∈ order ↔ own.Reaches visited index j := by
    intro j
    rw [horder.mem_iff]
    simp
  refine ⟨horder, honce, hreached, fun j hj => ?_, fun j => ?_, blocks, hblocks, houtcome⟩
  · rw [hvisited]
    simp [hj]
  · rw [hvisited, ← hreached j, List.mem_append, List.mem_reverse]
    constructor
    · rintro ⟨hj | hj, hnot⟩
      · exact hj
      · exact absurd hj hnot
    · exact fun hj => ⟨Or.inl hj, hfresh j hj⟩

theorem resolveSection_contributes {visited : List Nat} {index : Nat} {lines : List Line}
    (hindex : index < own.sections.length)
    (h : (own.resolveSection keys index visited).outcome = .ok lines) :
    ∃ order, own.Contributes keys visited index (own.resolveSection keys index visited) order := by
  have hs := List.getElem?_eq_getElem hindex
  unfold resolveSection at h ⊢
  rw [hs] at h ⊢
  dsimp only at h ⊢
  by_cases hv : index ∈ visited
  · rw [if_pos hv] at h ⊢
    exact ⟨[], contributes_of_preorder (.skip hv .nil) rfl .nil rfl⟩
  · rw [if_neg hv] at h ⊢
    obtain ⟨others, hothers, rfl⟩ := outcome_after_eq_ok h
    obtain ⟨targets, order, blocks, htargets, horder, hvisited, hblocks, rfl⟩ :=
      walk_preorder hothers
    have hvisit := Preorder.visit hv hs (forall₂_references.1 htargets) horder .nil
    rw [List.append_nil] at hvisit
    refine ⟨index :: order, contributes_of_preorder hvisit ?_
      (.cons (sectionBlock_block hs) hblocks) h⟩
    rw [Resolution.after, hvisited]
    simp

/-- Where resolving fails, a white path leads to a section with a reference that names no section,
    or more than one. -/
theorem unresolved_of_resolveSection_error {visited : List Nat} {index : Nat} {e : Error}
    (h : (own.resolveSection keys index visited).outcome = .error e) :
    ∃ i s name, own.Reaches visited index i ∧ own.sections[i]? = some s ∧ name ∈ s.parents ∧
      ∀ j, ¬ own.Named name j := by
  unfold resolveSection at h
  cases hs : own.sections[index]? with
  | none => rw [hs] at h; exact absurd h (by simp)
  | some s =>
    rw [hs] at h
    dsimp only at h
    by_cases hv : index ∈ visited
    · rw [if_pos hv] at h
      exact absurd h (by simp)
    · rw [if_neg hv] at h
      have hless : ∀ k ∈ visited, k ∈ index :: visited := fun k hk => List.mem_cons_of_mem _ hk
      rcases unresolved_of_walk_error (outcome_after_eq_error h) with
        ⟨r, hr, hnone⟩ | ⟨r, hr, i, j, t, name, hri, hpath, ht, hname, hnone⟩
      · obtain ⟨name, hmem, rfl⟩ := List.mem_map.1 hr
        exact ⟨index, s, name, .here hv, hs, hmem, hnone⟩
      · obtain ⟨parent, hmem, rfl⟩ := List.mem_map.1 hr
        exact ⟨j, t, name, .step hv ⟨s, parent, hs, hmem, hri⟩ (hpath.mono hless), ht, hname, hnone⟩

/-- Resolving succeeds if, and only if, every section that a white path leads to names, in each of
    its references, exactly one section. -/
theorem resolveSection_isOk_iff {visited : List Nat} {index : Nat}
    (hindex : index < own.sections.length) :
    (∃ lines, (own.resolveSection keys index visited).outcome = .ok lines) ↔
      ∀ i s name, own.Reaches visited index i → own.sections[i]? = some s → name ∈ s.parents →
        ∃ j, own.Named name j := by
  constructor
  · rintro ⟨lines, h⟩ i s name hpath hs hname
    obtain ⟨order, hc⟩ := resolveSection_contributes hindex h
    exact hc.preorder.named ((hc.reached i).2 hpath) hs hname
  · intro hall
    cases houtcome : (own.resolveSection keys index visited).outcome with
    | ok lines => exact ⟨lines, rfl⟩
    | error e =>
      obtain ⟨i, s, name, hpath, hs, hname, hnone⟩ := unresolved_of_resolveSection_error houtcome
      obtain ⟨j, hj⟩ := hall i s name hpath hs hname
      exact absurd hj (hnone j)

/-! ## Several sections, one visited set -/

/-- What was visited stays visited. -/
theorem visited_resolveSection (own : Contents) (keys : KeyLibrary) (index : Nat)
    (visited : List Nat) :
    ∀ j ∈ visited, j ∈ (own.resolveSection keys index visited).visited := by
  intro j hj
  unfold resolveSection
  cases hs : own.sections[index]? with
  | none => exact hj
  | some s =>
    dsimp only
    by_cases hv : index ∈ visited
    · rw [if_pos hv]
      exact hj
    · rw [if_neg hv]
      obtain ⟨more, hmore⟩ := visited_walk own keys (index :: visited) s.references
      rw [Resolution.after, hmore]
      simp [hj]

/-- Sections are resolved in turn, each beginning with what the ones before it have visited. The
    lists of the second argument are the sections that each of them contributes: those of
    `Contributes` where it succeeds, and none where it fails — although what it visited until then
    stays visited. -/
def EachContributes (own : Contents) (keys : KeyLibrary) (visited : List Nat) :
    List Nat → List (List Nat) → Prop
  | [], [] => True
  | index :: starts, order :: orders =>
    let resolution := own.resolveSection keys index visited
    (match resolution.outcome with
      | .ok _ => own.Contributes keys visited index resolution order
      | .error _ => order = []) ∧
    EachContributes own keys resolution.visited starts orders
  | _, _ => False

/-- **No section contributes twice**, however many resolutions share the visited set. -/
theorem eachContributes_once (own : Contents) (keys : KeyLibrary) (visited starts : List Nat)
    (hstarts : ∀ i ∈ starts, i < own.sections.length) :
    ∃ orders, own.EachContributes keys visited starts orders ∧ orders.flatten.Nodup ∧
      ∀ j ∈ orders.flatten, j ∉ visited := by
  induction starts generalizing visited with
  | nil => exact ⟨[], trivial, List.nodup_nil, fun j hj => absurd hj (by simp)⟩
  | cons index rest ih =>
    have hindex := hstarts index (by simp)
    have hkept := visited_resolveSection own keys index visited
    obtain ⟨orders, hrest, hnodup, hfresh⟩ :=
      ih (own.resolveSection keys index visited).visited
        fun i hi => hstarts i (List.mem_cons_of_mem _ hi)
    cases houtcome : (own.resolveSection keys index visited).outcome with
    | error e =>
      refine ⟨[] :: orders, ⟨?_, hrest⟩, by simpa using hnodup, fun j hj hv => ?_⟩
      · rw [houtcome]
      · exact hfresh j (by simpa using hj) (hkept j hv)
    | ok lines =>
      obtain ⟨order, hc⟩ := resolveSection_contributes hindex houtcome
      refine ⟨order :: orders, ⟨?_, hrest⟩, ?_, fun j hj hv => ?_⟩
      · rw [houtcome]
        exact hc
      · -- What the first one contributes is visited when the others begin.
        have hdisjoint : ∀ a ∈ order, ∀ b ∈ orders.flatten, a ≠ b := by
          rintro a ha b hb rfl
          exact hfresh a hb ((hc.added a).2 ((hc.reached a).1 ha)).1
        rw [List.flatten_cons]
        exact List.nodup_append.2 ⟨hc.once, hnodup, hdisjoint⟩
      · rcases List.mem_append.1 (List.flatten_cons ▸ hj) with hj | hj
        · exact ((hc.reached j).1 hj).target_fresh hv
        · exact hfresh j hj (hkept j hv)

/-- **A resolved section is the preorder of what it inherits.** For any graph of `@is` references
    and any set of sections visited before: resolving succeeds exactly if every reference on a
    white path names one section; if it does, it adds the sections on white paths to what was
    visited, and its lines are the blocks of these sections, each once, in preorder; and no section
    contributes to two of the resolutions that share a visited set. -/
theorem resolution_is_preorder (own : Contents) (keys : KeyLibrary) :
    (∀ visited index, index < own.sections.length →
      ((∃ lines, (own.resolveSection keys index visited).outcome = .ok lines) ↔
        ∀ i s name, own.Reaches visited index i → own.sections[i]? = some s → name ∈ s.parents →
          ∃ j, own.Named name j) ∧
      ∀ lines, (own.resolveSection keys index visited).outcome = .ok lines →
        ∃ order, own.Contributes keys visited index (own.resolveSection keys index visited) order) ∧
    ∀ visited starts, (∀ i ∈ starts, i < own.sections.length) →
      ∃ orders, own.EachContributes keys visited starts orders ∧ orders.flatten.Nodup ∧
        ∀ j ∈ orders.flatten, j ∉ visited := by
  refine ⟨fun visited index hindex => ⟨resolveSection_isOk_iff hindex, fun lines h => ?_⟩, ?_⟩
  · exact resolveSection_contributes hindex h
  · exact fun visited starts hstarts => eachContributes_once own keys visited starts hstarts

/-- A diamond, `left` and `right` over `base`, with a circle between `base` and `right`. -/
def diamond : Contents :=
  { Contents.start "diamond" false .empty with
    sections := [
      ⟨"base", .bundle, [⟨"Base", ["yes"]⟩], ["right"], []⟩,
      ⟨"left", .bundle, [⟨"Left", ["yes"]⟩], ["base"], []⟩,
      ⟨"right", .bundle, [⟨"Right", ["yes"]⟩], ["base"], []⟩,
      ⟨"top", .host [], [], ["left", "right", "base"], []⟩] }

theorem diamond_is_preorder :
    (diamond.resolveSection (.empty "") 3 []).outcome =
        .ok [⟨"Left", ["yes"]⟩, ⟨"Base", ["yes"]⟩, ⟨"Right", ["yes"]⟩] ∧
      (∃ order, diamond.Contributes (.empty "") [] 3 (diamond.resolveSection (.empty "") 3 [])
        order) ∧
      ∃ orders, diamond.EachContributes (.empty "") [2] [1, 3, 0] orders ∧ orders.flatten.Nodup ∧
        ∀ j ∈ orders.flatten, j ∉ [2] := by
  have hlines : (diamond.resolveSection (.empty "") 3 []).outcome =
      .ok [⟨"Left", ["yes"]⟩, ⟨"Base", ["yes"]⟩, ⟨"Right", ["yes"]⟩] := by
    cbv
  refine ⟨hlines, ?_, ?_⟩
  · exact ((resolution_is_preorder diamond (.empty "")).1 [] 3 (by decide)).2 _ hlines
  · exact (resolution_is_preorder diamond (.empty "")).2 [2] [1, 3, 0] (by decide)

end Contents
end SshTemplate
