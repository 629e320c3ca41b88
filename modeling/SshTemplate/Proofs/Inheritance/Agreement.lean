import SshTemplate.Proofs.Inheritance.Preorder

/-!
# `Proofs.Inheritance.Agreement` — what a resolution does not look at

Two documents may differ in many of their sections and still resolve one of them alike. What has to
be the same is: the names of *all* sections, because a name is looked up among all of them; and of
the sections themselves only those that the walk comes to. `AgreeOn live` says that the second half
holds on a set of places, and `resolveSection_agree` needs no more of that set than that `@is`
references do not lead out of it.

The induction is the walk's own. What carries it is that every reference still to be followed names
a place of the set: it holds of what a section of the set inherits, and those are the references
that following one puts in front of the others.
-/

set_option autoImplicit false

namespace SshTemplate
namespace Contents

/-- The documents bear one locator, define the same keys and have sections of the same names; and
    the sections at the places of `live` are the same. -/
structure AgreeOn (live : Nat → Prop) (own other : Contents) : Prop where
  locator : other.locator = own.locator
  keys : other.keys = own.keys
  names : other.sections.map Section.name = own.sections.map Section.name
  sections : ∀ i, live i → other.sections[i]? = own.sections[i]?

/-- No `@is` reference leads out of the set. -/
def Closed (own : Contents) (live : Nat → Prop) : Prop :=
  ∀ i j, live i → own.Inherits i j → live j

variable {live : Nat → Prop} {own other : Contents} {keys : KeyLibrary}

/-- The places of the sections of the name. -/
def placesNamed (own : Contents) (name : String) : List Nat :=
  ((own.sections.map Section.name).zipIdx.filter fun place => place.1 = name).map Prod.snd

/-- Looking a name up reads the names of the sections and nothing else. -/
theorem positionOf_eq_placesNamed (own : Contents) (name : String) :
    own.positionOf name =
      match own.placesNamed name with
      | [] => .error (.noSuchSection name)
      | [index] => .ok index
      | _ => .error (.duplicateSection name) := by
  have hplaces : own.placesNamed name =
      (own.sections.zipIdx.filter fun place => place.1.name = name).map Prod.snd := by
    unfold placesNamed
    rw [List.zipIdx_map, List.filter_map, List.map_map]
    rfl
  rw [hplaces, positionOf]
  generalize own.sections.zipIdx.filter (fun place => place.1.name = name) = found
  match found with
  | [] => rfl
  | [_] => rfl
  | _ :: _ :: _ => rfl

theorem AgreeOn.positionOf (h : AgreeOn live own other) (name : String) :
    other.positionOf name = own.positionOf name := by
  rw [positionOf_eq_placesNamed, positionOf_eq_placesNamed, placesNamed, h.names, placesNamed]

theorem AgreeOn.keyFile (h : AgreeOn live own other) (identity : String) :
    other.keyFile keys identity = own.keyFile keys identity := by
  unfold Contents.keyFile
  rw [h.keys, h.locator]

theorem AgreeOn.block (h : AgreeOn live own other) (s : Section) :
    other.block keys s = own.block keys s := by
  unfold Contents.block
  simp only [h.keyFile]

theorem AgreeOn.blockWarnings (h : AgreeOn live own other) (s : Section) :
    other.blockWarnings keys s = own.blockWarnings keys s := by
  unfold Contents.blockWarnings
  simp only [h.keyFile]

/-- The references of a section of a closed set name places of the set. -/
theorem Closed.references (hclosed : own.Closed live) {i : Nat} {s : Section} (hi : live i)
    (hs : own.sections[i]? = some s) :
    ∀ reference ∈ s.references, ∀ j, own.Named reference.target j → live j := by
  intro reference hreference j hj
  obtain ⟨name, hname, rfl⟩ := List.mem_map.1 hreference
  exact hclosed i j hi ⟨s, name, hs, hname, hj⟩

/-- **A walk within a closed set looks at nothing outside of it.** -/
theorem AgreeOn.walk (h : AgreeOn live own other) (hclosed : own.Closed live) (visited : List Nat)
    (references : List Reference)
    (hlive : ∀ reference ∈ references, ∀ j, own.Named reference.target j → live j) :
    other.walk keys visited references = own.walk keys visited references := by
  fun_induction Contents.walk own keys visited references with
  | case1 visited => rw [Contents.walk]
  | case2 visited reference rest issue hname =>
    rw [Contents.walk, h.positionOf, hname, h.locator]
  | case3 visited reference rest index hname seen ih =>
    rw [Contents.walk, h.positionOf, hname]
    dsimp only
    rw [dif_pos seen, ih fun r hr => hlive r (List.mem_cons_of_mem _ hr)]
  | case4 visited reference rest index hname fresh hs ih =>
    -- A name leads to a section, so there is one at the place it leads to.
    obtain ⟨⟨s, hplace, -⟩, -⟩ := positionOf_eq_ok_iff.1 hname
    exact absurd (hs.symm.trans hplace) (by simp)
  | case5 visited reference rest index hname fresh s hs ih =>
    have hindex : live index := hlive reference (by simp) index (positionOf_eq_ok_iff.1 hname)
    have hs' : other.sections[index]? = some s := (h.sections index hindex).trans hs
    have hmore : ∀ r ∈ s.references ++ rest, ∀ j, own.Named r.target j → live j := by
      intro r hr
      rcases List.mem_append.1 hr with hr | hr
      · exact hclosed.references hindex hs r hr
      · exact hlive r (List.mem_cons_of_mem _ hr)
    rw [Contents.walk, h.positionOf, hname]
    dsimp only
    rw [dif_neg fresh]
    split
    · next hnone => exact absurd (hs'.symm.trans hnone) (by simp)
    · next t ht =>
      obtain rfl : s = t := Option.some.inj (hs'.symm.trans ht)
      rw [ih hmore, h.block, h.blockWarnings]

/-- **A section of a closed set is resolved by the set.** -/
theorem AgreeOn.resolveSection (h : AgreeOn live own other) (hclosed : own.Closed live)
    {index : Nat} (hindex : live index) (visited : List Nat) :
    other.resolveSection keys index visited = own.resolveSection keys index visited := by
  unfold Contents.resolveSection
  rw [h.sections index hindex]
  cases hs : own.sections[index]? with
  | none => rfl
  | some s =>
    dsimp only
    rw [h.walk hclosed _ _ (hclosed.references hindex hs), h.block, h.blockWarnings]

end Contents
end SshTemplate
