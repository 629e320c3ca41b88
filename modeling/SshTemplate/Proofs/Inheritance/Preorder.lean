import Mathlib.Data.List.Forall2
import SshTemplate.Resolution

/-!
# `Proofs.Inheritance.Preorder` — the `@is` graph, and what depth first means on it

`Contents.walk` follows one flat list of references with one visited list. Neither of them is what a
reader of a template has in mind, who thinks of a graph and of a walk that calls itself. So the two
notions are stated here without the walk, and proved to agree with each other:

* `Reaches visited i j` — there is a path of `@is` references from `i` to `j`, and nothing on it,
  its ends included, is in `visited`;
* `Preorder visited starts order` — a walk that calls itself, started at each of `starts` in turn
  with one visited set, visits the sections of `order`, in that order.

**`Preorder.mem_iff` says that they are the same set**: the white paths are what is visited. The
backward half is the one that is easy to get wrong. A walk that marks a section and fails to come
back to one of its references satisfies the forward half, and it is `Preorder.closed` — every
section visited has all its targets visited — that rules such a walk out.
-/

set_option autoImplicit false

namespace SshTemplate
namespace Contents

/-! ## Names -/

/-- The section at `j` bears the name, and no other section does. -/
def Named (own : Contents) (name : String) (j : Nat) : Prop :=
  (∃ s, own.sections[j]? = some s ∧ s.name = name) ∧
    ∀ k s, own.sections[k]? = some s → s.name = name → k = j

theorem Named.unique {own : Contents} {name : String} {j k : Nat} (hj : own.Named name j)
    (hk : own.Named name k) : j = k := by
  obtain ⟨s, hs, hname⟩ := hj.1
  exact hk.2 j s hs hname

/-- Looking a name up finds its section if there is exactly one. -/
theorem positionOf_eq_ok_iff {own : Contents} {name : String} {j : Nat} :
    own.positionOf name = .ok j ↔ own.Named name j := by
  have hmem : ∀ (s : Section) (k : Nat),
      (s, k) ∈ own.sections.zipIdx.filter (fun place => place.1.name = name) ↔
        own.sections[k]? = some s ∧ s.name = name := by
    intro s k
    rw [List.mem_filter, List.mem_zipIdx_iff_getElem?]
    simp
  -- Places are told apart by their index, so two entries of the list are two sections.
  have hdistinct : (own.sections.zipIdx.filter fun place => place.1.name = name).Pairwise
      fun a b => a.2 ≠ b.2 := by
    refine List.Pairwise.sublist List.filter_sublist ?_
    refine List.pairwise_map.1 ?_
    rw [List.zipIdx_map_snd]
    exact List.nodup_range'
  unfold positionOf
  generalize own.sections.zipIdx.filter (fun place => place.1.name = name) = found at *
  match found with
  | [] =>
    constructor
    · intro h
      exact absurd h (by simp)
    · rintro ⟨⟨s, hs, hname⟩, -⟩
      exact absurd ((hmem s j).2 ⟨hs, hname⟩) (by simp)
  | [(s, k)] =>
    have hs := (hmem s k).1 (by simp)
    constructor
    · intro h
      obtain rfl : k = j := by simpa using h
      refine ⟨⟨s, hs⟩, fun l t ht hname => ?_⟩
      have htl : (t, l) = (s, k) := by simpa using (hmem t l).2 ⟨ht, hname⟩
      exact congrArg Prod.snd htl
    · intro h
      rw [h.2 k s hs.1 hs.2]
  | (s, k) :: (t, l) :: rest =>
    constructor
    · intro h
      exact absurd h (by simp)
    · intro h
      have hs := (hmem s k).1 (by simp)
      have ht := (hmem t l).1 (by simp)
      have hne : k ≠ l := (List.pairwise_cons.1 hdistinct).1 (t, l) (by simp)
      exact absurd ((h.2 k s hs.1 hs.2).trans (h.2 l t ht.1 ht.2).symm) hne

/-! ## Edges and paths -/

/-- The section at `i` names the section at `j` in one of its `@is` references. -/
def Inherits (own : Contents) (i j : Nat) : Prop :=
  ∃ s name, own.sections[i]? = some s ∧ name ∈ s.parents ∧ own.Named name j

/-- A path of `@is` references from `i` to `j` on which nothing is in `visited`, not even its
    ends. -/
inductive Reaches (own : Contents) (visited : List Nat) : Nat → Nat → Prop where
  | here {i : Nat} (fresh : i ∉ visited) : Reaches own visited i i
  | step {i j k : Nat} (fresh : i ∉ visited) (edge : own.Inherits i j)
      (path : Reaches own visited j k) : Reaches own visited i k

/-- Fewer sections are forbidden, more are reached. -/
theorem Reaches.mono {own : Contents} {visited more : List Nat} {i j : Nat}
    (hsub : ∀ k ∈ visited, k ∈ more) (h : own.Reaches more i j) : own.Reaches visited i j := by
  induction h with
  | here fresh => exact .here fun hi => fresh (hsub _ hi)
  | step fresh edge _ ih => exact .step (fun hi => fresh (hsub _ hi)) edge ih

theorem Reaches.target_fresh {own : Contents} {visited : List Nat} {i j : Nat}
    (h : own.Reaches visited i j) : j ∉ visited := by
  induction h with
  | here fresh => exact fresh
  | step _ _ _ ih => exact ih

/-! ## Depth first, written as a walk that calls itself -/

/-- Started at each of some sections in turn, a depth first walk visits the sections of the last
    list, each before what it leads to. What was visited at one start is visited at the next. -/
inductive Preorder (own : Contents) : List Nat → List Nat → List Nat → Prop where
  | nil {visited : List Nat} : Preorder own visited [] []
  /-- A section that was visited contributes nothing. -/
  | skip {visited starts order : List Nat} {i : Nat} (seen : i ∈ visited)
      (rest : Preorder own visited starts order) : Preorder own visited (i :: starts) order
  /-- A section that was not is visited, then what its references lead to, in their order, and
      only then the starts after it. -/
  | visit {visited targets starts inner later : List Nat} {i : Nat} {s : Section}
      (fresh : i ∉ visited) (place : own.sections[i]? = some s)
      (edges : List.Forall₂ own.Named s.parents targets)
      (below : Preorder own (i :: visited) targets inner)
      (rest : Preorder own (inner.reverse ++ i :: visited) starts later) :
      Preorder own visited (i :: starts) (i :: (inner ++ later))

namespace Preorder

variable {own : Contents} {visited starts order : List Nat}

/-- Nothing is visited twice, and nothing that was visited before. -/
theorem nodup_and_fresh (h : own.Preorder visited starts order) :
    order.Nodup ∧ ∀ j ∈ order, j ∉ visited := by
  induction h with
  | nil => exact ⟨List.nodup_nil, fun j hj => absurd hj (by simp)⟩
  | skip _ _ ih => exact ih
  | @visit visited targets starts inner later i s fresh _ _ _ _ ihInner ihLater =>
    obtain ⟨hinner, hinnerFresh⟩ := ihInner
    obtain ⟨hlater, hlaterFresh⟩ := ihLater
    have hi : i ∉ inner ++ later := by
      intro hmem
      rcases List.mem_append.1 hmem with hmem | hmem
      · exact hinnerFresh i hmem (by simp)
      · exact hlaterFresh i hmem (by simp)
    have hdisjoint : ∀ a ∈ inner, ∀ b ∈ later, a ≠ b := by
      rintro a ha b hb rfl
      exact hlaterFresh a hb (by simp [ha])
    refine ⟨List.nodup_cons.2 ⟨hi, List.nodup_append.2 ⟨hinner, hlater, hdisjoint⟩⟩, ?_⟩
    intro j hj hv
    rcases List.mem_cons.1 hj with rfl | hj
    · exact fresh hv
    · rcases List.mem_append.1 hj with hj | hj
      · exact hinnerFresh j hj (by simp [hv])
      · exact hlaterFresh j hj (by simp [hv])

/-- What is visited is reached from one of the starts. -/
theorem reaches_of_mem (h : own.Preorder visited starts order) {j : Nat} (hj : j ∈ order) :
    ∃ i ∈ starts, own.Reaches visited i j := by
  induction h with
  | nil => exact absurd hj (by simp)
  | skip _ _ ih =>
    obtain ⟨i, hi, hpath⟩ := ih hj
    exact ⟨i, List.mem_cons_of_mem _ hi, hpath⟩
  | @visit visited targets starts inner later i s fresh place edges _ _ ihInner ihLater =>
    rcases List.mem_cons.1 hj with rfl | hj
    · exact ⟨j, by simp, .here fresh⟩
    rcases List.mem_append.1 hj with hj | hj
    · obtain ⟨k, hk, hpath⟩ := ihInner hj
      obtain ⟨n, hn', rfl⟩ := List.getElem_of_mem hk
      have hn : n < s.parents.length := edges.length_eq ▸ hn'
      have hedge : own.Inherits i targets[n] :=
        ⟨s, s.parents[n], place, List.getElem_mem hn, edges.get hn hn'⟩
      have hwider : own.Reaches visited targets[n] j :=
        hpath.mono fun l hl => List.mem_cons_of_mem _ hl
      exact ⟨i, by simp, .step fresh hedge hwider⟩
    · obtain ⟨k, hk, hpath⟩ := ihLater hj
      exact ⟨k, List.mem_cons_of_mem _ hk, hpath.mono fun l hl => by simp [hl]⟩

/-- Every start is visited in the end. -/
theorem mem_of_start (h : own.Preorder visited starts order) {i : Nat} (hi : i ∈ starts) :
    i ∈ visited ∨ i ∈ order := by
  induction h with
  | nil => exact absurd hi (by simp)
  | skip seen _ ih =>
    rcases List.mem_cons.1 hi with rfl | hi
    · exact Or.inl seen
    · exact ih hi
  | visit _ _ _ _ _ _ ihLater =>
    rcases List.mem_cons.1 hi with rfl | hi
    · exact Or.inr (by simp)
    rcases ihLater hi with hv | hl
    · simp only [List.mem_append, List.mem_reverse, List.mem_cons] at hv
      rcases hv with h | h | h <;> simp [h]
    · exact Or.inr (by simp [hl])

/-- Whatever a visited section inherits is visited too: no reference is forgotten. -/
theorem closed (h : own.Preorder visited starts order) {i j : Nat} (hi : i ∈ order)
    (hedge : own.Inherits i j) : j ∈ visited ∨ j ∈ order := by
  induction h with
  | nil => exact absurd hi (by simp)
  | skip _ _ ih => exact ih hi
  | @visit visited targets starts inner later k s _ place edges below _ ihInner ihLater =>
    simp only [List.mem_cons, List.mem_append] at hi ⊢
    rcases hi with rfl | hi | hi
    · obtain ⟨t, name, ht, hname, hj⟩ := hedge
      obtain rfl : s = t := Option.some.inj (place.symm.trans ht)
      obtain ⟨n, hn, rfl⟩ := List.getElem_of_mem hname
      have hn' : n < targets.length := edges.length_eq ▸ hn
      rw [hj.unique (edges.get hn hn')]
      have htarget := below.mem_of_start (List.getElem_mem hn')
      simp only [List.mem_cons] at htarget
      rcases htarget with (h | h) | h <;> simp [h]
    · have hinner := ihInner hi
      simp only [List.mem_cons] at hinner
      rcases hinner with (h | h) | h <;> simp [h]
    · have hlater := ihLater hi
      simp only [List.mem_append, List.mem_reverse, List.mem_cons] at hlater
      rcases hlater with (h | h | h) | h <;> simp [h]

/-- The references of a visited section all name a section. -/
theorem named (h : own.Preorder visited starts order) {i : Nat} {s : Section} {name : String}
    (hi : i ∈ order) (hs : own.sections[i]? = some s) (hname : name ∈ s.parents) :
    ∃ j, own.Named name j := by
  induction h with
  | nil => exact absurd hi (by simp)
  | skip _ _ ih => exact ih hi
  | @visit visited targets starts inner later k t _ place edges _ _ ihInner ihLater =>
    simp only [List.mem_cons, List.mem_append] at hi
    rcases hi with rfl | hi | hi
    · obtain rfl : t = s := Option.some.inj (place.symm.trans hs)
      obtain ⟨n, hn, rfl⟩ := List.getElem_of_mem hname
      exact ⟨_, edges.get hn (edges.length_eq ▸ hn)⟩
    · exact ihInner hi
    · exact ihLater hi

/-- **The white paths are what is visited.** A section is visited if, and only if, a path of
    sections that had not been visited leads to it from one of the starts. -/
theorem mem_iff (h : own.Preorder visited starts order) {j : Nat} :
    j ∈ order ↔ ∃ i ∈ starts, own.Reaches visited i j := by
  constructor
  · exact h.reaches_of_mem
  · rintro ⟨i, hi, hpath⟩
    have hstart : i ∈ visited ∨ i ∈ order := h.mem_of_start hi
    clear hi
    -- Along the path every section is fresh, so being visited in the end means being visited now.
    induction hpath with
    | here fresh => exact hstart.resolve_left fresh
    | step fresh edge _ ih => exact ih (h.closed (hstart.resolve_left fresh) edge)

/-- The walk from a list of starts is the walk from its first part followed by the walk from its
    second. -/
theorem split {first second : List Nat} (h : own.Preorder visited (first ++ second) order) :
    ∃ front back, order = front ++ back ∧ own.Preorder visited first front ∧
      own.Preorder (front.reverse ++ visited) second back := by
  induction first generalizing visited order with
  | nil => exact ⟨[], order, rfl, .nil, h⟩
  | cons i rest ih =>
    cases h with
    | skip seen later =>
      obtain ⟨front, back, rfl, hfront, hback⟩ := ih later
      exact ⟨front, back, rfl, .skip seen hfront, hback⟩
    | @visit _ targets _ inner later _ s fresh place edges below others =>
      obtain ⟨front, back, rfl, hfront, hback⟩ := ih others
      refine ⟨i :: (inner ++ front), back, by simp, .visit fresh place edges below hfront, ?_⟩
      simpa using hback

/-- There is one such walk only: names lead to one section each, and the references of a section
    come in one order. -/
theorem unique {order' : List Nat} (h : own.Preorder visited starts order)
    (h' : own.Preorder visited starts order') : order = order' := by
  induction h generalizing order' with
  | nil => cases h'; rfl
  | skip seen _ ih =>
    cases h' with
    | skip _ rest => exact ih rest
    | visit fresh _ _ _ _ => exact absurd seen fresh
  | visit fresh place edges _ _ ihInner ihLater =>
    cases h' with
    | skip seen _ => exact absurd seen fresh
    | visit _ place' edges' below' rest' =>
      obtain rfl := Option.some.inj (place.symm.trans place')
      have hunique : Relator.RightUnique own.Named := fun _ _ _ => Named.unique
      obtain rfl := List.right_unique_forall₂' hunique edges edges'
      obtain rfl := ihInner below'
      rw [ihLater rest']

end Preorder
end Contents
end SshTemplate
