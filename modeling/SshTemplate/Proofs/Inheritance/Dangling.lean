import SshTemplate.Proofs.Inheritance.Resolved

/-!
# `Proofs.Inheritance.Dangling` — which reference a failing walk fails at

`Preorder` is the walk that calls itself and comes to its end. `Dangling` is the one that does not:
it follows the same references in the same order, and it stops at the first that names no section,
or more than one. The flat walk fails exactly with that reference (`dangling_of_walk_error`,
`walk_error_of_dangling`), so the error of a section that cannot be resolved tells which section
holds the fault.
-/

set_option autoImplicit false

namespace SshTemplate
namespace Contents

/-- Following references depth first, the last one is the first that does not name one section. -/
inductive Dangling (own : Contents) : List Nat → List Reference → Reference → Prop where
  | here {visited : List Nat} {reference : Reference} {rest : List Reference}
      (unnamed : ∀ j, ¬ own.Named reference.target j) :
      Dangling own visited (reference :: rest) reference
  /-- A section that was visited is passed over. -/
  | skip {visited : List Nat} {reference fault : Reference} {rest : List Reference} {i : Nat}
      (named : own.Named reference.target i) (seen : i ∈ visited)
      (later : Dangling own visited rest fault) : Dangling own visited (reference :: rest) fault
  /-- The fault is in what the section inherits, -/
  | within {visited : List Nat} {reference fault : Reference} {rest : List Reference} {i : Nat}
      {s : Section} (named : own.Named reference.target i) (fresh : i ∉ visited)
      (place : own.sections[i]? = some s)
      (inside : Dangling own (i :: visited) s.references fault) :
      Dangling own visited (reference :: rest) fault
  /-- or behind it, and then all that it inherits has been visited. -/
  | later {visited targets inner : List Nat} {reference fault : Reference} {rest : List Reference}
      {i : Nat} {s : Section} (named : own.Named reference.target i) (fresh : i ∉ visited)
      (place : own.sections[i]? = some s) (edges : List.Forall₂ own.Named s.parents targets)
      (inside : own.Preorder (i :: visited) targets inner)
      (behind : Dangling own (inner.reverse ++ i :: visited) rest fault) :
      Dangling own visited (reference :: rest) fault

variable {own : Contents} {keys : KeyLibrary}

/-- A fault among the references of two lists is among the first, or the walk along the first comes
    to its end and the fault is among the second. -/
theorem Dangling.split {visited : List Nat} {first second : List Reference} {fault : Reference}
    (h : own.Dangling visited (first ++ second) fault) :
    own.Dangling visited first fault ∨
      ∃ targets order,
        List.Forall₂ (fun reference j => own.Named reference.target j) first targets ∧
          own.Preorder visited targets order ∧
          own.Dangling (order.reverse ++ visited) second fault := by
  induction first generalizing visited with
  | nil => exact Or.inr ⟨[], [], .nil, .nil, h⟩
  | cons reference rest ih =>
    cases h with
    | here unnamed => exact Or.inl (.here unnamed)
    | @skip _ _ _ _ i named seen later =>
      rcases ih later with hfront | ⟨targets, order, hnamed, horder, hback⟩
      · exact Or.inl (.skip named seen hfront)
      · exact Or.inr ⟨i :: targets, order, .cons named hnamed, .skip seen horder, hback⟩
    | within named fresh place inside => exact Or.inl (.within named fresh place inside)
    | @later _ targets inner _ _ _ i s named fresh place edges inside behind =>
      rcases ih behind with hfront | ⟨others, order, hnamed, horder, hback⟩
      · exact Or.inl (.later named fresh place edges inside hfront)
      · refine Or.inr ⟨i :: others, i :: (inner ++ order), .cons named hnamed,
          .visit fresh place edges inside horder, ?_⟩
        simpa using hback

/-- A fault among some references is one of more that begin with them. -/
theorem Dangling.append {visited : List Nat} {references more : List Reference}
    {fault : Reference} (h : own.Dangling visited references fault) :
    own.Dangling visited (references ++ more) fault := by
  induction h with
  | here unnamed => exact .here unnamed
  | skip named seen _ ih => exact .skip named seen ih
  | within named fresh place inside _ => exact .within named fresh place inside
  | later named fresh place edges inside _ ih => exact .later named fresh place edges inside ih

/-- A fault is also found behind references along which the walk comes to its end. -/
theorem Dangling.behind {visited targets order : List Nat} {first second : List Reference}
    {fault : Reference} (hpreorder : own.Preorder visited targets order)
    (hnamed : List.Forall₂ (fun reference j => own.Named reference.target j) first targets)
    (h : own.Dangling (order.reverse ++ visited) second fault) :
    own.Dangling visited (first ++ second) fault := by
  induction hpreorder generalizing first with
  | nil =>
    cases hnamed
    exact h
  | skip seen _ ih =>
    cases hnamed with
    | cons named others => exact .skip named seen (ih others h)
  | visit fresh place edges inside _ _ ih =>
    cases hnamed with
    | cons named others =>
      refine .later named fresh place edges inside (ih others ?_)
      simpa using h

/-- **A failing walk fails at the first reference that dangles**, and says why it does. -/
theorem dangling_of_walk_error {visited : List Nat} {references : List Reference} {e : Error}
    (h : (own.walk keys visited references).outcome = .error e) :
    ∃ fault issue, own.Dangling visited references fault ∧
      own.positionOf fault.target = .error issue ∧
      e = .resolve own.locator fault.holder issue := by
  fun_induction walk own keys visited references with
  | case1 visited => exact absurd h (by simp)
  | case2 visited reference rest issue hname =>
    refine ⟨reference, issue, .here fun j hj => ?_, hname, (Except.error.inj h).symm⟩
    exact absurd (hname.symm.trans (positionOf_eq_ok_iff.2 hj)) (by simp)
  | case3 visited reference rest index hname seen ih =>
    obtain ⟨fault, issue, hfault, hissue, he⟩ := ih h
    exact ⟨fault, issue, .skip (positionOf_eq_ok_iff.1 hname) seen hfault, hissue, he⟩
  | case4 visited reference rest index hname fresh hs ih =>
    obtain ⟨⟨s, hplace, -⟩, -⟩ := positionOf_eq_ok_iff.1 hname
    exact absurd (hs.symm.trans hplace) (by simp)
  | case5 visited reference rest index hname fresh s hs ih =>
    obtain ⟨fault, issue, hfault, hissue, he⟩ := ih (outcome_after_eq_error h)
    have hnamed := positionOf_eq_ok_iff.1 hname
    -- The references of the section stand in front of those that waited.
    rcases hfault.split with hfront | ⟨targets, order, htargets, horder, hback⟩
    · exact ⟨fault, issue, .within hnamed fresh hs hfront, hissue, he⟩
    · exact ⟨fault, issue,
        .later hnamed fresh hs (forall₂_references.1 htargets) horder hback, hissue, he⟩

/-- **Where a reference dangles, the walk fails at it.** -/
theorem walk_error_of_dangling {visited : List Nat} {references : List Reference}
    {fault : Reference} {issue : Issue} (h : own.Dangling visited references fault)
    (hissue : own.positionOf fault.target = .error issue) :
    (own.walk keys visited references).outcome =
      .error (.resolve own.locator fault.holder issue) := by
  fun_induction walk own keys visited references with
  | case1 visited => cases h
  | case2 visited reference rest other hname =>
    have hnone : ∀ j, ¬ own.Named reference.target j := fun j hj =>
      absurd (hname.symm.trans (positionOf_eq_ok_iff.2 hj)) (by simp)
    cases h with
    | here unnamed =>
      obtain rfl := Except.error.inj (hname.symm.trans hissue)
      rfl
    | skip named => exact absurd named (hnone _)
    | within named => exact absurd named (hnone _)
    | later named => exact absurd named (hnone _)
  | case3 visited reference rest index hname seen ih =>
    have hnamed := positionOf_eq_ok_iff.1 hname
    cases h with
    | here unnamed => exact absurd hnamed (unnamed index)
    | skip named _ later => exact ih later
    | within named fresh => exact absurd seen (hnamed.unique named ▸ fresh)
    | later named fresh => exact absurd seen (hnamed.unique named ▸ fresh)
  | case4 visited reference rest index hname fresh hs ih =>
    obtain ⟨⟨s, hplace, -⟩, -⟩ := positionOf_eq_ok_iff.1 hname
    exact absurd (hs.symm.trans hplace) (by simp)
  | case5 visited reference rest index hname fresh s hs ih =>
    have hnamed := positionOf_eq_ok_iff.1 hname
    have hfront : own.Dangling (index :: visited) (s.references ++ rest) fault := by
      cases h with
      | here unnamed => exact absurd hnamed (unnamed index)
      | skip named seen => exact absurd (hnamed.unique named ▸ seen) fresh
      | within named _ place inside =>
        obtain rfl := hnamed.unique named
        obtain rfl := Option.some.inj (hs.symm.trans place)
        exact inside.append
      | later named _ place edges inside behind =>
        obtain rfl := hnamed.unique named
        obtain rfl := Option.some.inj (hs.symm.trans place)
        exact Dangling.behind inside (forall₂_references.2 edges) behind
    rw [Resolution.after, ih hfront]
    rfl

theorem resolveSection_error_of_dangling {index : Nat} {s : Section} {fault : Reference}
    {issue : Issue} (hs : own.sections[index]? = some s)
    (h : own.Dangling [index] s.references fault)
    (hissue : own.positionOf fault.target = .error issue) :
    (own.resolveSection keys index []).outcome =
      .error (.resolve own.locator fault.holder issue) := by
  unfold resolveSection
  rw [hs]
  dsimp only
  rw [if_neg List.not_mem_nil, Resolution.after, walk_error_of_dangling h hissue]
  rfl

theorem dangling_of_resolveSection_error {index : Nat} {s : Section} {e : Error}
    (hs : own.sections[index]? = some s)
    (h : (own.resolveSection keys index []).outcome = .error e) :
    ∃ fault issue, own.Dangling [index] s.references fault ∧
      own.positionOf fault.target = .error issue ∧
      e = .resolve own.locator fault.holder issue := by
  unfold resolveSection at h
  rw [hs] at h
  dsimp only at h
  rw [if_neg List.not_mem_nil] at h
  exact dangling_of_walk_error (outcome_after_eq_error h)

end Contents
end SshTemplate
