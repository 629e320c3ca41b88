import Mathlib.Data.List.Destutter
import Mathlib.Data.List.Pairwise
import SshTemplate.Order

/-!
# `Proofs.Order.Sorting` — one sorted list, and what it keeps of the list before

Sorting is used for two things here. Where the order tells all elements apart, a sorted list is
decided by what is in it, so it does not matter how the elements came (`sort_eq_of_pairwise`). Where
it does not, elements that it does not tell apart stand in the order in which they came
(`filter_sort`), and they stand next to each other; then dropping an element that equals the one
before it drops all repetitions (`pairwise_dropRepeats`) and nothing else
(`exists_mem_dropRepeats`).

Both orders that are used, of lines and of paths, are lexicographic on lists, and what has to be
known of such an order comes from what is known of its elements.
-/

set_option autoImplicit false

namespace SshTemplate
namespace Order

variable {α : Type} {r : α → α → Prop} {as bs cs : List α}

/-! ## The lexicographic order, and equality -/

theorem lex_or_eq_total (htrichotomous : ∀ a b, ¬ r a b → ¬ r b a → a = b) (as bs : List α) :
    (List.Lex r as bs ∨ as = bs) ∨ List.Lex r bs as ∨ bs = as := by
  classical
  by_cases hab : List.Lex r as bs
  · exact Or.inl (Or.inl hab)
  · by_cases hba : List.Lex r bs as
    · exact Or.inr (Or.inl hba)
    · exact Or.inr (Or.inr (List.lex_trichotomous htrichotomous hab hba))

theorem lex_or_eq_trans (htrans : ∀ {a b c}, r a b → r b c → r a c)
    (hab : List.Lex r as bs ∨ as = bs) (hbc : List.Lex r bs cs ∨ bs = cs) :
    List.Lex r as cs ∨ as = cs := by
  rcases hab with hab | rfl
  · rcases hbc with hbc | rfl
    · exact Or.inl (List.lex_trans htrans hab hbc)
    · exact Or.inl hab
  · exact hbc

theorem lex_or_eq_antisymm (hasymm : ∀ {a b}, r a b → ¬ r b a)
    (hab : List.Lex r as bs ∨ as = bs) (hba : List.Lex r bs as ∨ bs = as) : as = bs := by
  rcases hab with hab | heq
  · rcases hba with hba | heq
    · exact absurd hba (List.lex_asymm hasymm hab)
    · exact heq.symm
  · exact heq

/-! ## Sorting -/

variable {le : α → α → Bool} {l l' : List α}

/-- **A sorted list is decided by what is in it**, if the order tells all elements apart. -/
theorem sort_eq_of_pairwise (total : ∀ a b, le a b || le b a)
    (trans : ∀ a b c, le a b → le b c → le a c) (antisymm : ∀ a b, le a b → le b a → a = b)
    (hperm : l'.Perm l) (hsorted : l'.Pairwise fun a b => le a b) : sort le l = l' :=
  ((sort_perm le l).trans hperm.symm).eq_of_pairwise (fun a b _ _ => antisymm a b)
    (pairwise_sort total trans l) hsorted

/-- **Elements that the order does not tell apart from `a` stay as they stood.** -/
theorem filter_sort (total : ∀ a b, le a b || le b a)
    (trans : ∀ a b c, le a b → le b c → le a c) (l : List α) (a : α) :
    (sort le l).filter (fun b => le a b && le b a) = l.filter fun b => le a b && le b a := by
  have htied : (l.filter fun b => le a b && le b a).Pairwise fun x y => le x y := by
    refine List.pairwise_of_forall_mem_list fun x hx y hy => ?_
    obtain ⟨-, hxa⟩ := Bool.and_eq_true_iff.1 (List.mem_filter.1 hx).2
    obtain ⟨hay, -⟩ := Bool.and_eq_true_iff.1 (List.mem_filter.1 hy).2
    exact trans x a y hxa hay
  -- They are in order as they stand, and what is in order is found again in the sorted list.
  have hsorted : (l.filter fun b => le a b && le b a).Sublist (sort le l) :=
    List.sublist_mergeSort trans total htied List.filter_sublist
  have hsublist := hsorted.filter fun b => le a b && le b a
  rw [List.filter_filter] at hsublist
  simp only [Bool.and_self] at hsublist
  exact (hsublist.eq_of_length ((sort_perm le l).filter _).length_eq.symm).symm

/-! ## Repetitions -/

variable {same : α → α → Bool} {lt : α → α → Prop} {a : α}

theorem dropRepeatsAfter_eq_destutter (same : α → α → Bool) (a : α) (l : List α) :
    dropRepeatsAfter same a l = l.destutter' (fun x y => ¬ same x y = true) a := by
  induction l generalizing a with
  | nil => rfl
  | cons b rest ih =>
    rw [dropRepeatsAfter, List.destutter'_cons]
    by_cases h : same a b = true
    · rw [if_pos h, if_neg (not_not_intro h), ih]
    · rw [if_neg h, if_pos h, ih]

theorem dropRepeats_eq_destutter (same : α → α → Bool) (l : List α) :
    dropRepeats same l = l.destutter fun x y => ¬ same x y = true := by
  cases l with
  | nil => rfl
  | cons a rest => exact dropRepeatsAfter_eq_destutter same a rest

theorem dropRepeats_sublist (same : α → α → Bool) (l : List α) :
    (dropRepeats same l).Sublist l := by
  rw [dropRepeats_eq_destutter]
  exact List.destutter_sublist _ l

/-- **In a sorted list nothing is left that equals another element**: neighbours that are in order
    and not the same are strictly in order, and so are elements farther apart. -/
theorem pairwise_dropRepeats (hlt : ∀ a b, le a b → ¬ same a b → lt a b)
    (trans : ∀ {a b c}, lt a b → lt b c → lt a c) (h : l.Pairwise fun x y => le x y) :
    (dropRepeats same l).Pairwise lt := by
  have hsorted : (dropRepeats same l).IsChain fun x y => le x y :=
    (h.sublist (dropRepeats_sublist same l)).isChain
  have hdistinct : (dropRepeats same l).IsChain fun x y => ¬ same x y = true := by
    rw [dropRepeats_eq_destutter]
    exact List.isChain_destutter _ l
  have hstrict : (dropRepeats same l).IsChain lt := by
    refine List.isChain_iff_getElem.2 fun i hi => ?_
    exact hlt _ _ (List.isChain_iff_getElem.1 hsorted i hi)
      (List.isChain_iff_getElem.1 hdistinct i hi)
  have htrans : Trans lt lt lt := ⟨trans⟩
  exact List.isChain_iff_pairwise.1 hstrict

theorem exists_mem_dropRepeatsAfter (hrefl : ∀ a, same a a) {b : α} (h : b ∈ a :: l) :
    ∃ c ∈ dropRepeatsAfter same a l, same c b := by
  induction l generalizing a with
  | nil =>
    obtain rfl := List.mem_singleton.1 h
    exact ⟨b, List.mem_singleton_self b, hrefl b⟩
  | cons next rest ih =>
    rw [dropRepeatsAfter]
    by_cases hsame : same a next = true
    · rw [if_pos hsame]
      rcases List.mem_cons.1 h with rfl | h
      · exact ih List.mem_cons_self
      · rcases List.mem_cons.1 h with rfl | h
        · -- It is dropped, and the element before it stays.
          have ha : a ∈ dropRepeatsAfter same a rest := by
            rw [dropRepeatsAfter_eq_destutter]
            exact List.mem_destutter' _ _ a
          exact ⟨a, ha, hsame⟩
        · exact ih (List.mem_cons_of_mem _ h)
    · rw [if_neg hsame]
      rcases List.mem_cons.1 h with rfl | h
      · exact ⟨b, List.mem_cons_self, hrefl b⟩
      · obtain ⟨c, hc, hcb⟩ := ih h
        exact ⟨c, List.mem_cons_of_mem _ hc, hcb⟩

/-- **Each element has one that equals it among those that are left.** -/
theorem exists_mem_dropRepeats (hrefl : ∀ a, same a a) (h : a ∈ l) :
    ∃ b ∈ dropRepeats same l, same b a := by
  cases l with
  | nil => exact absurd h List.not_mem_nil
  | cons first rest => exact exists_mem_dropRepeatsAfter hrefl h

end Order
end SshTemplate
