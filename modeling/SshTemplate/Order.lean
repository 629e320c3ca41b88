import Std.Data.ExtTreeSet

/-!
# `Order` — orders on lists, sorted lists, and lists without repetitions

Global lines, host names and key files are listed in order. Sorting keeps elements that the order
does not tell apart as they stood: what was found first is listed first.

Host names and key files are listed once each. Key files may be equal and spelled differently, so
they are sorted, which brings equal ones together, and an element that equals the one before it is
dropped. Texts are equal only to themselves: a set keeps them in order and each once.
-/

set_option autoImplicit false

namespace SshTemplate
namespace Order

variable {α : Type}

/-- The lexicographic order: the first difference decides, and a list comes before those that go on
    from it. -/
def lexicographic [BEq α] (lt : α → α → Bool) : List α → List α → Bool
  | [], _ => true
  | _ :: _, [] => false
  | a :: as, b :: bs => lt a b || (a == b && lexicographic lt as bs)

theorem lexicographic_iff [BEq α] [LawfulBEq α] {lt : α → α → Bool} {as bs : List α} :
    lexicographic lt as bs = true ↔ List.Lex (fun x y => lt x y = true) as bs ∨ as = bs := by
  induction as generalizing bs with
  | nil => cases bs <;> simp [lexicographic]
  | cons a as ih =>
    cases bs with
    | nil => simp [lexicographic]
    | cons b bs =>
      rw [lexicographic, Bool.or_eq_true, Bool.and_eq_true, ih, List.cons_lex_cons_iff, beq_iff_eq,
        List.cons.injEq]
      constructor
      · rintro (h | ⟨h, hrest | hrest⟩)
        · exact Or.inl (Or.inl h)
        · exact Or.inl (Or.inr ⟨h, hrest⟩)
        · exact Or.inr ⟨h, hrest⟩
      · rintro ((h | ⟨h, hrest⟩) | ⟨h, hrest⟩)
        · exact Or.inl h
        · exact Or.inr ⟨h, Or.inl hrest⟩
        · exact Or.inr ⟨h, Or.inr hrest⟩

/-! ## Sorting -/

/-- The elements in the order `le`. -/
def sort (le : α → α → Bool) (l : List α) : List α := l.mergeSort le

/-- Sorting loses nothing and adds nothing. -/
theorem sort_perm (le : α → α → Bool) (l : List α) : (sort le l).Perm l :=
  List.mergeSort_perm l le

/-- A total and transitive order is kept by the result. -/
theorem pairwise_sort {le : α → α → Bool} (total : ∀ a b, le a b || le b a)
    (trans : ∀ a b c, le a b → le b c → le a c) (l : List α) :
    (sort le l).Pairwise fun x y => le x y :=
  List.pairwise_mergeSort trans total l

/-! ## Repetitions -/

/-- What follows `a` in a list, without the elements that equal the one kept before them. -/
def dropRepeatsAfter (same : α → α → Bool) (a : α) : List α → List α
  | [] => [a]
  | b :: rest =>
    if same a b then dropRepeatsAfter same a rest else a :: dropRepeatsAfter same b rest

/-- Keeps the first of each run of elements that are the same. -/
def dropRepeats (same : α → α → Bool) : List α → List α
  | [] => []
  | a :: rest => dropRepeatsAfter same a rest

/-! ## Sets of texts -/

/-- Texts, each once, in order. Two sets with the same texts are equal. -/
abbrev TextSet := Std.ExtTreeSet String

/-- Texts in order, each once. -/
def sortedTexts (texts : List String) : List String := (Std.ExtTreeSet.ofList texts).toList

theorem mem_sortedTexts {text : String} {texts : List String} :
    text ∈ sortedTexts texts ↔ text ∈ texts := by
  unfold sortedTexts
  rw [Std.ExtTreeSet.mem_toList, ← Std.ExtTreeSet.contains_iff_mem, Std.ExtTreeSet.contains_ofList]
  exact List.contains_iff_mem

/-- Each text comes before those that follow it; so none comes twice. -/
theorem pairwise_sortedTexts (texts : List String) :
    (sortedTexts texts).Pairwise fun a b => compare a b = .lt :=
  Std.ExtTreeSet.ordered_toList

end Order
end SshTemplate
