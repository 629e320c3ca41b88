import SshTemplate.Proofs.Template.Succession

/-!
# `Proofs.Template.Copies` — a sequence and its copies

A sequence of combinations can be copied at any moment. Then there are two, and each can be called
and copied as before. What is done with them is a list of moves among sequences that stand side by
side, each known by its place.

A call moves the sequence at its place on, and no move touches any other (`getElem?_on_of_ne`). So
what stands at a place after some moves, and what was answered there, depends on how many of them
were calls at that place, and on nothing that went on beside it (`getElem?_play`, `answersAt_eq`).

The cursor belongs to what is copied. A copy has the same still to come as the original, which is
the whole product only if nothing was taken from it before, or nothing is in it.
-/

set_option autoImplicit false

namespace SshTemplate
namespace Template

variable {declarations : List TemplateVariable}

namespace Combinations

/-! ## Side by side -/

/-- What can be done with sequences that stand side by side. -/
inductive Move where
  /-- The sequence at the place is asked for its next combination. -/
  | call (place : Nat)
  /-- The sequence at the place is copied, and the copy stands behind all the others. -/
  | copy (place : Nat)
  deriving DecidableEq

/-- The sequences after a move. -/
def Move.on (sequences : List Combinations) : Move → List Combinations
  | call place => sequences.modify place later
  | copy place => sequences ++ (sequences[place]?.map Combinations.copy).toList

/-- The sequences after some moves. -/
def play (sequences : List Combinations) (moves : List Move) : List Combinations :=
  moves.foldl Move.on sequences

/-- The answers to the calls at a place, in order. -/
def answersAt (place : Nat) : List Combinations → List Move → List (Option Combination)
  | _, [] => []
  | sequences, move :: moves =>
    if move = .call place then
      sequences[place]?.bind answer? :: answersAt place (move.on sequences) moves
    else answersAt place (move.on sequences) moves

variable {sequences : List Combinations} {place : Nat} {c : Combinations} {move : Move}

theorem getElem?_on_call (h : sequences[place]? = some c) :
    (Move.on sequences (.call place))[place]? = some c.later := by
  rw [Move.on, List.getElem?_modify_eq, h]
  rfl

theorem getElem?_on_of_ne (h : sequences[place]? = some c) (hmove : move ≠ .call place) :
    (move.on sequences)[place]? = some c := by
  cases move with
  | call other =>
    have hother : other ≠ place := fun heq => hmove (congrArg Move.call heq)
    rw [Move.on, List.getElem?_modify_ne _ _ hother]
    exact h
  | copy other =>
    obtain ⟨hplace, -⟩ := List.getElem?_eq_some_iff.1 h
    rw [Move.on, List.getElem?_append_left hplace]
    exact h

/-- The copy is what was copied. -/
theorem getElem?_on_copy (h : sequences[place]? = some c) :
    (Move.on sequences (.copy place))[sequences.length]? = some c := by
  rw [Move.on, h, Option.map_some, copy_eq]
  exact List.getElem?_concat_length

/-- **A sequence is moved on by its own calls only.** -/
theorem getElem?_play (h : sequences[place]? = some c) (moves : List Move) :
    (play sequences moves)[place]? = some (later^[moves.count (.call place)] c) := by
  induction moves generalizing sequences c with
  | nil => exact h
  | cons move moves ih =>
    show (play (move.on sequences) moves)[place]? = _
    by_cases hmove : move = .call place
    · subst hmove
      rw [List.count_cons_self, Function.iterate_succ_apply]
      exact ih (getElem?_on_call h)
    · rw [List.count_cons_of_ne hmove]
      exact ih (getElem?_on_of_ne h hmove)

/-- **The calls at a place are answered in order** by what was still to come there. -/
theorem answersAt_eq (h : sequences[place]? = some c) (moves : List Move) :
    answersAt place sequences moves =
      (List.range (moves.count (.call place))).map fun i => c.toList[i]? := by
  induction moves generalizing sequences c with
  | nil => rfl
  | cons move moves ih =>
    rw [answersAt]
    by_cases hmove : move = .call place
    · subst hmove
      have hfirst : sequences[place]?.bind answer? = c.toList[0]? := by
        rw [h, Option.bind_some, answer?_eq_head?, List.head?_eq_getElem?]
      have hothers := ih (getElem?_on_call h)
      rw [toList_later] at hothers
      rw [if_pos rfl, hfirst, hothers, List.count_cons_self, List.range_succ_eq_map, List.map_cons,
        List.map_map]
      simp only [List.getElem?_tail]
      rfl
    · rw [if_neg hmove, List.count_cons_of_ne hmove]
      exact ih (getElem?_on_of_ne h hmove)

/-! ## Beginning again -/

theorem yields_iff (list : List Combination) : c.Yields list ↔ c.toList = list := by
  constructor
  · intro h
    exact (yields_toList c).unique h
  · rintro rfl
    exact yields_toList c

theorem drop_eq_self_iff {list : List Combination} {n : Nat} :
    list.drop n = list ↔ n = 0 ∨ list = [] := by
  constructor
  · intro h
    have hlength := congrArg List.length h
    rw [List.length_drop] at hlength
    rcases Nat.eq_zero_or_pos n with hzero | hpos
    · exact Or.inl hzero
    · exact Or.inr (List.length_eq_zero_iff.1 (by omega))
  · rintro (rfl | rfl)
    · rfl
    · exact List.drop_nil

theorem toList_eq_nil_iff {start : Combinations} (h : ofVariables declarations = .ok start) :
    start.toList = [] ↔ ∃ declared ∈ declarations, declared.values = [] := by
  rw [toList_ofVariables h, ← List.length_eq_zero_iff, length_crossProduct, List.prod_eq_zero_iff,
    List.map_map, List.mem_map]
  simp only [Function.comp_apply, List.length_eq_zero_iff]

end Combinations

open Combinations

/-- Where all domains have values there is a sequence, and what is to come in it is their product. -/
theorem exists_isProduct
    (h : ∀ declared ∈ declarations, ∃ values, domainValues declared.domain = .ok values) :
    ∃ start order, ofVariables declarations = .ok start ∧
      IsProduct declarations order start.toList := by
  obtain ⟨start, hstart⟩ := exists_ofVariables fun declared hd =>
    TemplateVariable.domainValues_eq_ok (h declared hd)
  have hproduct := isProduct_crossProduct declarations
  rw [← toList_ofVariables hstart] at hproduct
  exact ⟨start, _, hstart, hproduct⟩

/-- **A copy goes on where it was taken.** Take the sequence of some variables, of which all domains
    have values, after any number of calls.

    * A copy has the product without that many at its beginning still to come. So it begins the
      product again if there was no call before, or some domain is empty, and in no other case.
    * Wherever the sequence stands among others, it can be copied there. Whatever is called and
      copied afterwards, and in whatever order: the original and the copy each answer their own
      calls by what was still to come then, one after the other, and have the rest of it left. -/
theorem copies_go_on_where_they_are_taken
    (h : ∀ declared ∈ declarations, ∃ values, domainValues declared.domain = .ok values) :
    ∃ start order all, ofVariables declarations = .ok start ∧
      IsProduct declarations order all ∧
      ∀ calls,
        (later^[calls] start).copy.Yields (all.drop calls) ∧
        ((later^[calls] start).copy.Yields all ↔
          calls = 0 ∨ ∃ declared ∈ declarations, declared.values = []) ∧
        ∀ (sequences : List Combinations) (original : Nat),
          sequences[original]? = some (later^[calls] start) →
          ∀ place ∈ [original, sequences.length], ∀ moves : List Move,
            let beside := Move.on sequences (.copy original)
            let called := moves.count (.call place)
            answersAt place beside moves = (List.range called).map (fun i => all[calls + i]?) ∧
            ∃ rest, (play beside moves)[place]? = some rest ∧
              rest.Yields (all.drop (calls + called)) := by
  obtain ⟨start, order, hstart, hproduct⟩ := exists_isProduct h
  refine ⟨start, order, start.toList, hstart, hproduct, fun calls => ?_⟩
  have hleft : (later^[calls] start).toList = start.toList.drop calls :=
    toList_iterate_later start calls
  rw [copy_eq]
  refine ⟨(yields_iff _).2 hleft, ?_, ?_⟩
  · rw [← toList_eq_nil_iff hstart, ← drop_eq_self_iff, ← hleft]
    exact yields_iff _
  · intro sequences original horiginal place hplace moves beside called
    have hstands : beside[place]? = some (later^[calls] start) := by
      rcases List.mem_pair.1 hplace with rfl | rfl
      · exact getElem?_on_of_ne horiginal (by simp)
      · exact getElem?_on_copy horiginal
    refine ⟨?_, _, getElem?_play hstands moves, ?_⟩
    · rw [answersAt_eq hstands, hleft]
      simp only [List.getElem?_drop]
      rfl
    · rw [yields_iff, toList_iterate_later, hleft, List.drop_drop]

/-- Two variables, one of them with a range. -/
def dinghies : List TemplateVariable := [⟨"i", ["\x7b1..2\x7d"]⟩, ⟨"j", ["a", "b"]⟩]

theorem exists_values_of_mem_dinghies :
    ∀ declared ∈ dinghies, ∃ values, domainValues declared.domain = .ok values := by
  refine List.forall_mem_cons.2 ⟨⟨["1", "2"], by rfl⟩, ?_⟩
  exact List.forall_mem_cons.2 ⟨⟨["a", "b"], by rfl⟩, by simp⟩

/-- All the dinghies, in order. -/
def moored : List Combination :=
  [[("i", "1"), ("j", "a")], [("i", "1"), ("j", "b")], [("i", "2"), ("j", "a")],
    [("i", "2"), ("j", "b")]]

theorem eq_moored {order : List (List Nat)} {all : List Combination}
    (h : IsProduct dinghies order all) : all = moored := by
  rw [(h.unique (isProduct_crossProduct dinghies)).2]
  rfl

/-- The original is called between two calls on the copy, and the copy is copied again. -/
theorem copy_of_dinghies_goes_on :
    (∀ declared ∈ dinghies, ∃ values, domainValues declared.domain = .ok values) ∧
      ∃ start, ofVariables dinghies = .ok start ∧
        start.copy.Yields moored ∧
        ¬ (later^[1] start).copy.Yields moored ∧
        (later^[4] start).copy.Yields [] ∧
        let beside := Move.on [later^[1] start] (.copy 0)
        let moves : List Move := [.call 1, .call 0, .copy 1, .call 1, .call 2]
        [later^[1] start][0]? = some (later^[1] start) ∧
          answersAt 0 beside moves = [some [("i", "1"), ("j", "b")]] ∧
          answersAt 1 beside moves =
            [some [("i", "1"), ("j", "b")], some [("i", "2"), ("j", "a")]] := by
  obtain ⟨start, order, all, hstart, hproduct, hcalls⟩ :=
    copies_go_on_where_they_are_taken exists_values_of_mem_dinghies
  obtain rfl := eq_moored hproduct
  obtain ⟨-, hcomplete, hbeside⟩ := hcalls 1
  refine ⟨exists_values_of_mem_dinghies, start, hstart, (hcalls 0).1, ?_, (hcalls 4).1, rfl, ?_, ?_⟩
  · rw [hcomplete]
    rintro (hone | ⟨declared, hd, hempty⟩)
    · cases hone
    · rcases List.mem_pair.1 hd with rfl | rfl
      · cases hempty
      · cases hempty
  · exact (hbeside [later^[1] start] 0 rfl 0 (by simp) _).1
  · exact (hbeside [later^[1] start] 0 rfl 1 (by simp) _).1

/-- **A copy taken after a call does not begin again.** -/
theorem copy_of_dinghies_lacks_the_first :
    (∃ start, ofVariables dinghies = .ok start ∧
      (later^[1] start).copy.Yields
        [[("i", "1"), ("j", "b")], [("i", "2"), ("j", "a")], [("i", "2"), ("j", "b")]]) ∧
      ¬ ∀ declarations start order all,
        (∀ declared ∈ declarations, ∃ values, domainValues declared.domain = .ok values) →
        ofVariables declarations = .ok start → IsProduct declarations order all →
        ∀ calls, (later^[calls] start).copy.Yields all ∧
          (later^[calls] start).Yields (all.drop calls) := by
  obtain ⟨start, order, hstart, hproduct⟩ := exists_isProduct exists_values_of_mem_dinghies
  have hall : start.toList = moored := eq_moored hproduct
  rw [hall] at hproduct
  have hcopy : (later^[1] start).copy.Yields moored.tail := by
    rw [copy_eq, yields_iff, ← hall]
    exact toList_later start
  refine ⟨⟨start, hstart, hcopy⟩, fun hagain => ?_⟩
  obtain ⟨hwhole, -⟩ := hagain dinghies start order moored exists_values_of_mem_dinghies hstart
    hproduct 1
  have hlength := congrArg List.length (hcopy.unique hwhole)
  cases hlength

end Template
end SshTemplate
