import SshTemplate.Template.Places
import SshTemplate.Template.Range
import SshTemplate.Directive

/-!
# `Template.Combinations` — the cross product of domains

A host with template variables is written once for every choice of one value per variable. A
`Combinations` is the domains and a cursor, the places of the next choice in them. Each call reads
off the choice at the cursor and moves it on, the last variable fastest; a copy taken in the middle
of the sequence stands where the copied one stood.

The choices are numbered as the places are, so what is still to come can be told without going
through it: these are the choices with the numbers from the cursor's on. There is one choice, the
empty one, if there are no variables, and none if some domain is empty; both come out of `count`
being a product.
-/

set_option autoImplicit false

namespace SshTemplate
namespace Template

/-- A template variable with the values of its domain. -/
structure Axis where
  name : String
  values : Array String

/-- One value for each of some variables, in the order of their declaration. -/
abbrev Combination := List (String × String)

def axisSizes (axes : List Axis) : List Nat := axes.map fun axis => axis.values.size

/-- The choice at some places. -/
def pick : List Axis → List Nat → Combination
  | axis :: rest, place :: places => (axis.name, axis.values.getD place "") :: pick rest places
  | _, _ => []

/-- The choice with the number `n`. -/
def choice : List Axis → Nat → Combination
  | [], _ => []
  | axis :: rest, n =>
    (axis.name, axis.values.getD (n / countPlaces (axisSizes rest)) "") ::
      choice rest (n % countPlaces (axisSizes rest))

/-- Places and their number make the same choice. -/
theorem pick_eq_choice {axes : List Axis} {places : List Nat} (h : Within (axisSizes axes) places) :
    pick axes places = choice axes (number (axisSizes axes) places) := by
  induction axes generalizing places with
  | nil =>
    cases h
    rfl
  | cons axis rest ih =>
    cases h with
    | @cons _ place _ places below others =>
      have others : Within (axisSizes rest) places := others
      have hlt := others.number_lt
      have hdiv : (place * countPlaces (axisSizes rest) + number (axisSizes rest) places) /
          countPlaces (axisSizes rest) = place := by
        rw [Nat.mul_comm, Nat.mul_add_div (by omega), Nat.div_eq_of_lt hlt, Nat.add_zero]
      have hmod : (place * countPlaces (axisSizes rest) + number (axisSizes rest) places) %
          countPlaces (axisSizes rest) = number (axisSizes rest) places := by
        rw [Nat.mul_comm, Nat.mul_add_mod, Nat.mod_eq_of_lt hlt]
      show pick (axis :: rest) (place :: places) = choice (axis :: rest)
        (place * countPlaces (axisSizes rest) + number (axisSizes rest) places)
      rw [pick, choice, hdiv, hmod, ih others]

structure Combinations where
  axes : List Axis
  /-- The places of the next choice; none when the sequence is over. -/
  cursor : Option (List Nat)
  within : ∀ places ∈ cursor, Within (axisSizes axes) places

namespace Combinations

/-- All choices for the declared variables. Every domain is expanded, also beside an empty one. -/
def ofVariables (declarations : List TemplateVariable) : Except Issue Combinations := do
  let axes ← declarations.mapM fun declared =>
    (fun values => ⟨declared.name, values.toArray⟩) <$> domainValues declared.domain
  pure ⟨axes, beginning (axisSizes axes), fun _ h => within_beginning h⟩

/-- How many there are altogether, wherever the sequence stands. -/
def count (c : Combinations) : Nat := countPlaces (axisSizes c.axes)

/-- Moves the cursor on. -/
def advance (c : Combinations) : Combinations where
  axes := c.axes
  cursor := c.cursor.bind (turned (axisSizes c.axes))
  within := by
    intro later hlater
    obtain ⟨places, hplaces, hturned⟩ := Option.bind_eq_some_iff.1 hlater
    exact (c.within places hplaces).of_turned hturned

/-- The next combination and the sequence after it. -/
def next? (c : Combinations) : Option (Combination × Combinations) :=
  c.cursor.map fun places => (pick c.axes places, c.advance)

/-- Another sequence that stands where this one stands, and goes on by itself. -/
def copy (c : Combinations) : Combinations where
  axes := c.axes
  cursor := c.cursor
  within := c.within

/-- Axes and cursor are all there is to a sequence. -/
theorem copy_eq (c : Combinations) : c.copy = c := rfl

/-! ## What is still to come -/

/-- The number of the next choice, and behind the last one the number of them all. -/
def position (c : Combinations) : Nat := (c.cursor.map (number (axisSizes c.axes))).getD c.count

/-- How many are still to come. -/
def remaining (c : Combinations) : Nat := c.count - c.position

/-- All combinations still to come. -/
def toList (c : Combinations) : List Combination :=
  (List.range' c.position c.remaining).map (choice c.axes)

theorem length_toList (c : Combinations) : c.toList.length = c.remaining := by
  simp [toList]

section Cursor

variable {c : Combinations} {places : List Nat}

theorem position_of_cursor (h : c.cursor = some places) :
    c.position = number (axisSizes c.axes) places := by
  unfold position
  rw [h]
  rfl

theorem position_lt (h : c.cursor = some places) : c.position < c.count := by
  rw [position_of_cursor h]
  exact (c.within places h).number_lt

/-- Moving the cursor on adds one to its number. -/
theorem position_advance (h : c.cursor = some places) : c.advance.position = c.position + 1 := by
  have hcursor : c.advance.cursor = turned (axisSizes c.axes) places := by
    show c.cursor.bind (turned (axisSizes c.axes)) = _
    rw [h]
    rfl
  rw [position_of_cursor h, ← (c.within places h).number_of_turned, ← hcursor]
  rfl

end Cursor

/-- The sequence is over when, and only when, nothing remains. -/
theorem next?_eq_none_iff (c : Combinations) : c.next? = none ↔ c.remaining = 0 := by
  unfold next? remaining
  cases hcursor : c.cursor with
  | none =>
    unfold position
    rw [hcursor]
    simp
  | some places =>
    have hlt := position_lt hcursor
    simp only [Option.map_some, reduceCtorEq, false_iff]
    omega

/-- Going on takes the first of what is still to come. -/
theorem toList_of_next? {c later : Combinations} {combination : Combination}
    (h : c.next? = some (combination, later)) : c.toList = combination :: later.toList := by
  obtain ⟨places, hcursor, hstep⟩ := Option.map_eq_some_iff.1 h
  obtain ⟨rfl, rfl⟩ := Prod.mk.inj hstep
  have hlt := position_lt hcursor
  have hremaining : c.remaining = c.advance.remaining + 1 := by
    unfold remaining
    rw [position_advance hcursor]
    show c.count - c.position = c.count - (c.position + 1) + 1
    omega
  unfold toList
  rw [hremaining, List.range'_succ, List.map_cons, ← position_advance hcursor,
    pick_eq_choice (c.within places hcursor), ← position_of_cursor hcursor]
  rfl

/-! ## One after the other

Nothing holds all the combinations of a host at once: there can be very many of them, and the first
that fails ends the work. -/

/-- Does `f` for the next `n` combinations, up to the first failure; `done` holds the results so
    far, the last one first. -/
def visitNext {ε α : Type} (f : Combination → Except ε α) (done : List α) :
    Nat → Combinations → Except ε (List α)
  | 0, _ => .ok done.reverse
  | n + 1, c =>
    match c.next? with
    | none => .ok done.reverse
    | some (combination, later) =>
      match f combination with
      | .ok a => visitNext f (a :: done) n later
      | .error e => .error e

/-- Does `f` for every combination still to come, in order, up to the first failure. -/
def visit {ε α : Type} (f : Combination → Except ε α) (c : Combinations) : Except ε (List α) :=
  visitNext f [] c.remaining c

theorem visitNext_eq {ε α : Type} (f : Combination → Except ε α) (done : List α)
    (c : Combinations) :
    visitNext f done c.remaining c = (done.reverse ++ ·) <$> c.toList.mapM f := by
  generalize hcount : c.remaining = n
  induction n generalizing done c with
  | zero =>
    have hnil : c.toList = [] := by
      rw [← List.length_eq_zero_iff, length_toList, hcount]
    rw [hnil]
    simp [visitNext, pure, Except.pure, Functor.map, Except.map]
  | succ n ih =>
    cases hnext : c.next? with
    | none =>
      rw [(next?_eq_none_iff c).1 hnext] at hcount
      cases hcount
    | some step =>
      obtain ⟨combination, later⟩ := step
      have hlist := toList_of_next? hnext
      have hlater : later.remaining = n := by
        have hlength := congrArg List.length hlist
        rw [length_toList, hcount, List.length_cons, length_toList] at hlength
        omega
      unfold visitNext
      rw [hnext, hlist, List.mapM_cons]
      dsimp only
      cases f combination with
      | error e => rfl
      | ok a =>
        dsimp only
        rw [ih (a :: done) later hlater, List.reverse_cons]
        cases later.toList.mapM f with
        | error e => rfl
        | ok rest => simp [Functor.map, Except.map, bind, Except.bind, pure, Except.pure]

/-- Visiting is one pass over the combinations that are still to come. -/
theorem visit_eq_mapM {ε α : Type} (f : Combination → Except ε α) (c : Combinations) :
    c.visit f = c.toList.mapM f := by
  unfold visit
  rw [visitNext_eq]
  cases c.toList.mapM f <;> rfl

end Combinations
end Template
end SshTemplate
