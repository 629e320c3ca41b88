/-!
# `Template.Places` — choosing a place in each of several lists

A choice of one value from each of several lists is a list of places, one below each size. Going on
from some places works as on an odometer: the last place is raised, and where it cannot be, it
begins again and the one before it is raised. After the last places there are none.

The same places, numbered, are digits in the mixed base given by the sizes, the last of them the
lowest. Going on adds one (`number_of_turned`), so after the last number nothing follows.
-/

set_option autoImplicit false

namespace SshTemplate
namespace Template

/-- Each place is below its size. -/
inductive Within : List Nat → List Nat → Prop where
  | nil : Within [] []
  | cons {size place : Nat} {sizes places : List Nat} (below : place < size)
      (others : Within sizes places) : Within (size :: sizes) (place :: places)

/-- The first place everywhere. -/
def origin (sizes : List Nat) : List Nat := sizes.map fun _ => 0

/-- The places to begin with; there are none if some list is empty. -/
def beginning (sizes : List Nat) : Option (List Nat) :=
  if 0 ∈ sizes then none else some (origin sizes)

/-- The places after some places: the last one that can be raised is raised, and the places behind
    it begin again. -/
def turned : List Nat → List Nat → Option (List Nat)
  | size :: sizes, place :: places =>
    match turned sizes places with
    | some later => some (place :: later)
    | none => if place + 1 < size then some ((place + 1) :: origin sizes) else none
  | _, _ => none

/-- How many choices of one place below each size there are. -/
def countPlaces (sizes : List Nat) : Nat := sizes.foldr (· * ·) 1

/-- The number of some places, counted from the first ones. -/
def number : List Nat → List Nat → Nat
  | _ :: sizes, place :: places => place * countPlaces sizes + number sizes places
  | _, _ => 0

variable {sizes places later : List Nat}

/-! ## Going on stays within the sizes -/

theorem Within.pos (h : Within sizes places) : ∀ size ∈ sizes, 0 < size := by
  induction h with
  | nil => simp
  | cons below _ ih => exact List.forall_mem_cons.2 ⟨Nat.zero_lt_of_lt below, ih⟩

theorem within_origin (h : ∀ size ∈ sizes, 0 < size) : Within sizes (origin sizes) := by
  induction sizes with
  | nil => exact .nil
  | cons size rest ih =>
    obtain ⟨hsize, hrest⟩ := List.forall_mem_cons.1 h
    exact .cons hsize (ih hrest)

theorem within_beginning (h : beginning sizes = some places) : Within sizes places := by
  unfold beginning at h
  split at h
  · cases h
  · next hempty =>
    obtain rfl := Option.some.inj h
    exact within_origin fun size hsize => Nat.pos_of_ne_zero fun hzero => hempty (hzero ▸ hsize)

theorem Within.of_turned (h : Within sizes places) (hlater : turned sizes places = some later) :
    Within sizes later := by
  induction h generalizing later with
  | nil => cases hlater
  | @cons size place sizes places below others ih =>
    rw [turned] at hlater
    cases hturned : turned sizes places with
    | some behind =>
      rw [hturned] at hlater
      obtain rfl := Option.some.inj hlater
      exact .cons below (ih hturned)
    | none =>
      rw [hturned] at hlater
      dsimp only at hlater
      split at hlater
      · next hraised =>
        obtain rfl := Option.some.inj hlater
        exact .cons hraised (within_origin others.pos)
      · cases hlater

/-! ## Numbers -/

theorem countPlaces_cons (size : Nat) (sizes : List Nat) :
    countPlaces (size :: sizes) = size * countPlaces sizes := rfl

theorem countPlaces_eq_zero (h : 0 ∈ sizes) : countPlaces sizes = 0 := by
  induction sizes with
  | nil => cases h
  | cons size rest ih =>
    rw [countPlaces_cons]
    rcases List.mem_cons.1 h with rfl | hrest
    · exact Nat.zero_mul _
    · rw [ih hrest, Nat.mul_zero]

theorem number_origin (sizes : List Nat) : number sizes (origin sizes) = 0 := by
  induction sizes with
  | nil => rfl
  | cons size rest ih =>
    show 0 * countPlaces rest + number rest (origin rest) = 0
    rw [ih, Nat.zero_mul]

/-- The number of the places to begin with is zero, and where there are none there is no other. -/
theorem number_beginning (sizes : List Nat) :
    ((beginning sizes).map (number sizes)).getD (countPlaces sizes) = 0 := by
  unfold beginning
  split
  · next hempty => exact countPlaces_eq_zero hempty
  · exact number_origin sizes

theorem Within.number_lt (h : Within sizes places) : number sizes places < countPlaces sizes := by
  induction h with
  | nil => exact Nat.one_pos
  | @cons size place sizes places below _ ih =>
    rw [countPlaces_cons, number]
    have hblock := Nat.mul_le_mul_right (countPlaces sizes) (Nat.succ_le_of_lt below)
    rw [Nat.succ_mul] at hblock
    omega

/-- **Going on adds one**, and it ends behind the last number. -/
theorem Within.number_of_turned (h : Within sizes places) :
    ((turned sizes places).map (number sizes)).getD (countPlaces sizes) =
      number sizes places + 1 := by
  induction h with
  | nil => rfl
  | @cons size place sizes places below others ih =>
    rw [turned, number, countPlaces_cons]
    cases hturned : turned sizes places with
    | some later =>
      rw [hturned] at ih
      show place * countPlaces sizes + number sizes later = _
      rw [show number sizes later = number sizes places + 1 from ih, Nat.add_assoc]
    | none =>
      rw [hturned] at ih
      have hlast : countPlaces sizes = number sizes places + 1 := ih
      have hblock : (place + 1) * countPlaces sizes =
          place * countPlaces sizes + number sizes places + 1 := by
        rw [Nat.succ_mul, Nat.add_assoc, ← hlast]
      dsimp only
      split
      · show (place + 1) * countPlaces sizes + number sizes (origin sizes) = _
        rw [number_origin, Nat.add_zero, hblock]
      · next hraised =>
        have hsize : size = place + 1 := by omega
        show size * countPlaces sizes = _
        rw [hsize, hblock]

end Template
end SshTemplate
