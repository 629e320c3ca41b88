import Mathlib
import SshTemplate.Template.Combinations
import SshTemplate.Logged

/-!
# `Proofs.Template.CrossProduct` — the numbered choices are the cross product

What is still to come in a `Combinations` is told by numbers: choice number `n` is read off `n`'s
digits in a mixed base. Which choices there are, and in which order, is clearer said by recursion on
the variables: a value for the first of them, in front of every choice for the others. **The two are
the same list** (`toList_ofVariables`), so the first variable varies slowest, and the number of
choices is the product of the sizes of the domains.

The whole content is division with remainder: the numbers below `n * m` in order are, block by
block, `i * m + j` for `j` below `m` (`range_mul`).
-/

set_option autoImplicit false

namespace SshTemplate

/-- The values of a template variable; none if its domain is malformed. -/
def TemplateVariable.values (declared : TemplateVariable) : List String :=
  match Template.domainValues declared.domain with
  | .ok values => values
  | .error _ => []

theorem TemplateVariable.domainValues_eq_ok {declared : TemplateVariable}
    (h : ∃ values, Template.domainValues declared.domain = .ok values) :
    Template.domainValues declared.domain = .ok declared.values := by
  obtain ⟨values, hvalues⟩ := h
  unfold TemplateVariable.values
  rw [hvalues]

namespace Template

/-- All ways to choose one value for each name, the first name varying slowest. -/
def crossProduct : List (String × List String) → List Combination
  | [] => [[]]
  | (name, values) :: rest =>
    values.flatMap fun value => (crossProduct rest).map fun choices => (name, value) :: choices

theorem length_crossProduct (axes : List (String × List String)) :
    (crossProduct axes).length = (axes.map fun axis => axis.2.length).prod := by
  induction axes with
  | nil => rfl
  | cons axis rest ih =>
    have hconst : ∀ values : List String,
        (values.map fun _ => (crossProduct rest).length).sum =
          values.length * (crossProduct rest).length := by
      intro values
      induction values with
      | nil => simp
      | cons value more ihv => rw [List.map_cons, List.sum_cons, ihv, List.length_cons]; grind
    rw [crossProduct, List.length_flatMap, List.map_cons, List.prod_cons, ← ih]
    simp only [List.length_map]
    exact hconst axis.2

/-! ## Counting in blocks -/

/-- The numbers below `n * m` are `n` blocks of `m`. -/
theorem range_mul (n m : Nat) :
    List.range (n * m) = (List.range n).flatMap fun i => (List.range m).map fun j => i * m + j := by
  induction n with
  | zero => simp
  | succ n ih =>
    rw [Nat.succ_mul, List.range_add, ih, List.range_succ, List.flatMap_append]
    simp

theorem map_range_choice (axes : List Axis) :
    (List.range (countPlaces (axisSizes axes))).map (choice axes) =
      crossProduct (axes.map fun axis => (axis.name, axis.values.toList)) := by
  induction axes with
  | nil => rfl
  | cons axis rest ih =>
    generalize hm : countPlaces (axisSizes rest) = m at ih
    have hcount : countPlaces (axisSizes (axis :: rest)) = axis.values.size * m := by
      rw [← hm]
      rfl
    have hblock : ∀ i, ((List.range m).map fun j => i * m + j).map (choice (axis :: rest)) =
          (crossProduct (rest.map fun axis => (axis.name, axis.values.toList))).map
            fun choices => (axis.name, axis.values.getD i "") :: choices := by
      intro i
      rw [← ih, List.map_map, List.map_map]
      refine List.map_congr_left fun j hj => ?_
      have hj : j < m := List.mem_range.1 hj
      -- Number `i * m + j` has the digit `i` in front of the digits of `j`.
      have hdiv : (i * m + j) / m = i := by
        rw [Nat.mul_comm, Nat.mul_add_div (by omega), Nat.div_eq_of_lt hj, Nat.add_zero]
      have hmod : (i * m + j) % m = j := by
        rw [Nat.mul_comm, Nat.mul_add_mod, Nat.mod_eq_of_lt hj]
      show choice (axis :: rest) (i * m + j) = _
      rw [choice, hm, hdiv, hmod]
      rfl
    have hvalues : axis.values.toList =
        (List.range axis.values.size).map fun i => axis.values.getD i "" := by
      refine List.ext_getElem (by simp) fun i h₁ h₂ => ?_
      have hi : i < axis.values.size := by simpa using h₁
      simp [Array.getD, hi]
    rw [hcount, range_mul, List.map_flatMap, List.map_cons, crossProduct, hvalues,
      List.flatMap_map]
    exact congrArg (fun block => (List.range axis.values.size).flatMap block) (funext hblock)

/-! ## Declared variables -/

/-- The sequence stands at its beginning. -/
theorem cursor_of_ofVariables {declarations : List TemplateVariable} {c : Combinations}
    (h : Combinations.ofVariables declarations = .ok c) :
    c.cursor = beginning (axisSizes c.axes) := by
  obtain ⟨axes, -, hc⟩ := exists_of_bind_eq_ok h
  obtain rfl := Except.ok.inj hc
  rfl

theorem position_of_ofVariables {declarations : List TemplateVariable} {c : Combinations}
    (h : Combinations.ofVariables declarations = .ok c) : c.position = 0 := by
  unfold Combinations.position
  rw [cursor_of_ofVariables h]
  exact number_beginning (axisSizes c.axes)

/-- Every domain has been expanded, and nothing has been taken yet. -/
theorem axes_of_ofVariables {declarations : List TemplateVariable} {c : Combinations}
    (h : Combinations.ofVariables declarations = .ok c) :
    (∀ declared ∈ declarations, domainValues declared.domain = .ok declared.values) ∧
      c.position = 0 ∧
      c.axes = declarations.map fun declared => ⟨declared.name, declared.values.toArray⟩ := by
  have hposition := position_of_ofVariables h
  obtain ⟨axes, haxes, hc⟩ := exists_of_bind_eq_ok h
  obtain rfl := Except.ok.inj hc
  have hvalues : ∀ declared ∈ declarations,
      domainValues declared.domain = .ok declared.values := by
    intro declared hd
    obtain ⟨axis, haxis⟩ := forall_of_mapM_eq_ok haxes declared hd
    obtain ⟨values, hv, -⟩ := exists_of_map_eq_ok haxis
    exact TemplateVariable.domainValues_eq_ok ⟨values, hv⟩
  refine ⟨hvalues, hposition, eq_map_of_mapM_eq_ok (fun declared hd axis haxis => ?_) haxes⟩
  obtain ⟨values, hv, rfl⟩ := exists_of_map_eq_ok haxis
  rw [hvalues declared hd, Except.ok.injEq] at hv
  rw [hv]

theorem exists_ofVariables {declarations : List TemplateVariable}
    (h : ∀ declared ∈ declarations, domainValues declared.domain = .ok declared.values) :
    ∃ c, Combinations.ofVariables declarations = .ok c := by
  have hmap : declarations.mapM (fun declared => (fun values : List String =>
      (⟨declared.name, values.toArray⟩ : Axis)) <$> domainValues declared.domain) =
        .ok (declarations.map fun declared => ⟨declared.name, declared.values.toArray⟩) := by
    refine mapM_eq_ok fun declared hd => ?_
    rw [h declared hd]
    rfl
  unfold Combinations.ofVariables
  rw [hmap]
  exact ⟨_, rfl⟩

/-- **The combinations of a host are the cross product of its domains.** -/
theorem toList_ofVariables {declarations : List TemplateVariable} {c : Combinations}
    (h : Combinations.ofVariables declarations = .ok c) :
    c.toList =
      crossProduct (declarations.map fun declared => (declared.name, declared.values)) := by
  obtain ⟨-, hposition, haxes⟩ := axes_of_ofVariables h
  have hremaining : c.remaining = countPlaces (axisSizes c.axes) := by
    unfold Combinations.remaining Combinations.count
    rw [hposition, Nat.sub_zero]
  unfold Combinations.toList
  rw [hposition, hremaining, ← List.range_eq_range', map_range_choice, haxes, List.map_map]
  rfl

end Template
end SshTemplate
