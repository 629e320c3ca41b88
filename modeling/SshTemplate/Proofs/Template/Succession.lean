import SshTemplate.Proofs.Template.CrossProduct

/-!
# `Proofs.Template.Succession` — the combinations, call by call

`Combinations` keeps a cursor, a *place* in each domain, and each call of `next?` moves it on. What
the calls come to is said here without numbers. Going on from some places means to raise the last
one that can be raised and to begin again behind it (`turned`); that gives the next places in
lexicographic order, so it goes through all of them and ends (`getElem?_placements`). The product of
the domains holds the values that stand at these places, in this order (`IsProduct`, which leaves no
freedom: `IsProduct.unique`).

One call answers the first of what is still to come and leaves the rest (`answer?_eq_head?`,
`toList_later`), and where nothing is left it answers nothing and changes nothing. So the calls,
however many, go through the product from its beginning, and the count stays what it was.
-/

set_option autoImplicit false

namespace SshTemplate
namespace Template

/-! ## Places -/

/-- All ways to choose a place below each size, the first one varying slowest. -/
def placements : List Nat → List (List Nat)
  | [] => [[]]
  | size :: rest => (List.range size).flatMap fun place => (placements rest).map (place :: ·)

variable {sizes places : List Nat}

theorem within_iff_forall₂ : Within sizes places ↔ List.Forall₂ (· < ·) places sizes := by
  constructor
  · intro h
    induction h with
    | nil => exact .nil
    | cons below _ ih => exact .cons below ih
  · intro h
    induction h with
    | nil => exact .nil
    | cons below _ ih => exact .cons below ih

theorem mem_placements_iff : places ∈ placements sizes ↔ Within sizes places := by
  induction sizes generalizing places with
  | nil =>
    rw [placements, List.mem_singleton]
    constructor
    · rintro rfl
      exact .nil
    · intro h
      cases h
      rfl
  | cons size rest ih =>
    rw [placements, List.mem_flatMap]
    constructor
    · rintro ⟨place, hplace, hmem⟩
      obtain ⟨others, hothers, rfl⟩ := List.mem_map.1 hmem
      exact .cons (List.mem_range.1 hplace) (ih.1 hothers)
    · rintro (_ | ⟨hplace, hothers⟩)
      exact ⟨_, List.mem_range.2 hplace, List.mem_map.2 ⟨_, ih.2 hothers, rfl⟩⟩

theorem pairwise_placements (sizes : List Nat) : (placements sizes).Pairwise (· < ·) := by
  induction sizes with
  | nil => exact List.pairwise_singleton _ _
  | cons size rest ih =>
    rw [placements, List.pairwise_flatMap]
    constructor
    · intro place _
      exact List.pairwise_map.2 (ih.imp fun hlt => List.cons_lt_cons_self.2 hlt)
    · refine List.pairwise_lt_range.imp fun {place other} hlt => ?_
      intro first hfirst second hsecond
      obtain ⟨_, -, rfl⟩ := List.mem_map.1 hfirst
      obtain ⟨_, -, rfl⟩ := List.mem_map.1 hsecond
      exact List.cons_lt_cons_iff.2 (Or.inl hlt)

/-! ## Going on by carrying -/

/-- No places come before the first ones. -/
theorem Within.not_lt_origin (h : Within sizes places) : ¬ places < origin sizes := by
  induction h with
  | nil => exact List.not_lt_nil []
  | @cons _ place _ _ _ _ ih =>
    intro hlt
    rcases List.cons_lt_cons_iff.1 hlt with hfirst | ⟨-, hlt⟩
    · exact absurd hfirst (Nat.not_lt_zero place)
    · exact ih hlt

/-- **Turning gives the next places in lexicographic order**, and nothing after the last ones. -/
theorem Within.turned (h : Within sizes places) :
    (∀ later ∈ turned sizes places, Within sizes later ∧ places < later ∧
      ∀ other, Within sizes other → places < other → ¬ other < later) ∧
    (turned sizes places = none → ∀ other, Within sizes other → ¬ places < other) := by
  induction h with
  | nil =>
    refine ⟨fun later hlater => (by cases hlater), fun _ other hother => ?_⟩
    cases hother
    exact List.not_lt_nil []
  | @cons size place sizes places hplace hplaces ih =>
    obtain ⟨hsome, hnone⟩ := ih
    rw [Template.turned]
    cases hturned : Template.turned sizes places with
    | some later =>
      obtain ⟨hwithin, hlt, hleast⟩ := hsome later hturned
      refine ⟨?_, fun hno => (by cases hno)⟩
      rintro _ ⟨⟩
      refine ⟨.cons hplace hwithin, List.cons_lt_cons_self.2 hlt, ?_⟩
      rintro (_ | ⟨first, others⟩) (_ | ⟨hfirst, hothers⟩) habove hbelow
      rw [List.cons_lt_cons_iff] at habove hbelow
      rcases habove with habove | ⟨rfl, habove⟩
      · omega
      · exact hleast others hothers habove (hbelow.resolve_left (Nat.lt_irrefl _)).2
    | none =>
      have hlast := hnone hturned
      dsimp only
      by_cases hraised : place + 1 < size
      · -- Only the first place can be raised: what is above begins with a higher one.
        rw [if_pos hraised]
        refine ⟨?_, fun hno => (by cases hno)⟩
        rintro _ ⟨⟩
        refine ⟨.cons hraised (within_origin (Within.pos hplaces)),
          List.cons_lt_cons_iff.2 (Or.inl (Nat.lt_succ_self place)), ?_⟩
        rintro (_ | ⟨first, others⟩) (_ | ⟨hfirst, hothers⟩) habove hbelow
        rw [List.cons_lt_cons_iff] at habove hbelow
        rcases habove with habove | ⟨-, habove⟩
        · rcases hbelow with hbelow | ⟨-, hbelow⟩
          · omega
          · exact Within.not_lt_origin hothers hbelow
        · exact hlast others hothers habove
      · rw [if_neg hraised]
        refine ⟨fun later hlater => (by cases hlater), fun _ => ?_⟩
        rintro (_ | ⟨first, others⟩) (_ | ⟨hfirst, hothers⟩) habove
        rcases List.cons_lt_cons_iff.1 habove with habove | ⟨-, habove⟩
        · omega
        · exact hlast others hothers habove

/-- In a list that increases, the least of its members above one of them follows it. -/
theorem getElem?_succ_of_least {list : List (List Nat)} (hlist : list.Pairwise (· < ·)) {i : Nat}
    {here : List Nat} (hhere : list[i]? = some here) {after : Option (List Nat)}
    (hafter : ∀ later ∈ after, later ∈ list ∧ here < later ∧
      ∀ other ∈ list, here < other → ¬ other < later)
    (hnone : after = none → ∀ other ∈ list, ¬ here < other) : list[i + 1]? = after := by
  obtain ⟨hi, rfl⟩ := List.getElem?_eq_some_iff.1 hhere
  have hbelow := List.pairwise_iff_getElem.1 hlist
  cases after with
  | none =>
    refine List.getElem?_eq_none (Nat.le_of_not_lt fun hnext => ?_)
    exact hnone rfl list[i + 1] (List.getElem_mem hnext)
      (hbelow i (i + 1) hi hnext (Nat.lt_succ_self i))
  | some later =>
    obtain ⟨hmem, hlt, hleast⟩ := hafter later rfl
    obtain ⟨j, hj, rfl⟩ := List.getElem_of_mem hmem
    have hij : i < j := by
      rcases Nat.lt_trichotomy i j with hij | rfl | hji
      · exact hij
      · exact absurd hlt (List.lt_irrefl _)
      · exact absurd hlt (List.lt_asymm (hbelow j i hj hi hji))
    have hnext : i + 1 < list.length := by omega
    rcases Nat.lt_or_eq_of_le (Nat.succ_le_of_lt hij) with hskipped | rfl
    · -- The member right behind would be above and below.
      exact absurd (hbelow (i + 1) j hnext hj hskipped)
        (hleast list[i + 1] (List.getElem_mem hnext)
          (hbelow i (i + 1) hi hnext (Nat.lt_succ_self i)))
    · exact List.getElem?_eq_getElem hj

/-- **Carrying goes through all places**, from the first ones to the end. -/
theorem getElem?_placements (sizes : List Nat) (calls : Nat) :
    (placements sizes)[calls]? = (fun here => here.bind (turned sizes))^[calls] (beginning sizes) := by
  have hordered := pairwise_placements sizes
  induction calls with
  | zero =>
    show (placements sizes)[0]? = beginning sizes
    unfold beginning
    by_cases hempty : 0 ∈ sizes
    · rw [if_pos hempty]
      refine List.getElem?_eq_none ?_
      rw [Nat.le_zero, List.length_eq_zero_iff, List.eq_nil_iff_forall_not_mem]
      exact fun places hplaces => Nat.lt_irrefl 0 ((mem_placements_iff.1 hplaces).pos 0 hempty)
    · rw [if_neg hempty]
      have hpos : ∀ size ∈ sizes, 0 < size := fun size hsize =>
        Nat.pos_of_ne_zero fun hzero => hempty (hzero ▸ hsize)
      have horigin := mem_placements_iff.2 (within_origin hpos)
      cases hall : placements sizes with
      | nil => rw [hall] at horigin; exact absurd horigin List.not_mem_nil
      | cons first rest =>
        rw [hall] at hordered horigin
        rcases List.mem_cons.1 horigin with heq | hmem
        · rw [heq]; rfl
        · have hfirst : first ∈ placements sizes := by simp [hall]
          exact absurd ((List.pairwise_cons.1 hordered).1 _ hmem)
            (Within.not_lt_origin (mem_placements_iff.1 hfirst))
  | succ calls ih =>
    rw [Function.iterate_succ_apply', ← ih]
    cases hhere : (placements sizes)[calls]? with
    | none =>
      exact List.getElem?_eq_none (Nat.le_succ_of_le (List.getElem?_eq_none_iff.1 hhere))
    | some here =>
      have hwithin := mem_placements_iff.1 (List.mem_of_getElem? hhere)
      obtain ⟨hsome, hnone⟩ := hwithin.turned
      refine getElem?_succ_of_least hordered hhere (fun later hlater => ?_) fun hno other hother => ?_
      · obtain ⟨hlater, hlt, hleast⟩ := hsome later hlater
        exact ⟨mem_placements_iff.2 hlater, hlt, fun other hother =>
          hleast other (mem_placements_iff.1 hother)⟩
      · exact hnone hno other (mem_placements_iff.1 hother)

/-! ## The product -/

variable {declarations : List TemplateVariable}

/-- The combination holds, for each variable, the value at its place. -/
inductive Picks : List TemplateVariable → List Nat → Combination → Prop where
  | nil : Picks [] [] []
  | cons {declared : TemplateVariable} {declarations : List TemplateVariable} {place : Nat}
      {places : List Nat} {value : String} {combination : Combination}
      (stands : declared.values[place]? = some value)
      (others : Picks declarations places combination) :
      Picks (declared :: declarations) (place :: places) ((declared.name, value) :: combination)

theorem Picks.unique {combination other : Combination} (h : Picks declarations places combination)
    (h' : Picks declarations places other) : combination = other := by
  induction h generalizing other with
  | nil => cases h'; rfl
  | cons stands others ih =>
    cases h' with
    | cons stands' others' =>
      obtain rfl := Option.some.inj (stands.symm.trans stands')
      rw [ih others']

/-- What stands in the domains of the variables at each choice of places, in the lexicographic order
    of the places. -/
structure IsProduct (declarations : List TemplateVariable) (order : List (List Nat))
    (all : List Combination) : Prop where
  ordered : order.Pairwise (· < ·)
  complete : ∀ places, places ∈ order ↔
    List.Forall₂ (fun place declared => place < declared.values.length) places declarations
  picked : List.Forall₂ (Picks declarations) order all

/-- **The variables determine the product.** -/
theorem IsProduct.unique {order order' : List (List Nat)} {all all' : List Combination}
    (h : IsProduct declarations order all) (h' : IsProduct declarations order' all') :
    order = order' ∧ all = all' := by
  have hperm : order.Perm order' := by
    refine (List.perm_ext_iff_of_nodup ?_ ?_).2 fun places => ?_
    · exact h.ordered.imp fun hlt => ne_of_lt hlt
    · exact h'.ordered.imp fun hlt => ne_of_lt hlt
    · rw [h.complete, h'.complete]
  have hasymm : ∀ a b, a ∈ order → b ∈ order' → a < b → b < a → a = b :=
    fun _ _ _ _ hab hba => absurd hab (List.lt_asymm hba)
  obtain rfl := hperm.eq_of_pairwise hasymm h.ordered h'.ordered
  have hpicks : Relator.RightUnique (Picks declarations) := fun _ _ _ hpick hpick' =>
    hpick.unique hpick'
  exact ⟨rfl, List.right_unique_forall₂' hpicks h.picked h'.picked⟩

/-- The sizes of the domains. -/
def sizesOf (declarations : List TemplateVariable) : List Nat :=
  declarations.map fun declared => declared.values.length

theorem forall₂_picks (declarations : List TemplateVariable) :
    List.Forall₂ (Picks declarations) (placements (sizesOf declarations))
      (crossProduct (declarations.map fun declared => (declared.name, declared.values))) := by
  induction declarations with
  | nil => exact .cons .nil .nil
  | cons declared rest ih =>
    have hstands : List.Forall₂ (fun place value => declared.values[place]? = some value)
        (List.range declared.values.length) declared.values := by
      refine List.forall₂_iff_get.2 ⟨List.length_range, fun i _ h => ?_⟩
      simp [List.getElem?_eq_getElem h]
    rw [List.map_cons, crossProduct, sizesOf, List.map_cons, placements]
    refine List.rel_flatMap hstands fun place value hvalue => ?_
    rw [List.forall₂_map_left_iff, List.forall₂_map_right_iff]
    exact ih.imp fun _ _ hpick => .cons hvalue hpick

theorem isProduct_crossProduct (declarations : List TemplateVariable) :
    IsProduct declarations (placements (sizesOf declarations))
      (crossProduct (declarations.map fun declared => (declared.name, declared.values))) where
  ordered := pairwise_placements _
  complete places := by
    rw [mem_placements_iff, within_iff_forall₂, sizesOf, List.forall₂_map_right_iff]
  picked := forall₂_picks declarations

/-! ## Calls -/

namespace Combinations

/-- What the next call answers. -/
def answer? (c : Combinations) : Option Combination := c.next?.map Prod.fst

/-- Where the sequence stands after a call; a call that answers nothing changes nothing. -/
def later (c : Combinations) : Combinations := (c.next?.map Prod.snd).getD c

/-- The answers of the calls, up to the first that answers nothing. -/
inductive Yields : Combinations → List Combination → Prop where
  | ended {c : Combinations} (ends : c.next? = none) : Yields c []
  | more {c after : Combinations} {combination : Combination} {rest : List Combination}
      (goes : c.next? = some (combination, after)) (others : Yields after rest) :
      Yields c (combination :: rest)

theorem toList_of_next?_eq_none {c : Combinations} (h : c.next? = none) : c.toList = [] := by
  rw [← List.length_eq_zero_iff, length_toList]
  exact (next?_eq_none_iff c).1 h

theorem answer?_eq_head? (c : Combinations) : c.answer? = c.toList.head? := by
  unfold answer?
  cases hnext : c.next? with
  | none => rw [toList_of_next?_eq_none hnext]; rfl
  | some step => rw [toList_of_next? hnext]; rfl

theorem toList_later (c : Combinations) : c.later.toList = c.toList.tail := by
  unfold later
  cases hnext : c.next? with
  | none =>
    show c.toList = c.toList.tail
    rw [toList_of_next?_eq_none hnext]
    rfl
  | some step => rw [toList_of_next? hnext]; rfl

/-- A call moves the cursor on. Where there is none, nothing can be moved. -/
theorem later_eq_advance (c : Combinations) : c.later = c.advance := by
  obtain ⟨axes, cursor, within⟩ := c
  cases cursor <;> rfl

/-- **The cursor is carried on from call to call**, and nothing else changes. -/
theorem iterate_later (c : Combinations) (calls : Nat) :
    (later^[calls] c).axes = c.axes ∧
      (later^[calls] c).cursor =
        (fun here => here.bind (turned (axisSizes c.axes)))^[calls] c.cursor := by
  induction calls with
  | zero => exact ⟨rfl, rfl⟩
  | succ calls ih =>
    obtain ⟨haxes, hcursor⟩ := ih
    rw [Function.iterate_succ_apply', Function.iterate_succ_apply', later_eq_advance, ← hcursor,
      ← haxes]
    exact ⟨rfl, rfl⟩

/-- The calls answer what is still to come, and no more. -/
theorem yields_toList (c : Combinations) : c.Yields c.toList := by
  generalize hlist : c.toList = list
  induction list generalizing c with
  | nil =>
    refine .ended ((next?_eq_none_iff c).2 ?_)
    rw [← length_toList, hlist, List.length_nil]
  | cons combination rest ih =>
    cases hnext : c.next? with
    | none =>
      rw [toList_of_next?_eq_none hnext] at hlist
      cases hlist
    | some step =>
      obtain ⟨first, after⟩ := step
      rw [toList_of_next? hnext] at hlist
      obtain ⟨rfl, hrest⟩ := List.cons.inj hlist
      exact .more hnext (ih after hrest)

theorem Yields.unique {c : Combinations} {list other : List Combination} (h : c.Yields list)
    (h' : c.Yields other) : list = other := by
  induction h generalizing other with
  | ended ends =>
    cases h' with
    | ended _ => rfl
    | more goes _ => rw [ends] at goes; cases goes
  | more goes others ih =>
    cases h' with
    | ended ends => rw [goes] at ends; cases ends
    | more goes' others' =>
      obtain ⟨rfl, rfl⟩ := Prod.mk.inj (Option.some.inj (goes.symm.trans goes'))
      rw [ih others']

theorem toList_iterate_later (c : Combinations) (calls : Nat) :
    (later^[calls] c).toList = c.toList.drop calls := by
  induction calls with
  | zero => rfl
  | succ calls ih => rw [Function.iterate_succ_apply', toList_later, ih, List.tail_drop]

theorem count_iterate_later (c : Combinations) (calls : Nat) :
    (later^[calls] c).count = c.count := by
  unfold count
  rw [(iterate_later c calls).1]

end Combinations

/-- **The combinations of some variables, call by call.** Where all domains have values, the calls go
    through the product of the domains: after any number of calls, what is still to come is the
    product without that many at its beginning, the next call answers the first of these, or nothing
    once there are none left, and the count is that of the whole product. Its places follow each
    other by carrying, and the cursor goes through them. -/
theorem calls_go_through_the_product
    (h : ∀ declared ∈ declarations, ∃ values, domainValues declared.domain = .ok values) :
    ∃ start order all, Combinations.ofVariables declarations = .ok start ∧
      IsProduct declarations order all ∧
      (∀ calls, (Combinations.later^[calls] start).Yields (all.drop calls) ∧
        (Combinations.later^[calls] start).answer? = all[calls]? ∧
        (Combinations.later^[calls] start).count = all.length ∧
        (Combinations.later^[calls] start).cursor = order[calls]? ∧
        order[calls]? = (fun here => here.bind (turned (sizesOf declarations)))^[calls]
          (beginning (sizesOf declarations))) ∧
      (declarations = [] → all = [[]]) ∧
      ((∃ declared ∈ declarations, declared.values = []) → all = []) := by
  have hvalues := fun declared hd => TemplateVariable.domainValues_eq_ok (h declared hd)
  obtain ⟨start, hstart⟩ := exists_ofVariables hvalues
  have hlist := toList_ofVariables hstart
  have hproduct := isProduct_crossProduct declarations
  obtain ⟨-, hposition, haxes⟩ := axes_of_ofVariables hstart
  have hsizes : axisSizes start.axes = sizesOf declarations := by
    unfold axisSizes sizesOf
    rw [haxes, List.map_map]
    rfl
  rw [← hlist] at hproduct
  refine ⟨start, _, _, hstart, hproduct, fun calls => ⟨?_, ?_, ?_, ?_, ?_⟩, ?_, ?_⟩
  · rw [← Combinations.toList_iterate_later]
    exact Combinations.yields_toList _
  · rw [Combinations.answer?_eq_head?, Combinations.toList_iterate_later, List.head?_drop]
  · rw [Combinations.count_iterate_later, Combinations.length_toList, Combinations.remaining,
      hposition, Nat.sub_zero]
  · rw [(Combinations.iterate_later start calls).2, cursor_of_ofVariables hstart, hsizes,
      getElem?_placements]
  · exact getElem?_placements _ calls
  · rintro rfl
    rw [hlist]
    rfl
  · rintro ⟨declared, hd, hempty⟩
    refine List.length_eq_zero_iff.1 ?_
    rw [hlist, length_crossProduct, List.prod_eq_zero_iff, List.mem_map]
    exact ⟨_, List.mem_map_of_mem hd, by rw [hempty]; rfl⟩

/-- Two variables, one of them with a range. -/
def berths : List TemplateVariable := [⟨"i", ["\x7b9..10\x7d"]⟩, ⟨"j", ["a", "b"]⟩]

theorem berths_go_through_the_product :
    (∀ declared ∈ berths, ∃ values, domainValues declared.domain = .ok values) ∧
      ∃ start, Combinations.ofVariables berths = .ok start ∧
        (Combinations.later^[1] start).Yields
          [[("i", "9"), ("j", "b")], [("i", "10"), ("j", "a")], [("i", "10"), ("j", "b")]] ∧
        (Combinations.later^[3] start).count = 4 ∧
        (Combinations.later^[3] start).answer? = some [("i", "10"), ("j", "b")] ∧
        (Combinations.later^[4] start).answer? = none := by
  have hdomains : ∀ declared ∈ berths, ∃ values, domainValues declared.domain = .ok values := by
    refine List.forall_mem_cons.2 ⟨⟨["9", "10"], by rfl⟩, ?_⟩
    exact List.forall_mem_cons.2 ⟨⟨["a", "b"], by rfl⟩, by simp⟩
  obtain ⟨start, order, all, hstart, hproduct, hcalls, -, -⟩ :=
    calls_go_through_the_product hdomains
  have hall : all = [[("i", "9"), ("j", "a")], [("i", "9"), ("j", "b")], [("i", "10"), ("j", "a")],
      [("i", "10"), ("j", "b")]] := by
    rw [(hproduct.unique (isProduct_crossProduct berths)).2]
    rfl
  subst hall
  exact ⟨hdomains, start, hstart, (hcalls 1).1, (hcalls 3).2.2.1, (hcalls 3).2.1, (hcalls 4).2.1⟩

end Template
end SshTemplate
