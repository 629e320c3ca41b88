import SshTemplate.Proofs.Template.Spans
import SshTemplate.Proofs.Template.Succession

/-!
# `Proofs.Template.Expansions` — the items of a host's expansion

A host is expanded into one item for each combination of its template variables, and an item is a
stanza or an issue. What an item is, is settled by the combination it belongs to: by what the names
stand for in it (`Binds`), and by the spans of the host's texts (`IsInstance`, of which there is one
only for each lookup: `IsInstance.unique`). Nothing of one combination reaches another, and an issue
of one does not end the others; only rendering stops there, and it goes through the same items
(`visit_eq_mapM_expand`).
-/

set_option autoImplicit false

namespace SshTemplate
namespace Template

variable {combination : Combination} {bindings : Variables} {template : HostTemplate}
  {lookup : String → Option String}

/-! ## What a name stands for -/

/-- The value of a name in a combination: that of the first template variable of the name, and the
    document's where no template variable has it. -/
inductive Binds (combination : Combination) (bindings : Variables) (name value : String) : Prop where
  | chosen {before after : Combination} (split : combination = before ++ (name, value) :: after)
      (first : name ∉ before.map Prod.fst)
  | inherited (free : name ∉ combination.map Prod.fst) (set : bindings.get? name = some value)

theorem find?_eq_none_of_free {name : String} (h : name ∉ combination.map Prod.fst) :
    (combination.find? fun binding => binding.1 = name) = none := by
  refine List.find?_eq_none.2 fun other hother hsame => h ?_
  exact List.mem_map.2 ⟨other, hother, of_decide_eq_true hsame⟩

theorem bound_eq_some_iff {name value : String} :
    bound combination bindings name = some value ↔ Binds combination bindings name value := by
  constructor
  · intro h
    unfold bound at h
    split at h
    · next first found hfound =>
      obtain rfl := Option.some.inj h
      obtain ⟨hname, before, after, rfl, hbefore⟩ := List.find?_eq_some_iff_append.1 hfound
      obtain rfl : first = name := of_decide_eq_true hname
      refine .chosen rfl fun hmem => ?_
      obtain ⟨other, hother, hsame⟩ := List.mem_map.1 hmem
      exact absurd (hbefore other hother) (by simp [hsame])
    · next hfound =>
      refine .inherited (fun hmem => ?_) h
      obtain ⟨other, hother, hsame⟩ := List.mem_map.1 hmem
      exact List.find?_eq_none.1 hfound other hother (decide_eq_true hsame)
  · rintro (⟨rfl, hfirst⟩ | ⟨hfree, hset⟩)
    · unfold bound
      rw [List.find?_append, find?_eq_none_of_free hfirst, Option.none_or]
      simp
    · unfold bound
      rw [find?_eq_none_of_free hfree]
      exact hset

/-! ## One item -/

/-- What a host comes to under a lookup: its stanza, with all spans of its texts replaced, if all of
    them are bound; otherwise the first unbound span of the first text that has one. -/
structure IsInstance (template : HostTemplate) (lookup : String → Option String)
    (item : Except Issue Stanza) : Prop where
  succeeds : (∃ stanza, item = .ok stanza) ↔
    ∀ text ∈ template.host :: template.lines, AllBound lookup text
  filled : ∀ stanza, item = .ok stanza → ∃ host lines, FilledBy lookup template.host host ∧
    List.Forall₂ (FilledBy lookup) template.lines lines ∧
    stanza = ⟨some host, headerOf host :: lines⟩
  failed : ∀ issue, item = .error issue → ∃ before text after name,
    template.host :: template.lines = before ++ text :: after ∧
    (∀ other ∈ before, AllBound lookup other) ∧ FirstUnboundSpan lookup text name ∧
    issue = .unresolvedVariable name

/-- **An item is what the host comes to.** -/
theorem isInstance_instantiate (template : HostTemplate) (lookup : String → Option String) :
    IsInstance template lookup (template.instantiate lookup) where
  succeeds := by
    simp only [instantiate_eq_ok_iff, substitute_eq_ok_iff, mapM_substitute_eq_ok_iff]
    constructor
    · rintro ⟨stanza, host, lines, ⟨-, hhost⟩, ⟨-, hlines⟩, -⟩
      exact List.forall_mem_cons.2 ⟨hhost, hlines⟩
    · intro h
      obtain ⟨hhost, hlines⟩ := List.forall_mem_cons.1 h
      refine ⟨_, _, template.lines.map (substituteBound lookup), ⟨filledBy_iff.2 rfl, hhost⟩,
        ⟨?_, hlines⟩, rfl⟩
      rw [List.forall₂_map_right_iff, List.forall₂_same]
      exact fun text _ => filledBy_iff.2 rfl
  filled := by
    intro stanza h
    obtain ⟨host, lines, hhost, hlines, hstanza⟩ := instantiate_eq_ok_iff.1 h
    exact ⟨host, lines, (substitute_eq_ok_iff.1 hhost).1,
      (mapM_substitute_eq_ok_iff.1 hlines).1, hstanza⟩
  failed := by
    intro issue h
    obtain ⟨before, text, after, hsplit, hbefore, hissue⟩ :=
      instantiate_eq_error_iff.1 h
    obtain ⟨name, hname, hissue⟩ := substitute_eq_unresolved_iff.1 hissue
    refine ⟨before, text, after, name, hsplit, fun other hother => ?_, hname, hissue⟩
    obtain ⟨filled, hfilled⟩ := hbefore other hother
    exact (substitute_eq_ok_iff.1 hfilled).2

/-- **The lookup settles the item.** -/
theorem IsInstance.unique {item : Except Issue Stanza} (h : IsInstance template lookup item) :
    item = template.instantiate lookup := by
  cases item with
  | ok stanza =>
    obtain ⟨host, lines, hhost, hlines, rfl⟩ := h.filled stanza rfl
    obtain ⟨hbound, hrest⟩ := List.forall_mem_cons.1 (h.succeeds.1 ⟨_, rfl⟩)
    exact (instantiate_eq_ok_iff.2 ⟨host, lines, substitute_eq_ok_iff.2 ⟨hhost, hbound⟩,
      mapM_substitute_eq_ok_iff.2 ⟨hlines, hrest⟩, rfl⟩).symm
  | error issue =>
    obtain ⟨before, text, after, name, hsplit, hbefore, hname, rfl⟩ := h.failed issue rfl
    refine (instantiate_eq_error_iff.2 ⟨before, text, after, hsplit, ?_, ?_⟩).symm
    · intro other hother
      exact ⟨_, substitute_eq_ok_iff.2 ⟨filledBy_iff.2 rfl, hbefore other hother⟩⟩
    · exact substitute_eq_unresolved_iff.2 ⟨name, hname, rfl⟩

/-! ## All items -/

/-- Rendering goes through the items of the expansion, up to the first issue. -/
theorem visit_eq_mapM_expand (template : HostTemplate) (combinations : Combinations)
    (bindings : Variables) :
    (combinations.visit fun combination => template.instantiate (bound combination bindings)) =
      (template.expand combinations bindings).mapM id := by
  rw [Combinations.visit_eq_mapM, HostTemplate.expand, List.mapM_map]
  rfl

/-- **The expansion of a host has an item for every combination, and for each its own.** Where all
    domains have values, there are as many items as combinations, and the one that belongs to a
    combination is what the host comes to under the bindings of that combination alone, whatever the
    items before it are: a stanza exactly if all spans of all texts are bound, made of the texts with
    their spans replaced at once. Rendering goes through these items and stops at the first issue. -/
theorem every_combination_has_its_item {declarations : List TemplateVariable}
    (h : ∀ declared ∈ declarations, ∃ values, domainValues declared.domain = .ok values)
    (template : HostTemplate) (bindings : Variables) :
    ∃ start combinations, Combinations.ofVariables declarations = .ok start ∧
      start.Yields combinations ∧
      (∀ combination ∈ combinations,
        combination.map Prod.fst = declarations.map TemplateVariable.name) ∧
      (template.expand start bindings).length = start.count ∧
      (∀ (i : Nat) combination, combinations[i]? = some combination → ∃ lookup item,
        (∀ name value, lookup name = some value ↔ Binds combination bindings name value) ∧
        (template.expand start bindings)[i]? = some item ∧
        ∀ other, IsInstance template lookup other ↔ other = item) ∧
      (start.visit fun combination => template.instantiate (bound combination bindings)) =
        (template.expand start bindings).mapM id := by
  obtain ⟨start, hstart⟩ := exists_ofVariables fun declared hd =>
    TemplateVariable.domainValues_eq_ok (h declared hd)
  have hlist := toList_ofVariables hstart
  refine ⟨start, start.toList, hstart, start.yields_toList, ?_, ?_, ?_,
    visit_eq_mapM_expand template start bindings⟩
  · intro combination hc
    rw [hlist] at hc
    rw [map_fst_of_mem_crossProduct hc, List.map_map]
    rfl
  · have hposition := (axes_of_ofVariables hstart).2.1
    rw [HostTemplate.expand, List.length_map, Combinations.length_toList, Combinations.remaining,
      hposition, Nat.sub_zero]
  · intro i combination hi
    refine ⟨bound combination bindings, template.instantiate (bound combination bindings),
      fun name value => bound_eq_some_iff, ?_, fun other => ⟨IsInstance.unique, ?_⟩⟩
    · rw [HostTemplate.expand, List.getElem?_map, hi]
      rfl
    · rintro rfl
      exact isInstance_instantiate template _

/-- Two variables of one name, the first of which counts. -/
def twins : List TemplateVariable := [⟨"n", ["1", "2"]⟩, ⟨"n", ["x", "y"]⟩]

theorem twins_have_their_items :
    let template : HostTemplate := ⟨"h<n>", ["    Send <n> <word>"]⟩
    let bindings : Variables := Dictionary.empty.insert "word" "<n>"
    (∀ declared ∈ twins, ∃ values, domainValues declared.domain = .ok values) ∧
      ∃ start, Combinations.ofVariables twins = .ok start ∧
        (template.expand start bindings).length = 4 ∧
        (template.expand start bindings)[2]? =
          some (.ok ⟨some "h2", ["Host = h2", "    Send 2 <n>"]⟩) := by
  intro template bindings
  have hdomains : ∀ declared ∈ twins, ∃ values, domainValues declared.domain = .ok values := by
    refine List.forall_mem_cons.2 ⟨⟨["1", "2"], by rfl⟩, ?_⟩
    exact List.forall_mem_cons.2 ⟨⟨["x", "y"], by rfl⟩, by simp⟩
  obtain ⟨start, combinations, hstart, hyields, -, hlength, hitems, -⟩ :=
    every_combination_has_its_item hdomains template bindings
  have hall : combinations = [[("n", "1"), ("n", "x")], [("n", "1"), ("n", "y")],
      [("n", "2"), ("n", "x")], [("n", "2"), ("n", "y")]] := by
    rw [hyields.unique start.yields_toList, toList_ofVariables hstart]
    rfl
  subst hall
  obtain ⟨lookup, item, hlookup, hitem, hinstance⟩ := hitems 2 _ rfl
  have hbound : lookup = bound [("n", "2"), ("n", "x")] bindings := by
    funext name
    refine Option.ext fun value => ?_
    rw [hlookup, bound_eq_some_iff]
  have hstanza : item = .ok ⟨some "h2", ["Host = h2", "    Send 2 <n>"]⟩ := by
    rw [((hinstance item).2 rfl).unique, hbound]
    cbv
  refine ⟨hdomains, start, hstart, ?_, by rw [hitem, hstanza]⟩
  rw [HostTemplate.expand, List.length_map, start.yields_toList.unique hyields]
  rfl

end Template
end SshTemplate
