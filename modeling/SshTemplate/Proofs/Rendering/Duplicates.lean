import SshTemplate.Proofs.Rendering.Stanzas

/-!
# `Proofs.Rendering.Duplicates` — which host names are reported as repeated

Rendering remembers the names it has seen and reports, document by document, those that come again.
What should be reported can be said without remembering: write down all names in the order of the
stanzas, each with the place of its document in preorder (`Document.emissions`); a document is
reported with the names of those of its emissions that are not the first of their name.

Three things have to agree on that. The set of names that travels along the tree holds the names of
all documents before (`duplicates_renderAfter`); a name is repeated within a document if it is in
that set or comes twice (`mem_repeatedNames`), and this is what it means for an emission to have an
earlier one (`repeats_iff`); and no other warning is of this kind.
-/

set_option autoImplicit false

namespace SshTemplate

open Template (crossProduct)

/-! ## Emissions -/

/-- The names that a document emits, one for every combination of every host. -/
def Contents.names (own : Contents) : List String :=
  own.hostPlaces.flatMap fun place =>
    (crossProduct place.1.axes).map fun combination => own.filled combination place.1.name

/-- A name, and the place of the document that emits it. -/
abbrev Emission := Nat × String

/-- What some documents emit, the first of them at place `i`. -/
def emissionsFrom (i : Nat) (documents : List Contents) : List Emission :=
  (documents.zipIdx i).flatMap fun document => document.1.names.map (document.2, ·)

/-- The names that the document at place `i` emits although they have been emitted before. -/
def repeatsAt (emissions : List Emission) (i : Nat) : List String :=
  Order.sortedTexts <| (emissions.zipIdx.filter fun place =>
    place.1.1 = i ∧ place.1.2 ∈ (emissions.take place.2).map Prod.snd).map fun place => place.1.2

theorem emittedNames_expanded (own : Contents) (keys : KeyLibrary) :
    Rendering.emittedNames (own.expanded keys) = own.names := by
  unfold Rendering.emittedNames Contents.expanded Contents.names
  rw [List.filterMap_flatMap]
  refine List.flatMap_congr fun place _ => ?_
  rw [List.filterMap_map]
  exact List.filterMap_eq_map_iff_forall_eq_some.2 fun combination _ => rfl

theorem emissionsFrom_append (i : Nat) (front back : List Contents) :
    emissionsFrom i (front ++ back) =
      emissionsFrom i front ++ emissionsFrom (i + front.length) back := by
  unfold emissionsFrom
  rw [List.zipIdx_append, List.flatMap_append]

theorem emissionsFrom_cons (i : Nat) (own : Contents) (rest : List Contents) :
    emissionsFrom i (own :: rest) = own.names.map (i, ·) ++ emissionsFrom (i + 1) rest := by
  unfold emissionsFrom
  rw [List.zipIdx_cons, List.flatMap_cons]

theorem map_snd_emissionsFrom (i : Nat) (documents : List Contents) :
    (emissionsFrom i documents).map Prod.snd = documents.flatMap Contents.names := by
  induction documents generalizing i with
  | nil => rfl
  | cons own rest ih =>
    rw [emissionsFrom_cons, List.map_append, List.map_map, ih, List.flatMap_cons]
    simp [Function.comp_def]

theorem place_of_mem_emissionsFrom {i : Nat} {documents : List Contents} {e : Emission}
    (h : e ∈ emissionsFrom i documents) : i ≤ e.1 ∧ e.1 < i + documents.length := by
  obtain ⟨document, hdocument, he⟩ := List.mem_flatMap.1 h
  obtain ⟨name, -, rfl⟩ := List.mem_map.1 he
  obtain ⟨hle, hlt, -⟩ := List.mem_zipIdx hdocument
  exact ⟨hle, hlt⟩

/-! ## Which emissions are not the first of their name -/

theorem mem_repeatsAt {emissions : List Emission} {i : Nat} {name : String} :
    name ∈ repeatsAt emissions i ↔
      ∃ p, emissions[p]? = some (i, name) ∧ name ∈ (emissions.take p).map Prod.snd := by
  unfold repeatsAt
  rw [Order.mem_sortedTexts, List.mem_map]
  constructor
  · rintro ⟨⟨⟨j, other⟩, p⟩, hplace, rfl⟩
    obtain ⟨hmem, hrepeat⟩ := List.mem_filter.1 hplace
    obtain ⟨rfl, hbefore⟩ := of_decide_eq_true hrepeat
    exact ⟨p, List.mem_zipIdx_iff_getElem?.1 hmem, hbefore⟩
  · rintro ⟨p, hget, hbefore⟩
    refine ⟨((i, name), p), List.mem_filter.2 ⟨List.mem_zipIdx_iff_getElem?.2 hget, ?_⟩, rfl⟩
    exact decide_eq_true ⟨rfl, hbefore⟩

theorem mem_repeatsAt_iff_earlier {emissions : List Emission} {i : Nat} {name : String} :
    name ∈ repeatsAt emissions i ↔
      ∃ p q j : Nat, q < p ∧ emissions[p]? = some (i, name) ∧ emissions[q]? = some (j, name) := by
  rw [mem_repeatsAt]
  constructor
  · rintro ⟨p, hp, hbefore⟩
    obtain ⟨⟨j, other⟩, hmem, rfl⟩ := List.mem_map.1 hbefore
    obtain ⟨q, hq⟩ := List.mem_iff_getElem?.1 hmem
    rw [List.getElem?_take] at hq
    split at hq
    · next hlt => exact ⟨p, q, j, hlt, hp, hq⟩
    · cases hq
  · rintro ⟨p, q, j, hlt, hp, hq⟩
    refine ⟨p, hp, List.mem_map.2 ⟨(j, name), List.mem_iff_getElem?.2 ⟨q, ?_⟩, rfl⟩⟩
    rw [List.getElem?_take_of_lt hlt, hq]

theorem two_le_count_iff {names : List String} {name : String} :
    2 ≤ names.count name ↔ ∃ k, names[k]? = some name ∧ name ∈ names.take k := by
  induction names with
  | nil => simp
  | cons first rest ih =>
    by_cases hfirst : first = name
    · subst hfirst
      have hcount : 2 ≤ rest.count first + 1 ↔ first ∈ rest := by
        rw [← List.one_le_count_iff]
        omega
      rw [List.count_cons_self, hcount, List.mem_iff_getElem?]
      constructor
      · rintro ⟨k, hk⟩
        exact ⟨k + 1, hk, by simp⟩
      · rintro ⟨k, hk, hmem⟩
        cases k with
        | zero => exact absurd hmem (by simp)
        | succ k => exact ⟨k, hk⟩
    · rw [List.count_cons_of_ne hfirst, ih]
      constructor
      · rintro ⟨k, hk, hmem⟩
        exact ⟨k + 1, hk, List.mem_cons_of_mem _ hmem⟩
      · rintro ⟨k, hk, hmem⟩
        cases k with
        | zero => exact absurd hmem (by simp)
        | succ k => exact ⟨k, hk, (List.mem_cons.1 hmem).resolve_left (Ne.symm hfirst)⟩

/-- What stands neither before nor behind stands in the middle. -/
theorem getElem?_middle {α : Type} {front middle back : List α} {a : α} (hfront : a ∉ front)
    (hback : a ∉ back) {p : Nat} :
    (front ++ (middle ++ back))[p]? = some a ↔
      ∃ k, p = front.length + k ∧ middle[k]? = some a := by
  constructor
  · intro h
    rw [List.getElem?_append] at h
    split at h
    · exact absurd (List.mem_of_getElem? h) hfront
    · next hp =>
      rw [List.getElem?_append] at h
      split at h
      · exact ⟨p - front.length, by omega, h⟩
      · exact absurd (List.mem_of_getElem? h) hback
  · rintro ⟨k, rfl, hk⟩
    rw [List.getElem?_append_right (Nat.le_add_right _ _), Nat.add_sub_cancel_left,
      List.getElem?_append_left (List.getElem?_eq_some_iff.1 hk).1, hk]

/-- **An emission of a document has an earlier one** if its name was emitted by a document before,
    or comes twice in its own. -/
theorem mem_repeatsAt_iff {before after : List Contents} {own : Contents} {name : String} :
    name ∈ repeatsAt (emissionsFrom 0 (before ++ own :: after)) before.length ↔
      (name ∈ before.flatMap Contents.names ∧ name ∈ own.names) ∨ 2 ≤ own.names.count name := by
  have hfront : (before.length, name) ∉ emissionsFrom 0 before := fun hmem =>
    absurd (place_of_mem_emissionsFrom hmem).2 (by simp)
  have hback : (before.length, name) ∉ emissionsFrom (before.length + 1) after := fun hmem =>
    absurd (place_of_mem_emissionsFrom hmem).1 (by simp)
  -- An emission at place `k` of the document's own has all emissions before and `k` of its own.
  have hown : ∀ k : Nat, (own.names.map fun name => (before.length, name))[k]? =
      some (before.length, name) ↔ own.names[k]? = some name := by
    intro k
    rw [List.getElem?_map]
    simp
  have hbefore : ∀ k : Nat, own.names[k]? = some name →
      (name ∈ ((emissionsFrom 0 before ++ ((own.names.map fun name => (before.length, name)) ++
          emissionsFrom (before.length + 1) after)).take
            ((emissionsFrom 0 before).length + k)).map Prod.snd ↔
        name ∈ before.flatMap Contents.names ∨ name ∈ own.names.take k) := by
    intro k hk
    have hlt : k < own.names.length := (List.getElem?_eq_some_iff.1 hk).1
    rw [List.take_length_add_append, List.take_append_of_le_length (by simp; omega),
      List.map_append, map_snd_emissionsFrom, List.mem_append, ← List.map_take, List.map_map]
    simp [Function.comp_def]
  rw [mem_repeatsAt, emissionsFrom_append, emissionsFrom_cons, Nat.zero_add]
  simp only [getElem?_middle hfront hback, hown]
  constructor
  · rintro ⟨p, ⟨k, rfl, hk⟩, hmem⟩
    rcases (hbefore k hk).1 hmem with hmem | hmem
    · exact Or.inl ⟨hmem, List.mem_of_getElem? hk⟩
    · exact Or.inr (two_le_count_iff.2 ⟨k, hk, hmem⟩)
  · rintro (⟨hmem, hname⟩ | htwice)
    · obtain ⟨k, hk⟩ := List.mem_iff_getElem?.1 hname
      exact ⟨_, ⟨k, rfl, hk⟩, (hbefore k hk).2 (Or.inl hmem)⟩
    · obtain ⟨k, hk, hmem⟩ := two_le_count_iff.1 htwice
      exact ⟨_, ⟨k, rfl, hk⟩, (hbefore k hk).2 (Or.inr hmem)⟩

/-! ## One document -/

/-- The report of the names of a document that come again after `seen`. -/
def Contents.report (own : Contents) (seen : Order.TextSet) : List Warning :=
  let repeated := repeatedNames seen own.names
  if repeated.isEmpty then [] else [.duplicateHosts own.locator repeated.toList]

def Warning.isDuplicateHosts : Warning → Bool
  | duplicateHosts _ _ => true
  | _ => false

namespace Contents

variable {own : Contents} {keys : KeyLibrary} {w : Warning}

theorem not_isDuplicateHosts_of_keyFile {identity : String}
    (h : own.keyFile keys identity = .error w) : w.isDuplicateHosts = false := by
  unfold keyFile at h
  split at h
  · obtain rfl := Except.error.inj h
    rfl
  · split at h
    · cases h
    · obtain rfl := Except.error.inj h
      rfl

theorem not_isDuplicateHosts_of_mem_blockWarnings {s : Section}
    (h : w ∈ own.blockWarnings keys s) : w.isDuplicateHosts = false := by
  obtain ⟨identity, -, hsome⟩ := List.mem_filterMap.1 h
  split at hsome
  · cases hsome
  · next warning hfile =>
    obtain rfl := Option.some.inj hsome
    exact not_isDuplicateHosts_of_keyFile hfile

theorem not_isDuplicateHosts_of_mem_walk {visited : List Nat} {references : List Reference}
    (h : w ∈ (own.walk keys visited references).warnings) : w.isDuplicateHosts = false := by
  fun_induction walk own keys visited references with
  | case1 => exact absurd h List.not_mem_nil
  | case2 => exact absurd h List.not_mem_nil
  | case3 _ _ _ _ _ _ ih => exact ih h
  | case4 _ _ _ _ _ _ _ ih => exact ih h
  | case5 _ _ _ _ _ _ _ _ ih =>
    rcases List.mem_append.1 h with h | h
    · exact not_isDuplicateHosts_of_mem_blockWarnings h
    · exact ih h

theorem not_isDuplicateHosts_of_mem_resolveSection {index : Nat} {visited : List Nat}
    (h : w ∈ (own.resolveSection keys index visited).warnings) : w.isDuplicateHosts = false := by
  unfold resolveSection at h
  split at h
  · exact absurd h List.not_mem_nil
  · split at h
    · exact absurd h List.not_mem_nil
    · rcases List.mem_append.1 h with h | h
      · exact not_isDuplicateHosts_of_mem_blockWarnings h
      · exact not_isDuplicateHosts_of_mem_walk h

theorem not_isDuplicateHosts_of_mem_allStanzas (h : w ∈ (own.allStanzas keys).log) :
    w.isDuplicateHosts = false := by
  have hparts : w ∈ ((Logged.forEach (fun place : Section × Nat =>
      own.hostStanzas keys place.2 place.1) own.hostPlaces).bind fun parts =>
        Logged.pure parts.flatten).log := h
  rcases Logged.mem_log_bind hparts with hparts | ⟨parts, -, hpure⟩
  · obtain ⟨place, -, hplace⟩ := Logged.mem_log_forEach hparts
    rcases Logged.mem_log_bind hplace with htemplate | ⟨template, -, hlift⟩
    · exact not_isDuplicateHosts_of_mem_resolveSection htemplate
    · exact absurd hlift List.not_mem_nil
  · exact absurd hpure List.not_mem_nil

theorem not_isDuplicateHosts_of_mem_globalPart {globals : List String}
    (h : w ∈ (own.globalPart globals).warnings) : w.isDuplicateHosts = false := by
  unfold globalPart at h
  split at h
  · dsimp only at h
    split at h
    · exact absurd h List.not_mem_nil
    · obtain rfl := List.mem_singleton.1 h
      rfl
  · exact absurd h List.not_mem_nil

theorem emittedNames_globalPart (globals : List String) :
    Rendering.emittedNames (own.globalPart globals).stanzas = [] := by
  unfold globalPart
  split <;> rfl

/-- **A document reports what it emits again**, and nothing else in the same way. -/
theorem duplicates_render {seen : Order.TextSet} {rendering : Rendering}
    (h : own.render keys seen = .ok rendering) :
    rendering.warnings.filter Warning.isDuplicateHosts = own.report seen ∧
      Rendering.emittedNames rendering.stanzas = own.names := by
  obtain ⟨globals, -, h⟩ := exists_of_bind_eq_ok h
  obtain ⟨stanzas, hstanzas, h⟩ := exists_of_bind_eq_ok h
  obtain rfl := Except.ok.inj h
  obtain ⟨rfl, -⟩ := allStanzas_eq_ok hstanzas
  constructor
  · have hglobals : (own.globalPart globals).warnings.filter Warning.isDuplicateHosts = [] :=
      List.filter_eq_nil_iff.2 fun w hw => by simp [not_isDuplicateHosts_of_mem_globalPart hw]
    have hhosts : (own.allStanzas keys).log.filter Warning.isDuplicateHosts = [] :=
      List.filter_eq_nil_iff.2 fun w hw => by simp [not_isDuplicateHosts_of_mem_allStanzas hw]
    unfold Rendering.append report
    rw [emittedNames_expanded, List.filter_append, List.filter_append, hglobals, hhosts]
    dsimp only
    split <;> rfl
  · show Rendering.emittedNames ((own.globalPart globals).stanzas ++ own.expanded keys) = _
    have hglobals : Rendering.emittedNames (own.globalPart globals).stanzas = [] :=
      emittedNames_globalPart globals
    have hhosts := emittedNames_expanded own keys
    unfold Rendering.emittedNames at hglobals hhosts ⊢
    rw [List.filterMap_append, hglobals, hhosts, List.nil_append]

end Contents

/-! ## The tree -/

/-- The reports of some documents after `seen`. -/
def reports (seen : Order.TextSet) : List Contents → List Warning
  | [] => []
  | own :: rest => own.report seen ++ reports (seen.insertMany own.names) rest

theorem reports_append (seen : Order.TextSet) (front back : List Contents) :
    reports seen (front ++ back) =
      reports seen front ++ reports (seen.insertMany (front.flatMap Contents.names)) back := by
  induction front generalizing seen with
  | nil => simp [reports]
  | cons own rest ih =>
    rw [List.cons_append, reports, reports, ih, List.append_assoc, List.flatMap_cons,
      Std.ExtTreeSet.insertMany_append]

theorem Rendering.emittedNames_append (front back : List Stanza) :
    emittedNames (front ++ back) = emittedNames front ++ emittedNames back :=
  List.filterMap_append

theorem Order.sortedTexts_eq_toList {set : TextSet} {texts : List String}
    (h : ∀ text, text ∈ sortedTexts texts ↔ text ∈ set) : sortedTexts texts = set.toList := by
  refine congrArg Std.ExtTreeSet.toList (Std.ExtTreeSet.ext_mem fun text => ?_)
  rw [← Std.ExtTreeSet.mem_toList]
  exact h text

/-- The report of a document of a tree, by what the whole tree emits: it names those emissions of
    the document that are not the first of their name, if there are any. -/
def duplicateReport (emissions : List Emission) (document : Contents × Nat) : Option Warning :=
  let repeated := repeatsAt emissions document.2
  if repeated = [] then none else some (.duplicateHosts document.1.locator repeated)

theorem Contents.report_eq {before after : List Contents} {own : Contents} {seen : Order.TextSet}
    (hseen : ∀ name, name ∈ seen ↔ name ∈ before.flatMap names) :
    own.report seen =
      (duplicateReport (emissionsFrom 0 (before ++ own :: after)) (own, before.length)).toList := by
  have hrepeated : repeatsAt (emissionsFrom 0 (before ++ own :: after)) before.length =
      (repeatedNames seen own.names).toList := by
    refine Order.sortedTexts_eq_toList fun name => ?_
    rw [mem_repeatedNames, hseen]
    exact mem_repeatsAt_iff
  unfold duplicateReport report
  dsimp only
  rw [hrepeated, ← Std.ExtTreeSet.isEmpty_toList]
  cases (repeatedNames seen own.names).toList <;> rfl

theorem reports_eq {before after : List Contents} {seen : Order.TextSet}
    (hseen : ∀ name, name ∈ seen ↔ name ∈ before.flatMap Contents.names) :
    reports seen after = (after.zipIdx before.length).filterMap
      (duplicateReport (emissionsFrom 0 (before ++ after))) := by
  induction after generalizing before seen with
  | nil => rfl
  | cons own rest ih =>
    have hnext : ∀ name, name ∈ seen.insertMany own.names ↔
        name ∈ (before ++ [own]).flatMap Contents.names := by
      intro name
      rw [Std.ExtTreeSet.mem_insertMany_list, hseen, List.flatMap_append, List.mem_append,
        List.flatMap_singleton, List.contains_iff_mem]
    have hrest := ih hnext
    rw [List.append_assoc, List.singleton_append, List.length_append, List.length_singleton] at hrest
    have hreport : own.report seen = (duplicateReport (emissionsFrom 0 (before ++ own :: rest))
        (own, before.length)).toList := Contents.report_eq hseen
    rw [reports, hrest, hreport, List.zipIdx_cons, List.filterMap_cons]
    cases duplicateReport (emissionsFrom 0 (before ++ own :: rest)) (own, before.length) <;> rfl

namespace Document

mutual

/-- **The names seen are those of all documents before**, so each is reported with its repeats. -/
theorem duplicates_renderAfter {keys : KeyLibrary} :
    ∀ (document : Document) (seen : Order.TextSet) (rendering : Rendering),
      document.renderAfter keys seen = .ok rendering →
        rendering.warnings.filter Warning.isDuplicateHosts = reports seen document.preorder ∧
          Rendering.emittedNames rendering.stanzas = document.preorder.flatMap Contents.names
  | ⟨own, includes⟩, seen, rendering, h => by
    rw [renderAfter] at h
    obtain ⟨first, hfirst, h⟩ := exists_of_bind_eq_ok h
    obtain ⟨rest, hrest, h⟩ := exists_of_bind_eq_ok h
    obtain rfl := Except.ok.inj h
    obtain ⟨hown, hnames⟩ := Contents.duplicates_render hfirst
    unfold Rendering.seenAfter at hrest
    rw [hnames] at hrest
    obtain ⟨hothers, hmore⟩ := duplicates_renderAllAfter includes _ rest hrest
    rw [preorder, reports, List.flatMap_cons, ← hown, ← hothers, ← hnames, ← hmore,
      ← List.filter_append, ← Rendering.emittedNames_append]
    exact ⟨rfl, rfl⟩

theorem duplicates_renderAllAfter {keys : KeyLibrary} :
    ∀ (documents : List Document) (seen : Order.TextSet) (rendering : Rendering),
      renderAllAfter keys seen documents = .ok rendering →
        rendering.warnings.filter Warning.isDuplicateHosts = reports seen (preorderAll documents) ∧
          Rendering.emittedNames rendering.stanzas =
            (preorderAll documents).flatMap Contents.names
  | [], seen, rendering, h => by
    rw [renderAllAfter] at h
    obtain rfl := Except.ok.inj h
    exact ⟨rfl, rfl⟩
  | document :: rest, seen, rendering, h => by
    rw [renderAllAfter] at h
    obtain ⟨first, hfirst, h⟩ := exists_of_bind_eq_ok h
    obtain ⟨others, hothers, h⟩ := exists_of_bind_eq_ok h
    obtain rfl := Except.ok.inj h
    obtain ⟨hdocument, hnames⟩ := duplicates_renderAfter document seen first hfirst
    unfold Rendering.seenAfter at hothers
    rw [hnames] at hothers
    obtain ⟨hrest, hmore⟩ := duplicates_renderAllAfter rest _ others hothers
    rw [preorderAll, reports_append, List.flatMap_append, ← hdocument, ← hrest, ← hnames, ← hmore,
      ← List.filter_append, ← Rendering.emittedNames_append]
    exact ⟨rfl, rfl⟩

end

/-- All names that a tree emits, in order, each with the place of its document in preorder. -/
def emissions (document : Document) : List Emission := emissionsFrom 0 document.preorder

/-- **Names that come again are reported, each document's own, and once.** Whatever is read, with
    whatever it includes, and rendered: no stanza is left out because of its name. The documents
    that emit a name again, after any document or themselves, are reported in preorder, once each,
    and no other; the report names, in order and once each, the names of which the document has an
    emission that is not the first. And the host names of the rendering are the names emitted, in
    order and once each; those without the characters of a pattern complete a command line. -/
theorem duplicate_hosts_are_reported {out : Outside} {locator text : String} {document : Document}
    (hread : ReadAs out locator text document) {keys : KeyLibrary} {rendering : Rendering}
    (h : document.render keys = .ok rendering) :
    rendering.stanzas = document.flattening keys ∧
      Rendering.emittedNames rendering.stanzas = document.emissions.map Prod.snd ∧
      rendering.warnings.filter Warning.isDuplicateHosts =
        document.preorder.zipIdx.filterMap (duplicateReport document.emissions) ∧
      (∀ i name, name ∈ repeatsAt document.emissions i ↔
        ∃ p q j : Nat, q < p ∧ document.emissions[p]? = some (i, name) ∧
          document.emissions[q]? = some (j, name)) ∧
      (∀ i, (repeatsAt document.emissions i).Pairwise fun a b => a < b) ∧
      (rendering.hostNames.Pairwise fun a b => a < b) ∧
      (∀ name, name ∈ rendering.hostNames ↔ name ∈ document.emissions.map Prod.snd) ∧
      rendering.completionNames.Sublist rendering.hostNames ∧
      ∀ name, name ∈ rendering.completionNames ↔
        name ∈ rendering.hostNames ∧ ∀ c ∈ name.toList, c ∉ [',', '!', '*', '?'] := by
  obtain ⟨hduplicates, hnames⟩ := duplicates_renderAfter document ∅ rendering h
  have hemitted : Rendering.emittedNames rendering.stanzas = document.emissions.map Prod.snd := by
    rw [hnames]
    exact (map_snd_emissionsFrom 0 document.preorder).symm
  have hsorted : ∀ texts, (Order.sortedTexts texts).Pairwise fun a b => a < b := fun texts =>
    (Order.pairwise_sortedTexts texts).imp fun h => compare_lt_iff_lt.1 h
  refine ⟨stanzas_of_marked (marked_of_readAs hread) h, hemitted, ?_,
    fun i name => mem_repeatsAt_iff_earlier, fun i => hsorted _, hsorted _, fun name => ?_,
    List.filter_sublist, fun name => ?_⟩
  · have hnone : ∀ name, name ∈ (∅ : Order.TextSet) ↔
        name ∈ ([] : List Contents).flatMap Contents.names := by
      simp
    rw [hduplicates]
    exact @reports_eq [] document.preorder ∅ hnone
  · rw [← hemitted]
    exact Order.mem_sortedTexts
  · unfold Rendering.completionNames Rendering.isPattern
    rw [List.mem_filter]
    simp

def echoText : String := "Host far\n@include /more far\n@include /more far"

def echoStart : Contents :=
  { Contents.start "echo" false .empty with sections := [⟨"far", .host [], [], [], []⟩] }

/-- A document that includes another one twice, and has a host of the same name as that. -/
def echoDocument : Document := ⟨echoStart, [harbourChild, harbourChild]⟩

theorem readAs_echo : ReadAs harbour.outside "echo" echoText echoDocument := by
  have hlines : Text.lines echoText =
      ["Host far", "@include /more far", "@include /more far"] := by
    cbv
  have hopen : ∀ line, openInclude harbour.outside ["echo"] echoStart line "/more" ["far"] =
      ⟨[.path "/more"], .ok ⟨"/more", .start "/more" true .empty, ["far"],
        "@args name\nHost <name>\nPort 1"⟩⟩ := by
    intro line
    have hresolve : echoStart.resolve "/more" = "/more" := by cbv
    have hargs : ["far"].map echoStart.resolve = ["far"] := by cbv
    have hs : harbour.outside.classify (echoStart.resolve "/more") =
        .ok (.path "/more") := by
      rw [hresolve]
      cbv
    rw [openInclude_of_answer hs (by decide) rfl, hresolve, hargs]
    rfl
  have hread : Directive.read "@include /more far" = .ok (.includes "/more" ["far"]) := by cbv
  have hhost : (Contents.start "echo" false .empty).obey none (.host "far") = .ok echoStart := rfl
  have htop : topText harbour.outside "echo" = "echo" := by cbv
  refine ⟨2, ?_⟩
  unfold readWithin
  rw [htop, hlines,
    readLines_of_obey (by cbv) (by cbv : _ = Except.ok (.host "far")) (by simp) hhost,
    readLines_of_include (by cbv) hread (hopen 2) (readWithin_harbour 0 _),
    readLines_of_include (by cbv) hread (hopen 3) (readWithin_harbour 0 _)]
  rfl

theorem echo_is_reported :
    ReadAs harbour.outside "echo" echoText echoDocument ∧
      ∃ rendering, echoDocument.render (.empty "") = .ok rendering ∧
        rendering.warnings.filter Warning.isDuplicateHosts =
          [.duplicateHosts "/more" ["far"], .duplicateHosts "/more" ["far"]] := by
  have htop : echoStart.Expands (.empty "") := by
    have hstanzas : (echoStart.allStanzas (.empty "")).outcome =
        .ok [⟨some "far", ["Host = far"]⟩] := by
      decide +kernel
    exact Contents.expands_of_eq_ok (by cbv : _ = Except.ok []) hstanzas
  have hchild : harbourChild.contents.Expands (.empty "") := by
    have hstanzas : (harbourChild.contents.allStanzas (.empty "")).outcome =
        .ok [⟨some "far", ["Host = far", "    Port = 1"]⟩] := by
      decide +kernel
    exact Contents.expands_of_eq_ok (by cbv : _ = Except.ok []) hstanzas
  have hall : ∀ own ∈ echoDocument.preorder, own.Expands (.empty "") := by
    intro own hown
    have hmem : own ∈ [echoStart, harbourChild.contents, harbourChild.contents] := hown
    simp only [List.mem_cons, List.not_mem_nil, or_false] at hmem
    rcases hmem with rfl | rfl | rfl
    · exact htop
    · exact hchild
    · exact hchild
  obtain ⟨rendering, hrender⟩ := exists_renderAfter_eq_ok echoDocument ∅ hall
  obtain ⟨-, -, hreports, -⟩ := duplicate_hosts_are_reported readAs_echo hrender
  refine ⟨readAs_echo, rendering, hrender, ?_⟩
  rw [hreports]
  decide +kernel

end Document
end SshTemplate
