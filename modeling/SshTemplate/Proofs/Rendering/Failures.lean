import SshTemplate.Proofs.Rendering.Faults

/-!
# `Proofs.Rendering.Failures` — where a rendering fails

A rendering fails exactly if some host is wrong, and the error is that of the first which is
(`FirstError`): the hosts of a document come before everything that it includes. That there is a
rendering if no host is wrong is `exists_renderAfter_eq_ok`, so only the error has to be followed
here, level by level as the stanzas were: a document, the tree.
-/

set_option autoImplicit false

namespace SshTemplate

/-! ## One document -/

/-- A document, one of its hosts, and the place of this host among the sections. -/
abbrev PlacedHost := Contents × Section × Nat

/-- **The error is that of the first host that has a fault.** -/
inductive FirstError (keys : KeyLibrary) (hosts : List PlacedHost) : Error → Prop where
  | intro {before after : List PlacedHost} {own : Contents} {place : Section × Nat}
      {e : Error} (split : hosts = before ++ (own, place) :: after)
      (earlier : ∀ other ∈ before, ¬ other.1.HostFault keys other.2)
      (fault : own.HostFault keys place) (error : own.HostError keys place e) :
      FirstError keys hosts e

namespace FirstError

variable {keys : KeyLibrary} {hosts more : List PlacedHost} {e : Error}

theorem append (h : FirstError keys hosts e) : FirstError keys (hosts ++ more) e := by
  obtain ⟨rfl, earlier, fault, error⟩ := h
  exact .intro (List.append_assoc _ _ _) earlier fault error

theorem behind (h : FirstError keys hosts e)
    (hmore : ∀ other ∈ more, ¬ other.1.HostFault keys other.2) :
    FirstError keys (more ++ hosts) e := by
  obtain ⟨rfl, earlier, fault, error⟩ := h
  have hearlier := List.forall_mem_append.2 ⟨hmore, earlier⟩
  exact .intro (List.append_assoc _ _ _).symm hearlier fault error

/-- It is always one of a section that cannot be resolved. -/
theorem exists_resolve (h : FirstError keys hosts e) :
    ∃ locator name issue, e = .resolve locator name issue := by
  obtain ⟨-, -, -, error⟩ := h
  cases error with
  | reference => exact ⟨_, _, _, rfl⟩
  | domain => exact ⟨_, _, _, rfl⟩
  | span => exact ⟨_, _, _, rfl⟩

theorem exists_hostFault (h : FirstError keys hosts e) :
    ∃ host ∈ hosts, host.1.HostFault keys host.2 := by
  cases h with
  | @intro _ _ own place _ split _ fault _ => exact ⟨(own, place), by simp [split], fault⟩

/-- There is only one, where the hosts are hosts of well-formed documents. -/
theorem unique (hhosts : ∀ host ∈ hosts, host.1.WellFormed ∧ host.2 ∈ host.1.hostPlaces)
    {e' : Error} (h : FirstError keys hosts e) (h' : FirstError keys hosts e') : e = e' := by
  classical
  have hfound : ∀ {before after : List PlacedHost} {host : PlacedHost},
      hosts = before ++ host :: after → (∀ other ∈ before, ¬ other.1.HostFault keys other.2) →
        host.1.HostFault keys host.2 →
          hosts.find? (fun host => decide (host.1.HostFault keys host.2)) = some host := by
    intro before after host hsplit hearlier hfault
    refine List.find?_eq_some_iff_append.2 ⟨by simpa using hfault, before, after, hsplit, ?_⟩
    intro other hother
    simpa using hearlier other hother
  cases h with
  | @intro before after own place _ split earlier fault error =>
    obtain ⟨split', earlier', fault', error'⟩ := h'
    have hsame := (hfound split earlier fault).symm.trans (hfound split' earlier' fault')
    obtain ⟨rfl, rfl⟩ := Prod.mk.inj (Option.some.inj hsame)
    obtain ⟨hown, hplace⟩ := hhosts (own, place) (by simp [split])
    exact error.unique hown hplace error'

end FirstError

namespace Contents

variable {own : Contents} {keys : KeyLibrary} {place : Section × Nat} {seen : Order.TextSet}

/-- The hosts of a document, together with it. -/
def placedHosts (own : Contents) : List PlacedHost := own.hostPlaces.map (own, ·)

theorem expands_of_not_hostFault (hown : own.WellFormed)
    (h : ∀ place ∈ own.hostPlaces, ¬ own.HostFault keys place) : own.Expands keys where
  globals := fun line hline => (hown.root.lines line hline).writeLine_eq_ok ""
  hosts := fun place hplace => hostExpands_of_not_hostFault hown hplace (h place hplace)

theorem not_hostFault_of_expands (h : own.Expands keys) :
    ∀ other ∈ own.placedHosts, ¬ other.1.HostFault keys other.2 := by
  intro other hother
  obtain ⟨place, hplace, rfl⟩ := List.mem_map.1 hother
  exact not_hostFault_of_hostExpands hplace (h.hosts place hplace)

theorem firstError_of_allStanzas (hown : own.WellFormed) {e : Error}
    (h : (own.allStanzas keys).outcome = .error e) : FirstError keys own.placedHosts e := by
  have hparts : ((Logged.forEach (fun place : Section × Nat =>
      own.hostStanzas keys place.2 place.1) own.hostPlaces).bind fun parts =>
        Logged.pure parts.flatten).outcome = .error e := h
  rw [Logged.outcome_bind, Logged.outcome_forEach_eq_mapM] at hparts
  rcases bind_eq_error_iff.1 hparts with hparts | ⟨parts, -, hpure⟩
  · obtain ⟨before, place, after, hsplit, hbefore, hfail⟩ := mapM_eq_error_iff.1 hparts
    have hplace : place ∈ own.hostPlaces := by
      rw [hsplit]
      simp
    have hplaced : own.placedHosts = before.map (own, ·) ++ (own, place) :: after.map (own, ·) := by
      unfold placedHosts
      rw [hsplit, List.map_append, List.map_cons]
    refine .intro hplaced (List.forall_mem_map.2 fun other hother => ?_) ?_
      ((hostStanzas_eq_error_iff hown hplace).1 hfail)
    · have hmem : other ∈ own.hostPlaces := by
        rw [hsplit]
        exact List.mem_append_left _ hother
      obtain ⟨stanzas, hstanzas⟩ := hbefore other hother
      have hexpands := (hostStanzas_eq_ok (section_of_mem_hostPlaces hmem) hstanzas).2
      exact not_hostFault_of_hostExpands hmem hexpands
    · by_contra hnone
      have hexpands := hostExpands_of_not_hostFault hown hplace hnone
      rw [outcome_hostStanzas (section_of_mem_hostPlaces hplace) hexpands] at hfail
      cases hfail
  · cases hpure

/-- **A document fails at the first of its hosts that has a fault.** -/
theorem firstError_of_render (hown : own.WellFormed) {e : Error}
    (h : own.render keys seen = .error e) : FirstError keys own.placedHosts e := by
  rcases bind_eq_error_iff.1 h with hglobals | ⟨globals, -, h⟩
  · obtain ⟨cause, hcause, -⟩ := mapError_eq_error_iff.1 hglobals
    obtain ⟨before, line, after, hsplit, -, hline⟩ := mapM_eq_error_iff.1 hcause
    have hmem : line ∈ own.root.lines := by
      refine (Order.sort_perm Line.le _).mem_iff.1 ?_
      rw [hsplit]
      simp
    rw [(hown.root.lines line hmem).writeLine_eq_ok] at hline
    cases hline
  · rcases bind_eq_error_iff.1 h with hstanzas | ⟨stanzas, -, h⟩
    · exact firstError_of_allStanzas hown hstanzas
    · cases h

end Contents

/-! ## The tree -/

namespace Document

/-- The hosts of a tree in the order in which they are emitted, each with its document. -/
def placedHosts (document : Document) : List PlacedHost :=
  document.preorder.flatMap Contents.placedHosts

theorem mem_placedHosts {document : Document} {host : PlacedHost} :
    host ∈ document.placedHosts ↔ host.1 ∈ document.preorder ∧ host.2 ∈ host.1.hostPlaces := by
  unfold placedHosts Contents.placedHosts
  rw [List.mem_flatMap]
  constructor
  · rintro ⟨own, hown, hplaced⟩
    obtain ⟨place, hplace, rfl⟩ := List.mem_map.1 hplaced
    exact ⟨hown, hplace⟩
  · rintro ⟨hown, hplace⟩
    exact ⟨host.1, hown, List.mem_map_of_mem hplace⟩

mutual

/-- **A tree fails at the first of its hosts that has a fault.** -/
theorem firstError_of_renderAfter {keys : KeyLibrary} :
    ∀ (document : Document) (seen : Order.TextSet) {e : Error},
      (∀ own ∈ document.preorder, own.WellFormed) → document.renderAfter keys seen = .error e →
        FirstError keys (document.preorder.flatMap Contents.placedHosts) e
  | ⟨own, includes⟩, seen, e, hwell, h => by
    rw [preorder] at hwell ⊢
    obtain ⟨hown, hothers⟩ := List.forall_mem_cons.1 hwell
    rw [renderAfter] at h
    rw [List.flatMap_cons]
    rcases bind_eq_error_iff.1 h with hfirst | ⟨first, hfirst, h⟩
    · exact (Contents.firstError_of_render hown hfirst).append
    · rcases bind_eq_error_iff.1 h with hrest | ⟨rest, -, h⟩
      · have hexpands := (Contents.render_eq_ok hfirst).2
        exact (firstError_of_renderAllAfter includes _ hothers hrest).behind
          (Contents.not_hostFault_of_expands hexpands)
      · cases h

theorem firstError_of_renderAllAfter {keys : KeyLibrary} :
    ∀ (documents : List Document) (seen : Order.TextSet) {e : Error},
      (∀ own ∈ preorderAll documents, own.WellFormed) →
        renderAllAfter keys seen documents = .error e →
          FirstError keys ((preorderAll documents).flatMap Contents.placedHosts) e
  | [], seen, e, hwell, h => by
    rw [renderAllAfter] at h
    cases h
  | document :: rest, seen, e, hwell, h => by
    rw [preorderAll] at hwell ⊢
    obtain ⟨hdocument, hothers⟩ := List.forall_mem_append.1 hwell
    rw [renderAllAfter] at h
    rw [List.flatMap_append]
    rcases bind_eq_error_iff.1 h with hfirst | ⟨first, hfirst, h⟩
    · exact (firstError_of_renderAfter document seen hdocument hfirst).append
    · rcases bind_eq_error_iff.1 h with hrest | ⟨others, -, h⟩
      · have hexpands := (stanzas_renderAfter document seen first hfirst).2
        refine (firstError_of_renderAllAfter rest _ hothers hrest).behind fun other hother => ?_
        obtain ⟨own, hown, hplaced⟩ := List.mem_flatMap.1 hother
        exact Contents.not_hostFault_of_expands (hexpands own hown) other hplaced
      · cases h

end

section Render

variable {document : Document} {keys : KeyLibrary}

theorem exists_render_eq_ok_iff (hwell : ∀ own ∈ document.preorder, own.WellFormed) :
    (∃ rendering, document.render keys = .ok rendering) ↔
      ∀ own ∈ document.preorder, ∀ place ∈ own.hostPlaces, ¬ own.HostFault keys place := by
  constructor
  · rintro ⟨rendering, h⟩ own hown place hplace
    have hexpands := (stanzas_renderAfter document ∅ rendering h).2 own hown
    exact Contents.not_hostFault_of_hostExpands hplace (hexpands.hosts place hplace)
  · intro hnone
    refine exists_renderAfter_eq_ok document ∅ fun own hown => ?_
    exact Contents.expands_of_not_hostFault (hwell own hown) (hnone own hown)

theorem render_eq_error_iff (hwell : ∀ own ∈ document.preorder, own.WellFormed) {e : Error} :
    document.render keys = .error e ↔ FirstError keys document.placedHosts e := by
  constructor
  · exact fun h => firstError_of_renderAfter document ∅ hwell h
  · intro h
    cases hrender : document.render keys with
    | ok rendering =>
      obtain ⟨host, hhost, hfault⟩ := h.exists_hostFault
      obtain ⟨hown, hplace⟩ := mem_placedHosts.1 hhost
      have hnone := (exists_render_eq_ok_iff hwell).1 ⟨rendering, hrender⟩ host.1 hown host.2 hplace
      exact absurd hfault hnone
    | error other =>
      have hhosts : ∀ host ∈ document.placedHosts,
          host.1.WellFormed ∧ host.2 ∈ host.1.hostPlaces := by
        intro host hhost
        obtain ⟨hown, hplace⟩ := mem_placedHosts.1 hhost
        exact ⟨hwell host.1 hown, hplace⟩
      rw [(firstError_of_renderAfter document ∅ hwell hrender).unique hhosts h]

end Render

/-- **A rendering fails at the first host that has a fault.** For a document that has been read,
    with whatever it includes: it cannot be rendered if, and only if, some host of some document of
    the tree has a fault; and the error is that of the first of these hosts. A fault that no host
    comes to does not count. -/
theorem render_fails_at_first_fault {out : Outside} {locator text : String} {document : Document}
    (hread : ReadAs out locator text document) (keys : KeyLibrary) :
    ((∃ holder name issue, document.render keys = .error (.resolve holder name issue)) ↔
      ∃ own ∈ document.preorder, ∃ place ∈ own.hostPlaces, own.HostFault keys place) ∧
    ((∃ rendering, document.render keys = .ok rendering) ↔
      ∀ own ∈ document.preorder, ∀ place ∈ own.hostPlaces, ¬ own.HostFault keys place) ∧
    ∀ e, document.render keys = .error e ↔ FirstError keys document.placedHosts e := by
  have hwell := wellFormed_of_readAs hread
  refine ⟨⟨?_, ?_⟩, exists_render_eq_ok_iff hwell, fun e => render_eq_error_iff hwell⟩
  · rintro ⟨holder, name, issue, h⟩
    obtain ⟨host, hhost, hfault⟩ := ((render_eq_error_iff hwell).1 h).exists_hostFault
    obtain ⟨hown, hplace⟩ := mem_placedHosts.1 hhost
    exact ⟨host.1, hown, host.2, hplace, hfault⟩
  · rintro ⟨own, hown, place, hplace, hfault⟩
    cases h : document.render keys with
    | ok rendering =>
      exact absurd hfault ((exists_render_eq_ok_iff hwell).1 ⟨rendering, h⟩ own hown place hplace)
    | error e =>
      obtain ⟨holder, name, issue, rfl⟩ := ((render_eq_error_iff hwell).1 h).exists_resolve
      exact ⟨holder, name, issue, rfl⟩

def reefText : String :=
  "@HostAttrs idle\n@is nowhere\n@HostAttrs base\n@is lost\nHost sound\nHost broken\n@is base"

/-- A host inherits a reference to nothing; another such reference is in a section that no host
    inherits. -/
def reefDocument : Document :=
  ⟨{ Contents.start "reef" false .empty with
    sections := [
      ⟨"idle", .bundle, [], ["nowhere"], []⟩,
      ⟨"base", .bundle, [], ["lost"], []⟩,
      ⟨"sound", .host [], [], [], []⟩,
      ⟨"broken", .host [], [], ["base"], []⟩] }, []⟩

theorem readAs_reef : ReadAs harbour.outside "reef" reefText reefDocument := by
  have hlines : Text.lines reefText = ["@HostAttrs idle", "@is nowhere", "@HostAttrs base",
      "@is lost", "Host sound", "Host broken", "@is base"] := by
    cbv
  refine ⟨1, ?_⟩
  unfold readWithin
  rw [hlines,
    readLines_of_obey (by cbv) (by cbv : _ = Except.ok (.hostAttrs "idle")) (by simp) rfl,
    readLines_of_obey (by cbv) (by cbv : _ = Except.ok (.inherits "nowhere")) (by simp) rfl,
    readLines_of_obey (by cbv) (by cbv : _ = Except.ok (.hostAttrs "base")) (by simp) rfl,
    readLines_of_obey (by cbv) (by cbv : _ = Except.ok (.inherits "lost")) (by simp) rfl,
    readLines_of_obey (by cbv) (by cbv : _ = Except.ok (.host "sound")) (by simp) rfl,
    readLines_of_obey (by cbv) (by cbv : _ = Except.ok (.host "broken")) (by simp) rfl,
    readLines_of_obey (by cbv) (by cbv : _ = Except.ok (.inherits "base")) (by simp) rfl]
  rfl

theorem reef_fails_at_first_fault :
    ReadAs harbour.outside "reef" reefText reefDocument ∧
      reefDocument.render (.empty "") =
        .error (.resolve "reef" "base" (.noSuchSection "lost")) ∧
      FirstError (.empty "") reefDocument.placedHosts
        (.resolve "reef" "base" (.noSuchSection "lost")) ∧
      ∃ own ∈ reefDocument.preorder, ∃ place ∈ own.hostPlaces, own.HostFault (.empty "") place := by
  have hrender : reefDocument.render (.empty "") =
      .error (.resolve "reef" "base" (.noSuchSection "lost")) := by
    unfold render renderAfter Contents.render Contents.allStanzas
    cbv
  obtain ⟨hfails, -, hfirst⟩ := render_fails_at_first_fault readAs_reef (.empty "")
  exact ⟨readAs_reef, hrender, (hfirst _).1 hrender, hfails.1 ⟨_, _, _, hrender⟩⟩

end Document
end SshTemplate
