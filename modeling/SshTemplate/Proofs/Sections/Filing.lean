import SshTemplate.Proofs.Sections.Effects

/-!
# `Proofs.Sections.Filing` — where the lines of a text end up

Reading changes the section that was opened last, line by line. What the sections hold in the end is
said here without reading: the directives of the text are laid out in a row, their variables
replaced, and a directive that opens a section makes one out of the directives behind it, up to the
next that opens one — its `stretch`. The declarations of a host are those before it, back to the
host before (`sinceHost`).

One more directive at the end changes this layout as entering it changes the contents
(`Filed.step`), so it holds of every text by induction over its directives. That no directive is
lost, and none is filed twice, are then statements about the layout alone (`flatMap_sectionsOf`).
-/

set_option autoImplicit false

namespace SshTemplate
namespace Directive

/-- The directives up to the first that opens a section. -/
def stretch (directives : List Directive) : List Directive :=
  directives.takeWhile fun directive => !directive.opens

/-- The declarations behind the last host. -/
def sinceHost (directives : List Directive) : List TemplateVariable :=
  (directives.rtakeWhile fun directive => !directive.isHost).filterMap declared?

/-- The section that a directive opens, by the declarations before it and the stretch behind it. -/
def toSection? (declarations : List TemplateVariable) (body : List Directive) :
    Directive → Option Section
  | host name => some ((Section.opened name (.host declarations)).addAll body)
  | hostAttrs name => some ((Section.opened name .bundle).addAll body)
  | _ => none

/-- The sections that some directives open, behind some others. -/
def sectionsOf (before : List Directive) : List Directive → List Section
  | [] => []
  | directive :: rest =>
    (directive.toSection? (sinceHost before) (stretch rest)).toList ++
      sectionsOf (before ++ [directive]) rest

variable {before directives : List Directive} {directive : Directive}

theorem toSection?_of_not_opens {declarations : List TemplateVariable} {body : List Directive}
    (h : directive.opens = false) : directive.toSection? declarations body = none := by
  cases directive with
  | host name => cases h
  | hostAttrs name => cases h
  | _ => rfl

theorem exists_toSection?_of_opens (h : directive.opens = true) :
    ∃ opened : List TemplateVariable → Section, ∀ declarations body,
      directive.toSection? declarations body = some ((opened declarations).addAll body) := by
  cases directive with
  | host name => exact ⟨fun declarations => .opened name (.host declarations), fun _ _ => rfl⟩
  | hostAttrs name => exact ⟨fun _ => .opened name .bundle, fun _ _ => rfl⟩
  | _ => cases h

/-! ## Stretches -/

theorem stretch_concat_of_none (h : ∀ d ∈ directives, d.opens = false)
    (hd : directive.opens = false) :
    stretch (directives ++ [directive]) = stretch directives ++ [directive] := by
  have hself : stretch directives = directives :=
    List.takeWhile_eq_self_iff.2 fun d hmem => by simp [h d hmem]
  unfold stretch at hself ⊢
  rw [List.takeWhile_append, hself]
  simp [hd]

theorem stretch_append_of_mem {opening : Directive} (h : opening ∈ directives)
    (hopens : opening.opens = true) (rest : List Directive) :
    stretch (directives ++ rest) = stretch directives := by
  have hshorter : (directives.takeWhile fun d => !d.opens).length ≠ directives.length := by
    intro hlength
    have hself := (List.takeWhile_sublist (l := directives) fun d => !d.opens).eq_of_length hlength
    have hclosed := List.takeWhile_eq_self_iff.1 hself opening h
    simp [hopens] at hclosed
  unfold stretch
  rw [List.takeWhile_append, if_neg hshorter]

theorem stretch_concat_of_opens (hd : directive.opens = true) :
    stretch (directives ++ [directive]) = stretch directives := by
  unfold stretch
  rw [List.takeWhile_append]
  split
  · next hlength =>
    have hself := (List.takeWhile_sublist (l := directives) fun d => !d.opens).eq_of_length hlength
    simp [hd, hself]
  · rfl

theorem sinceHost_concat_of_host (name : String) :
    sinceHost (directives ++ [.host name]) = [] := by
  unfold sinceHost
  rw [List.rtakeWhile_concat_neg _ _ _ (by simp [isHost])]
  rfl

theorem sinceHost_concat (hd : directive.isHost = false) :
    sinceHost (directives ++ [directive]) = sinceHost directives ++ directive.declared?.toList := by
  unfold sinceHost
  rw [List.rtakeWhile_concat_pos _ _ _ (by simp [hd]), List.filterMap_append, filterMap_cons,
    List.filterMap_nil, List.append_nil]

/-! ## One more directive -/

theorem sectionsOf_eq_nil_iff :
    sectionsOf before directives = [] ↔ ∀ d ∈ directives, d.opens = false := by
  induction directives generalizing before with
  | nil => simp [sectionsOf]
  | cons d rest ih =>
    cases hd : d.opens with
    | true =>
      obtain ⟨opened, hsection⟩ := exists_toSection?_of_opens hd
      simp [sectionsOf, hsection, hd]
    | false => simp [sectionsOf, toSection?_of_not_opens hd, hd, ih]

/-- A directive at the end that opens a section adds the section. -/
theorem sectionsOf_concat_of_opens (hd : directive.opens = true) :
    sectionsOf before (directives ++ [directive]) = sectionsOf before directives ++
      (directive.toSection? (sinceHost (before ++ directives)) []).toList := by
  induction directives generalizing before with
  | nil => simp [sectionsOf, stretch]
  | cons d rest ih =>
    rw [List.cons_append, sectionsOf, sectionsOf, ih, stretch_concat_of_opens hd]
    simp

/-- A directive at the end that opens none is filed in the last section. -/
theorem sectionsOf_concat (hd : directive.opens = false) {front : List Section} {last : Section}
    (h : sectionsOf before directives = front ++ [last]) :
    sectionsOf before (directives ++ [directive]) = front ++ [last.addAll [directive]] := by
  induction directives generalizing before front with
  | nil => simp [sectionsOf] at h
  | cons d rest ih =>
    rw [List.cons_append, sectionsOf]
    rw [sectionsOf] at h
    by_cases hrest : ∀ x ∈ rest, x.opens = false
    · -- The first directive opens the only section, and all the others belong to it.
      have hnone : sectionsOf (before ++ [d]) rest = [] := sectionsOf_eq_nil_iff.2 hrest
      have hnone' : sectionsOf (before ++ [d]) (rest ++ [directive]) = [] := by
        refine sectionsOf_eq_nil_iff.2 fun x hx => ?_
        rcases List.mem_append.1 hx with hx | hx
        · exact hrest x hx
        · rw [List.mem_singleton.1 hx, hd]
      rw [hnone, List.append_nil] at h
      rw [hnone', List.append_nil, stretch_concat_of_none hrest hd]
      cases hopens : d.opens with
      | false =>
        rw [toSection?_of_not_opens hopens] at h
        exact absurd h (by simp)
      | true =>
        obtain ⟨opened, hsection⟩ := exists_toSection?_of_opens hopens
        rw [hsection, Option.toList_some] at h
        rw [← List.nil_append [_]] at h
        obtain ⟨hfront, hlast⟩ := List.append_inj' h rfl
        obtain rfl := List.singleton_injective hlast
        rw [hsection, Option.toList_some, Section.addAll_append, ← hfront]
        rfl
    · -- The last section is one that is opened further on.
      push Not at hrest
      obtain ⟨x, hx, hopens⟩ := hrest
      rw [ne_eq, Bool.not_eq_false] at hopens
      have hne : sectionsOf (before ++ [d]) rest ≠ [] := by
        intro hnil
        have hclosed := sectionsOf_eq_nil_iff.1 hnil x hx
        rw [hopens] at hclosed
        cases hclosed
      obtain ⟨inner, last', hinner⟩ := (List.eq_nil_or_concat' _).resolve_left hne
      rw [hinner, ← List.append_assoc] at h
      obtain ⟨hfront, hlast⟩ := List.append_inj' h rfl
      obtain rfl := List.singleton_injective hlast
      rw [ih hinner, stretch_append_of_mem hx hopens, ← List.append_assoc, hfront]

/-! ## Nothing is lost, nothing is filed twice -/

theorem length_sectionsOf :
    (sectionsOf before directives).length = (directives.filter opens).length := by
  induction directives generalizing before with
  | nil => rfl
  | cons d rest ih =>
    cases hd : d.opens with
    | true =>
      obtain ⟨opened, hsection⟩ := exists_toSection?_of_opens hd
      simp only [sectionsOf, hsection, Option.toList_some, List.singleton_append, List.length_cons,
        ih, List.filter_cons_of_pos hd]
    | false =>
      rw [sectionsOf, toSection?_of_not_opens hd, Option.toList_none, List.nil_append, ih,
        List.filter_cons_of_neg (by simp [hd])]

/-- The sections stand in the order of the directives that open them. -/
theorem getElem?_sectionsOf (front : List Directive) (hd : directive.opens = true)
    (back : List Directive) :
    (sectionsOf before (front ++ directive :: back))[(front.filter opens).length]? =
      directive.toSection? (sinceHost (before ++ front)) (stretch back) := by
  induction front generalizing before with
  | nil =>
    obtain ⟨opened, hsection⟩ := exists_toSection?_of_opens hd
    simp [sectionsOf, hsection]
  | cons d rest ih =>
    rw [List.cons_append, sectionsOf]
    cases hopens : d.opens with
    | true =>
      obtain ⟨opened, hsection⟩ := exists_toSection?_of_opens hopens
      rw [hsection, List.filter_cons_of_pos hopens, Option.toList_some, List.singleton_append,
        List.length_cons, List.getElem?_cons_succ, ih, List.append_assoc]
      rfl
    | false =>
      rw [toSection?_of_not_opens hopens, List.filter_cons_of_neg (by simp [hopens]),
        Option.toList_none, List.nil_append, ih, List.append_assoc]
      rfl

/-- What the sections hold of one sort, with what stands before the first of them, is everything of
    that sort in the order of the text. -/
theorem flatMap_sectionsOf {α : Type} {held : Section → List α} {sort : Directive → Option α}
    (hadd : ∀ s body, held (Section.addAll s body) = held s ++ body.filterMap sort)
    (hopened : ∀ name kind, held (.opened name kind) = [])
    (hsort : ∀ d, d.opens = true → sort d = none) :
    (stretch directives).filterMap sort ++ (sectionsOf before directives).flatMap held =
      directives.filterMap sort := by
  induction directives generalizing before with
  | nil => rfl
  | cons d rest ih =>
    cases hd : d.opens with
    | true =>
      have hstretch : stretch (d :: rest) = [] := by simp [stretch, hd]
      have hfirst : (d.toSection? (sinceHost before) (stretch rest)).toList.flatMap held =
          (stretch rest).filterMap sort := by
        cases d with
        | host name => simp [toSection?, hadd, hopened]
        | hostAttrs name => simp [toSection?, hadd, hopened]
        | _ => cases hd
      rw [hstretch, List.filterMap_nil, List.nil_append, sectionsOf, List.flatMap_append, hfirst,
        ih, filterMap_cons, hsort d hd, Option.toList_none, List.nil_append]
    | false =>
      have hstretch : stretch (d :: rest) = d :: stretch rest := by simp [stretch, hd]
      rw [hstretch, sectionsOf, toSection?_of_not_opens hd, Option.toList_none, List.nil_append,
        filterMap_cons, filterMap_cons, List.append_assoc, ih]

/-- The declarations of the hosts, with those behind the last host, are all declarations in the
    order of the text: none is lost, and none reaches two hosts. -/
theorem templateVariables_sectionsOf :
    (sectionsOf before directives).flatMap Section.templateVariables ++
        sinceHost (before ++ directives) =
      sinceHost before ++ directives.filterMap declared? := by
  induction directives generalizing before with
  | nil => simp [sectionsOf]
  | cons d rest ih =>
    have hbehind : (sectionsOf (before ++ [d]) rest).flatMap Section.templateVariables ++
        sinceHost (before ++ d :: rest) =
          sinceHost (before ++ [d]) ++ rest.filterMap declared? := by
      rw [← ih, List.append_assoc, List.singleton_append]
    rw [sectionsOf, List.flatMap_append, List.append_assoc, hbehind, filterMap_cons]
    cases d with
    | host name =>
      rw [sinceHost_concat_of_host]
      simp [toSection?, Section.addAll, Section.opened, Section.templateVariables, declared?]
    | hostAttrs name =>
      rw [sinceHost_concat rfl]
      simp [toSection?, Section.addAll, Section.opened, Section.templateVariables, declared?]
    | _ =>
      rw [sinceHost_concat rfl]
      simp [toSection?, declared?]

end Directive

/-! ## The contents of a text -/

open Directive (stretch sinceHost sectionsOf resolvedAll)

namespace Contents

variable {supplied : Option (List String)} {own later : Contents}
variable {directives : List Directive} {directive : Directive}

/-- The sections of the contents are those that the directives are laid out in. -/
structure Filed (directives : List Directive) (own : Contents) : Prop where
  root : own.root = (Section.opened "Root" .root).addAll (stretch directives)
  /-- No section is inherited before the first is opened. -/
  rootParents : own.root.parents = []
  sections : own.sections = sectionsOf [] directives
  pending : own.pending = sinceHost directives
  /-- No declaration waits where a bundle is opened. -/
  bundles : ∀ before name after, directives = before ++ .hostAttrs name :: after →
    sinceHost before = []

theorem Filed.bundles_concat (h : Filed directives own)
    (hd : ∀ name, directive = .hostAttrs name → sinceHost directives = [])
    (before : List Directive) (name : String) (after : List Directive)
    (hsplit : directives ++ [directive] = before ++ .hostAttrs name :: after) :
    sinceHost before = [] := by
  rcases List.eq_nil_or_concat' after with rfl | ⟨inner, last, rfl⟩
  · obtain ⟨rfl, hlast⟩ := List.append_inj' hsplit rfl
    exact hd name (List.singleton_injective hlast)
  · rw [← List.cons_append, ← List.append_assoc] at hsplit
    obtain ⟨hfront, -⟩ := List.append_inj' hsplit rfl
    exact h.bundles before name inner hfront

theorem Filed.step_of_opens (h : Filed directives own) (hadmits : own.Admits supplied directive)
    (hopens : directive.opens = true) :
    Filed (directives ++ [directive]) (own.enter supplied directive) := by
  have hstretch : stretch (directives ++ [directive]) = stretch directives :=
    Directive.stretch_concat_of_opens hopens
  have hsections : sectionsOf [] (directives ++ [directive]) =
      own.sections ++ (directive.toSection? own.pending []).toList := by
    rw [Directive.sectionsOf_concat_of_opens hopens, List.nil_append, h.sections, h.pending]
  cases directive with
  | host name =>
    refine ⟨hstretch ▸ h.root, h.rootParents, ?_, ?_, h.bundles_concat (by simp)⟩
    · rw [hsections, Directive.toSection?, Section.addAll_nil]
      rfl
    · rw [Directive.sinceHost_concat_of_host]
      rfl
  | hostAttrs name =>
    have hnone : sinceHost directives = [] := h.pending ▸ hadmits
    refine ⟨hstretch ▸ h.root, h.rootParents, ?_, ?_, h.bundles_concat fun _ _ => hnone⟩
    · rw [hsections, Directive.toSection?, Section.addAll_nil]
      rfl
    · rw [Directive.sinceHost_concat rfl, ← h.pending]
      exact (List.append_nil _).symm
  | _ => cases hopens

/-- What opens no section is added to the root, or to the last section if there is one. -/
theorem Filed.step_of_not_opens (h : Filed directives own)
    (hadmits : own.Admits supplied directive) (hopens : directive.opens = false) :
    Filed (directives ++ [directive]) (own.enter supplied directive) := by
  have hhost : directive.isHost = false := by
    cases directive with
    | host name => cases hopens
    | _ => rfl
  have hbundles := h.bundles_concat fun name (hname : directive = .hostAttrs name) => by
    rw [hname] at hopens
    cases hopens
  rcases List.eq_nil_or_concat' own.sections with hnil | ⟨front, last, hlast⟩
  · have hclosed := Directive.sectionsOf_eq_nil_iff.1 (h.sections ▸ hnil)
    have hparent : directive.parent? = none := by
      cases directive with
      | inherits name => exact absurd hnil hadmits
      | _ => rfl
    rw [enter_of_nil hopens hnil]
    refine ⟨?_, ?_, ?_, ?_, hbundles⟩
    · rw [Directive.stretch_concat_of_none hclosed hopens, Section.addAll_append, ← h.root]
    · simp [Section.addAll, h.rootParents, hparent]
    · show own.sections = _
      rw [hnil, eq_comm, Directive.sectionsOf_eq_nil_iff]
      intro d hd
      rcases List.mem_append.1 hd with hd | hd
      · exact hclosed d hd
      · rw [List.mem_singleton.1 hd, hopens]
    · rw [Directive.sinceHost_concat hhost, ← h.pending]
  · have hopened : ∃ opening ∈ directives, opening.opens = true := by
      by_contra hnone
      push Not at hnone
      have hnil : sectionsOf [] directives = [] :=
        Directive.sectionsOf_eq_nil_iff.2 fun d hd => Bool.eq_false_iff.2 (hnone d hd)
      rw [← h.sections, hlast] at hnil
      exact absurd hnil (by simp)
    obtain ⟨opening, hmem, hopening⟩ := hopened
    rw [enter_of_concat hopens hlast]
    refine ⟨?_, h.rootParents, ?_, ?_, hbundles⟩
    · rw [Directive.stretch_append_of_mem hmem hopening]
      exact h.root
    · rw [Directive.sectionsOf_concat hopens (h.sections ▸ hlast)]
    · rw [Directive.sinceHost_concat hhost, ← h.pending]

/-- **One more directive.** Where it is in place, entering it is laying it out at the end. -/
theorem Filed.step (h : Filed directives own) (hadmits : own.Admits supplied directive) :
    Filed (directives ++ [directive]) (own.enter supplied directive) := by
  cases hopens : directive.opens with
  | true => exact h.step_of_opens hadmits hopens
  | false => exact h.step_of_not_opens hadmits hopens

theorem filed_of_obeyAll {filed : List Directive} (hfiled : Filed filed own)
    (h : own.obeyAll supplied directives = .ok later) :
    Filed (filed ++ resolvedAll supplied own.bindings directives) later := by
  induction directives generalizing own filed with
  | nil =>
    obtain rfl := Except.ok.inj h
    rwa [resolvedAll, List.append_nil]
  | cons directive rest ih =>
    obtain ⟨hadmits, hrest⟩ := exists_of_obeyAll_cons h
    have hall := ih (hfiled.step (admits_resolved.2 hadmits)) hrest
    rwa [bindings_enter, List.append_assoc] at hall

theorem filed_start (locator : String) (included : Bool) (keys : KeyDefinitions) :
    Filed [] (.start locator included keys) :=
  ⟨rfl, rfl, rfl, rfl, fun before name after h => absurd h (by simp)⟩

/-- Every directive is held once, where it stands in the text. -/
structure Complete (directives : List Directive) (own : Contents) : Prop where
  count : own.sections.length = (directives.filter Directive.opens).length
  opened : ∀ before directive after, directives = before ++ directive :: after →
    directive.opens = true → own.sections[(before.filter Directive.opens).length]? =
      directive.toSection? (sinceHost before) (stretch after)
  lines : own.root.lines ++ own.sections.flatMap Section.lines =
    directives.filterMap Directive.line?
  parents : own.sections.flatMap Section.parents = directives.filterMap Directive.parent?
  identities : own.root.identities ++ own.sections.flatMap Section.identities =
    directives.filterMap Directive.identity?
  declarations : own.sections.flatMap Section.templateVariables ++ own.pending =
    directives.filterMap Directive.declared?

theorem Filed.complete (h : Filed directives own) : Complete directives own where
  count := by rw [h.sections, Directive.length_sectionsOf]
  opened := by
    rintro before directive after rfl hopens
    rw [h.sections, Directive.getElem?_sectionsOf before hopens, List.nil_append]
  lines := by
    have hlines : own.root.lines = (stretch directives).filterMap Directive.line? := by
      rw [h.root]
      exact List.nil_append _
    rw [h.sections, hlines]
    refine Directive.flatMap_sectionsOf (fun _ _ => rfl) (fun _ _ => rfl) fun d hd => ?_
    exact Directive.line?_of_ne (by simp [of_decide_eq_true hd])
  parents := by
    have hparents : (stretch directives).filterMap Directive.parent? = [] := by
      have hroot := h.rootParents
      rw [h.root] at hroot
      exact hroot
    rw [h.sections, ← List.nil_append (List.flatMap _ _), ← hparents]
    refine Directive.flatMap_sectionsOf (fun _ _ => rfl) (fun _ _ => rfl) fun d hd => ?_
    exact Directive.parent?_of_ne (by simp [of_decide_eq_true hd])
  identities := by
    have hidentities :
        own.root.identities = (stretch directives).filterMap Directive.identity? := by
      rw [h.root]
      exact List.nil_append _
    rw [h.sections, hidentities]
    refine Directive.flatMap_sectionsOf (fun _ _ => rfl) (fun _ _ => rfl) fun d hd => ?_
    exact Directive.identity?_of_ne (by simp [of_decide_eq_true hd])
  declarations := by
    rw [h.sections, h.pending]
    exact Directive.templateVariables_sectionsOf

end Contents
end SshTemplate
