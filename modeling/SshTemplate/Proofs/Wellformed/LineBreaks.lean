import SshTemplate.Proofs.Sections.Filing
import SshTemplate.Proofs.Wellformed.Documents

/-!
# `Proofs.Wellformed.LineBreaks` — no text of a document holds a line break

The lines of a text are what stands between its line breaks, so nothing that is read from one line
can hold one. What a document holds is written in one line, or comes of filling such a text with
values, and a value holds no line break either (`IsValue`). This does not follow from
`Contents.WellFormed`: that leaves open what the name of a section and a sole argument hold.

No second induction over reading is needed. The contents of a text are its directives laid out
(`Contents.Filed`), so it is enough to know each directive behind its place in the text
(`isUnbroken_resolvedAll`).
-/

set_option autoImplicit false

namespace SshTemplate

open Text
open Template (Variables substituteBound)
open Directive (resolvedAll sectionsOf)

/-! ## Texts and lines -/

/-- A text without a line break. -/
def IsUnbroken (text : String) : Prop := '\n' ∉ text.toList

instance (text : String) : Decidable (IsUnbroken text) :=
  inferInstanceAs (Decidable ('\n' ∉ text.toList))

theorem IsUnbroken.append {front back : String} (hfront : IsUnbroken front)
    (hback : IsUnbroken back) : IsUnbroken (front ++ back) := by
  unfold IsUnbroken at *
  rw [String.toList_append, List.mem_append]
  exact not_or.2 ⟨hfront, hback⟩

theorem IsUnbroken.ofList {chars : List Char} {raw : String} (hraw : IsUnbroken raw)
    (hchars : ∀ c ∈ chars, c ∈ raw.toList) : IsUnbroken (String.ofList chars) := by
  unfold IsUnbroken
  rw [String.toList_ofList]
  exact fun hmem => hraw (hchars _ hmem)

theorem IsUnbroken.substituteBound {text : String} {bindings : Variables} (htext : IsUnbroken text)
    (hbindings : ∀ value ∈ bindings.values, IsValue value) :
    IsUnbroken (substituteBound bindings.get? text) := by
  intro hmem
  rw [Template.toList_substituteBound] at hmem
  rcases Template.mem_replaced hmem with hmem | ⟨span, value, -, hvalue, hmem⟩
  · exact htext hmem
  · exact (isValue_of_get? hbindings _ value hvalue).noBreak hmem

/-- Quoting for a shell breaks no line. -/
theorem IsUnbroken.quote {text : String} (h : IsUnbroken text) : IsUnbroken (Shell.quote text) := by
  unfold Shell.quote
  split
  · decide
  · split
    · exact h
    · unfold IsUnbroken
      rw [String.toList_ofList]
      simp only [List.mem_append, List.mem_singleton, List.mem_flatMap, not_or, not_exists, not_and]
      refine ⟨⟨by decide, fun c hc hquoted => ?_⟩, by decide⟩
      unfold Shell.quoteChar at hquoted
      split at hquoted
      · exact absurd hquoted (by decide)
      · exact h (List.mem_singleton.1 hquoted ▸ hc)

/-- A line of which no part holds a line break. -/
structure Line.IsUnbroken (line : Line) : Prop where
  keyword : SshTemplate.IsUnbroken line.keyword
  args : ∀ arg ∈ line.args, SshTemplate.IsUnbroken arg

namespace Line

/-- What is read from a raw line is in the raw line. -/
theorem isUnbroken_of_read {raw : String} {line : Line} (h : read raw = .ok line)
    (hraw : SshTemplate.IsUnbroken raw) : line.IsUnbroken := by
  cases form_of_read h with
  | @sole keyword value cut first =>
    have hpart : ∀ d ∈ keyword ++ '=' :: value, d ∈ raw.toList := fun d hd =>
      mem_of_mem_trim (cut ▸ hd)
    refine ⟨hraw.ofList fun d hd => hpart d ?_, fun arg harg => ?_⟩
    · exact List.mem_append_left _ (mem_of_mem_trimEnd hd)
    · rw [List.mem_singleton.1 harg]
      refine hraw.ofList fun d hd => hpart d ?_
      exact List.mem_append_right _ (List.mem_cons_of_mem _ (mem_of_mem_trimStart hd))
  | @several keyword arguments args noEquals word hread =>
    have hparts : ∀ d, d ∈ keyword ∨ d ∈ arguments → d ∈ raw.toList := by
      intro d hd
      refine mem_of_mem_trim ?_
      cases hcut : cutFirst? isBlank (trim raw.toList) with
      | none =>
        rw [hcut] at word
        obtain ⟨rfl, rfl⟩ := Prod.mk.inj word
        exact hd.resolve_right List.not_mem_nil
      | some cut =>
        obtain ⟨c, -, hsplit, -⟩ := eq_append_of_cutFirst? hcut
        rw [hcut] at word
        obtain rfl : cut = (keyword, arguments) := word
        rw [hsplit]
        exact List.mem_append.2 (hd.imp_right (List.mem_cons_of_mem _))
    refine ⟨hraw.ofList fun d hd => hparts d (Or.inl hd), fun arg harg hbreak => ?_⟩
    have hmade := madeOf_readArguments hread List.not_mem_nil arg harg
    exact hraw (hparts _ (Or.inr (mem_of_mem_trim (hmade.subset _ hbreak))))

theorem IsUnbroken.written {line : Line} (h : line.IsUnbroken) {indent : String}
    (hindent : SshTemplate.IsUnbroken indent) : SshTemplate.IsUnbroken (line.written indent) := by
  have hfront := hindent.append h.keyword
  unfold Line.written
  split
  · next arg harg =>
    have hequals : SshTemplate.IsUnbroken " = " := by decide
    exact (hfront.append hequals).append (h.args arg (by simp [harg]))
  · refine hfront.append fun hmem => ?_
    rw [String.toList_join, List.mem_flatMap] at hmem
    obtain ⟨text, htext, hmem⟩ := hmem
    obtain ⟨arg, harg, rfl⟩ := List.mem_map.1 htext
    rw [String.toList_append] at hmem
    rcases List.mem_append.1 hmem with hmem | hmem
    · exact absurd hmem (by decide)
    · exact h.args arg harg hmem

end Line

/-! ## Directives -/

namespace Directive

/-- What a directive brings into a section holds no line break. -/
def IsUnbroken : Directive → Prop
  | host name | hostAttrs name => SshTemplate.IsUnbroken name
  | via gateway => SshTemplate.IsUnbroken gateway
  | literal line => line.IsUnbroken
  | _ => True

variable {directive : Directive} {directives : List Directive} {bindings : Variables}
variable {supplied : Option (List String)}

theorem isUnbroken_of_ofLine {line : Line} (h : ofLine line = .ok directive)
    (hline : line.IsUnbroken) : directive.IsUnbroken := by
  cases form_of_ofLine h with
  | host name => exact hline.args name (List.mem_singleton_self name)
  | hostAttrs name => exact hline.args name (List.mem_singleton_self name)
  | via gateway => exact hline.args gateway (List.mem_singleton_self gateway)
  | literal => exact hline
  | _ => trivial

theorem IsUnbroken.resolved (h : directive.IsUnbroken)
    (hbindings : ∀ value ∈ bindings.values, IsValue value) :
    (directive.resolved bindings).IsUnbroken := by
  cases directive with
  | via gateway => exact SshTemplate.IsUnbroken.substituteBound h hbindings
  | _ => exact h

/-- **No directive of a text holds a line break**, its variables replaced. -/
theorem isUnbroken_resolvedAll (hsupplied : SuppliesValues supplied)
    (hdirectives : ∀ d ∈ directives, d.WellFormed ∧ d.IsUnbroken)
    (hbindings : ∀ value ∈ bindings.values, IsValue value) :
    ∀ d ∈ resolvedAll supplied bindings directives, d.IsUnbroken := by
  induction directives generalizing bindings with
  | nil => exact fun d hd => absurd hd (by simp [resolvedAll])
  | cons first rest ih =>
    obtain ⟨⟨hfirst, hunbroken⟩, hrest⟩ := List.forall_mem_cons.1 hdirectives
    rw [resolvedAll]
    refine List.forall_mem_cons.2 ⟨hunbroken.resolved hbindings, ih hrest ?_⟩
    exact (hfirst.resolved hbindings).bind hsupplied hbindings

theorem IsUnbroken.line? {line : Line} (h : directive.IsUnbroken)
    (hline : directive.line? = some line) : line.IsUnbroken := by
  cases directive with
  | literal line =>
    obtain rfl := Option.some.inj hline
    exact h
  | via gateway =>
    obtain rfl := Option.some.inj hline
    have hkeyword : SshTemplate.IsUnbroken "ProxyCommand" := by decide
    have hfront : SshTemplate.IsUnbroken "ssh " := by decide
    have hback : SshTemplate.IsUnbroken " nc %h %p 2> /dev/null" := by decide
    have hcommand := (hfront.append (SshTemplate.IsUnbroken.quote h)).append hback
    exact ⟨hkeyword, fun arg harg => List.mem_singleton.1 harg ▸ hcommand⟩
  | _ => cases hline

/-- Every section was opened by a directive that names it. -/
theorem isUnbroken_name_of_mem_sectionsOf {before : List Directive} {s : Section}
    (hdirectives : ∀ d ∈ directives, d.IsUnbroken) (hs : s ∈ sectionsOf before directives) :
    SshTemplate.IsUnbroken s.name := by
  induction directives generalizing before with
  | nil => exact absurd hs (by simp [sectionsOf])
  | cons d rest ih =>
    obtain ⟨hd, hrest⟩ := List.forall_mem_cons.1 hdirectives
    rw [sectionsOf] at hs
    rcases List.mem_append.1 hs with hs | hs
    · cases d with
      | host name =>
        obtain rfl := List.mem_singleton.1 hs
        exact hd
      | hostAttrs name =>
        obtain rfl := List.mem_singleton.1 hs
        exact hd
      | _ => exact absurd hs (by simp [toSection?])
    · exact ih hrest hs

theorem isUnbroken_of_mem_ofText {text : String} (h : directive ∈ ofText text) :
    directive.WellFormed ∧ directive.IsUnbroken := by
  obtain ⟨raw, hraw, hdirective⟩ := List.mem_filterMap.1 h
  obtain ⟨hremark, hread⟩ := ofRaw?_eq_some_iff.1 hdirective
  have hbreak := Document.not_mem_of_mem_lines hraw
  obtain ⟨line, hline, hofLine⟩ := exists_of_bind_eq_ok hread
  exact ⟨Document.wellFormed_of_raw hremark hread hbreak,
    isUnbroken_of_ofLine hofLine (Line.isUnbroken_of_read hline hbreak)⟩

end Directive

/-! ## Contents -/

/-- No name of a section and no line holds a line break. -/
structure Contents.IsUnbroken (own : Contents) : Prop where
  root : ∀ line ∈ own.root.lines, line.IsUnbroken
  names : ∀ s ∈ own.sections, SshTemplate.IsUnbroken s.name
  lines : ∀ s ∈ own.sections, ∀ line ∈ s.lines, line.IsUnbroken

theorem Contents.Filed.isUnbroken {own : Contents} {directives : List Directive}
    (h : Filed directives own) (hdirectives : ∀ d ∈ directives, d.IsUnbroken) :
    own.IsUnbroken := by
  have hline : ∀ line ∈ own.root.lines ++ own.sections.flatMap Section.lines,
      line.IsUnbroken := by
    intro line hmem
    rw [h.complete.lines] at hmem
    obtain ⟨d, hd, hline⟩ := List.mem_filterMap.1 hmem
    exact (hdirectives d hd).line? hline
  refine ⟨fun line hmem => hline line (List.mem_append_left _ hmem), fun s hs => ?_,
    fun s hs line hmem => hline line (List.mem_append_right _ (List.mem_flatMap.2 ⟨s, hs, hmem⟩))⟩
  rw [h.sections] at hs
  exact Directive.isUnbroken_name_of_mem_sectionsOf hdirectives hs

namespace Document

variable {out : Outside} {account : Account}

theorem Account.Sound.isUnbroken (h : account.Sound out) :
    account.document.contents.IsUnbroken := by
  obtain ⟨locator, included, keys, hstart⟩ := h.fresh
  obtain ⟨chain, hread⟩ := h.read
  obtain ⟨-, hobey⟩ := obeyAll_of_readFrom hread
  rw [hstart] at hobey
  have hvalues := (wellFormed_start locator included keys).values
  refine (Contents.filed_of_obeyAll (Contents.filed_start locator included keys) hobey).isUnbroken ?_
  rw [List.nil_append]
  exact Directive.isUnbroken_resolvedAll h.supplies
    (fun d hd => Directive.isUnbroken_of_mem_ofText hd) hvalues

/-- **No document of a tree that has been read holds a line break** in a name or in a line. -/
theorem isUnbroken_of_readAs {locator text : String} {document : Document}
    (h : ReadAs out locator text document) : ∀ own ∈ document.preorder, own.IsUnbroken := by
  intro own hown
  obtain ⟨account, hinside, rfl⟩ := exists_inside document h own hown
  exact (hinside.sound (sound_of_readAs h)).isUnbroken

end Document
end SshTemplate
