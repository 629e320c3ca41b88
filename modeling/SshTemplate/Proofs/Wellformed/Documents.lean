import SshTemplate.Proofs.Reading.Scope
import SshTemplate.Proofs.Rendering.Flattening
import SshTemplate.Proofs.Sections.Effects
import SshTemplate.Proofs.Wellformed.Lines

/-!
# `Proofs.Wellformed.Documents` — what every document that is read looks like

`Contents.WellFormed` is what rendering relies on without looking: sections hold lines that can be
written, and variables hold values. Every directive keeps it (`WellFormed.enter`), because a value
that is filled with values is one, so it holds behind every line of a text. What a line supplies to
an included document is filled with values too, and so the included document starts well; by
induction along the path to it, this is so of every document of the tree (`Inside.sound`).
-/

set_option autoImplicit false

namespace SshTemplate

open Template (Variables substituteBound)
open Directive (resolvedAll)

/-! ## Contents -/

/-- The domain can have been written. -/
def TemplateVariable.WellFormed (declared : TemplateVariable) : Prop :=
  ∀ token ∈ declared.domain, IsValue token

structure Section.WellFormed (s : Section) : Prop where
  lines : ∀ line ∈ s.lines, line.WellFormed
  domains : ∀ declared ∈ s.templateVariables, declared.WellFormed

/-- **What every document satisfies**, at every line. -/
structure Contents.WellFormed (own : Contents) : Prop where
  rootKind : own.root.kind = .root
  rootParents : own.root.parents = []
  root : own.root.WellFormed
  sections : ∀ s ∈ own.sections, s.WellFormed
  pending : ∀ declared ∈ own.pending, declared.WellFormed
  values : ∀ value ∈ own.bindings.values, IsValue value

theorem Section.wellFormed_opened {name : String} {kind : SectionKind}
    (h : ∀ declarations, kind = .host declarations →
      ∀ declared ∈ declarations, declared.WellFormed) : (opened name kind).WellFormed := by
  refine ⟨fun line hline => absurd hline (by simp [opened]), ?_⟩
  cases kind with
  | host declarations => exact h declarations rfl
  | _ => exact fun declared hd => absurd hd (by simp [opened, templateVariables])

/-- A line that a section can hold can be written: no argument of several holds a quotation mark. -/
theorem Line.WellFormed.writeLine_eq_ok {line : Line} (h : line.WellFormed) (indent : String) :
    writeLine indent line = .ok (line.written indent) :=
  Line.writeLine_eq_ok_of_noQuote (fun hlength arg harg => ((h.plain hlength).args arg harg).noQuote)
    indent

/-! ## One directive -/

section Directives

variable {supplied : Option (List String)} {own later : Contents} {directive : Directive}
variable {bindings : Variables}

/-- Whatever is supplied, it is values. -/
def SuppliesValues (supplied : Option (List String)) : Prop :=
  ∀ values ∈ supplied, ∀ value ∈ values, IsValue value

theorem isValue_of_get? (h : ∀ value ∈ bindings.values, IsValue value) (name value : String)
    (hvalue : bindings.get? name = some value) : IsValue value :=
  h value (Dictionary.mem_values_of_get? hvalue)

theorem Directive.WellFormed.resolved (h : directive.WellFormed)
    (hbindings : ∀ value ∈ bindings.values, IsValue value) :
    (directive.resolved bindings).WellFormed := by
  have hfill : ∀ {text : String}, IsValue text →
      IsValue (substituteBound bindings.get? text) := fun htext =>
    htext.substituteBound (isValue_of_get? hbindings)
  cases directive with
  | assign name value => exact hfill h
  | includes source passed =>
    intro arg harg
    obtain ⟨written, hwritten, rfl⟩ := List.mem_map.1 harg
    exact hfill (h written hwritten)
  | _ => exact h

/-- A line that a directive writes can be written: that of a gateway has one argument. -/
theorem Directive.WellFormed.line? {line : Line} (h : directive.WellFormed)
    (hline : directive.line? = some line) : line.WellFormed := by
  cases directive with
  | literal line =>
    obtain rfl := Option.some.inj hline
    exact h
  | via gateway =>
    obtain rfl := Option.some.inj hline
    exact ⟨by simp, by simp, fun hlength => absurd rfl hlength⟩
  | _ => cases hline

theorem Section.WellFormed.addAll {s : Section} (hs : s.WellFormed) (h : directive.WellFormed) :
    (s.addAll [directive]).WellFormed := by
  rw [Section.addAll_singleton]
  refine ⟨fun line hline => ?_, hs.domains⟩
  rcases List.mem_append.1 hline with hline | hline
  · exact hs.lines line hline
  · exact h.line? (Option.mem_toList.1 hline)

theorem Directive.WellFormed.bind (h : directive.WellFormed) (hsupplied : SuppliesValues supplied)
    (hbindings : ∀ value ∈ bindings.values, IsValue value) :
    ∀ value ∈ (directive.bind supplied bindings).values, IsValue value := by
  cases directive with
  | assign name bound =>
    intro value hvalue
    rcases Dictionary.mem_values_insert hvalue with rfl | hvalue
    · exact h
    · exact hbindings value hvalue
  | args names =>
    cases supplied with
    | none => exact hbindings
    | some values =>
      intro value hvalue
      rcases Dictionary.mem_values_extend hvalue with hvalue | hvalue
      · obtain ⟨pair, hpair, rfl⟩ := List.mem_map.1 hvalue
        exact hsupplied values rfl _ (List.of_mem_zip hpair).2
      · exact hbindings value hvalue
  | _ => exact hbindings

theorem Contents.WellFormed.enter_of_opens (hown : own.WellFormed)
    (hopens : directive.opens = true) : (own.enter supplied directive).WellFormed := by
  have hopened : ∀ s : Section, s.WellFormed → ∀ t ∈ own.sections ++ [s], t.WellFormed := by
    intro s hs t ht
    rcases List.mem_append.1 ht with ht | ht
    · exact hown.sections t ht
    · rw [List.mem_singleton.1 ht]
      exact hs
  cases directive with
  | host name =>
    refine { hown with
      sections := hopened _ (Section.wellFormed_opened fun declarations hd => ?_)
      pending := fun declared hd => absurd hd (by simp [Contents.enter]) }
    cases hd
    exact hown.pending
  | hostAttrs name =>
    exact { hown with
      sections := hopened _ (Section.wellFormed_opened fun declarations hd => by cases hd) }
  | _ => cases hopens

theorem Contents.WellFormed.enter_of_not_opens (hown : own.WellFormed) (h : directive.WellFormed)
    (hsupplied : SuppliesValues supplied) (hadmits : own.Admits supplied directive)
    (hopens : directive.opens = false) : (own.enter supplied directive).WellFormed := by
  have hpending : ∀ declared ∈ own.pending ++ directive.declared?.toList,
      declared.WellFormed := by
    intro declared hd
    rcases List.mem_append.1 hd with hd | hd
    · exact hown.pending declared hd
    · cases directive with
      | withVariable waiting =>
        obtain rfl := List.mem_singleton.1 hd
        exact h
      | _ => exact absurd hd (by simp [Directive.declared?])
  have hvalues := h.bind hsupplied hown.values
  rcases List.eq_nil_or_concat' own.sections with hnil | ⟨front, last, hlast⟩
  · have hparent : directive.parent? = none := by
      cases directive with
      | inherits name => exact absurd hnil hadmits
      | _ => rfl
    rw [Contents.enter_of_nil hopens hnil]
    refine ⟨hown.rootKind, ?_, hown.root.addAll h, hown.sections, hpending, hvalues⟩
    rw [Section.addAll_singleton, hparent, hown.rootParents]
    rfl
  · rw [Contents.enter_of_concat hopens hlast]
    refine ⟨hown.rootKind, hown.rootParents, hown.root, fun s hs => ?_, hpending, hvalues⟩
    rcases List.mem_append.1 hs with hs | hs
    · exact hown.sections s (hlast ▸ List.mem_append_left _ hs)
    · rw [List.mem_singleton.1 hs]
      exact (hown.sections last (by simp [hlast])).addAll h

/-- **Every directive keeps contents well-formed.** -/
theorem Contents.WellFormed.enter (hown : own.WellFormed) (h : directive.WellFormed)
    (hsupplied : SuppliesValues supplied) (hadmits : own.Admits supplied directive) :
    (own.enter supplied directive).WellFormed := by
  cases hopens : directive.opens with
  | true => exact hown.enter_of_opens hopens
  | false => exact hown.enter_of_not_opens h hsupplied hadmits hopens

end Directives

/-! ## The lines of a text -/

namespace Document

variable {supplied : Option (List String)} {own : Contents}

theorem wellFormed_of_raw {raw : String} {directive : Directive}
    (hremark : Line.isRemark raw = false) (hread : Directive.read raw = .ok directive)
    (hbreak : '\n' ∉ raw.toList) : directive.WellFormed := by
  obtain ⟨line, hline, hdirective⟩ := exists_of_bind_eq_ok hread
  exact Directive.wellFormed_of_ofLine hdirective (Line.isPlain_of_read hline hremark hbreak)

theorem not_mem_of_mem_lines {text raw : String} (h : raw ∈ Text.lines text) :
    '\n' ∉ raw.toList := by
  obtain ⟨piece, hpiece, rfl⟩ := List.mem_map.1 h
  rw [String.toList_ofList]
  exact Text.not_mem_of_mem_splitOn hpiece

/-- Behind every line, the contents are as well-formed as before it. -/
theorem wellFormed_after (hsupplied : SuppliesValues supplied) {raw : String}
    (hbreak : '\n' ∉ raw.toList) (hown : own.WellFormed) : (own.after supplied raw).WellFormed := by
  unfold Contents.after
  cases hremark : Line.isRemark raw with
  | true => exact hown
  | false =>
    cases hread : Directive.read raw with
    | error issue => exact hown
    | ok directive =>
      dsimp only
      cases hobey : own.obey supplied directive with
      | error issue => exact hown
      | ok later =>
        obtain ⟨hadmits, rfl⟩ := Contents.obey_eq_ok_iff.1 hobey
        have hwritten := wellFormed_of_raw hremark hread hbreak
        exact hown.enter (hwritten.resolved hown.values) hsupplied
          (Contents.admits_resolved.2 hadmits)

theorem wellFormed_foldl_after (hsupplied : SuppliesValues supplied) {lines : List String}
    (hbreak : ∀ raw ∈ lines, '\n' ∉ raw.toList) (hown : own.WellFormed) :
    (lines.foldl (Contents.after supplied) own).WellFormed := by
  induction lines generalizing own with
  | nil => exact hown
  | cons raw rest ih =>
    obtain ⟨hraw, hrest⟩ := List.forall_mem_cons.1 hbreak
    exact ih hrest (wellFormed_after hsupplied hraw hown)

/-- What a text asks for comes with values as arguments. -/
theorem isValue_of_mem_requests (hsupplied : SuppliesValues supplied) {lines : List String}
    (hbreak : ∀ raw ∈ lines, '\n' ∉ raw.toList) (hown : own.WellFormed) :
    ∀ request ∈ requests supplied own lines, ∀ arg ∈ request.args, IsValue arg := by
  induction lines generalizing own with
  | nil => exact fun request hrequest => absurd hrequest (by simp [requests])
  | cons raw rest ih =>
    obtain ⟨hraw, hrest⟩ := List.forall_mem_cons.1 hbreak
    rw [requests]
    cases hinclude : includeOf? raw with
    | none => exact ih hrest (wellFormed_after hsupplied hraw hown)
    | some written =>
      obtain ⟨hremark, hread⟩ := includeOf?_eq_some_iff.1 hinclude
      have hfilled := (wellFormed_of_raw hremark hread hraw).resolved hown.values
      intro request hrequest
      rcases List.mem_cons.1 hrequest with rfl | hrequest
      · exact hfilled
      · exact ih hrest hown request hrequest

/-! ## The tree -/

/-- A text, what it starts from, what is supplied to it, and the document it is read as. -/
structure Account where
  start : Contents
  supplied : Option (List String)
  text : String
  document : Document

/-- The accounts that reading a text consists of: its own, and those of whatever is included. -/
inductive Inside (out : Outside) (whole : Account) : Account → Prop where
  | whole : Inside out whole whole
  | included {outer : Account} {request : Request} {child : Document} {s : Source} {reply : String}
      (around : Inside out whole outer)
      (requested : request ∈ requests outer.supplied outer.start (Text.lines outer.text))
      (included : child ∈ outer.document.includes)
      (classified : out.classify request.locator = .ok s)
      (answered : out.fetch s = .ok reply)
      (read : ReadFrom out [s.text] (.start request.locator true request.keys) (some request.args)
        reply child) :
      Inside out whole ⟨.start request.locator true request.keys, some request.args, reply, child⟩

variable {out : Outside} {chain : Chain} {whole account : Account}

theorem Inside.trans {inner : Account} (h : Inside out whole account)
    (h' : Inside out account inner) : Inside out whole inner := by
  induction h' with
  | whole => exact h
  | included _ requested included classified answered read ih =>
    exact .included ih requested included classified answered read

/-- Whatever is included was asked for and read by itself. -/
theorem ScopedAll.exists_of_mem {asked : List Request} {documents : List Document}
    (h : ScopedAll out asked documents) {child : Document} (hchild : child ∈ documents) :
    ∃ request ∈ asked, ∃ s reply, out.classify request.locator = .ok s ∧
      out.fetch s = .ok reply ∧
      ReadFrom out [s.text] (.start request.locator true request.keys) (some request.args) reply
        child := by
  induction documents generalizing asked with
  | nil => exact absurd hchild (by simp)
  | cons first others ih =>
    cases h with
    | @cons request more _ _ s reply classified answered read inside rest =>
      rcases List.mem_cons.1 hchild with rfl | hchild
      · exact ⟨request, by simp, s, reply, classified, answered, read⟩
      · obtain ⟨other, hother, hfound⟩ := ih rest hchild
        exact ⟨other, List.mem_cons_of_mem _ hother, hfound⟩

-- A document has finitely many in it, and each of them was read by itself.
mutual

theorem exists_inside : ∀ (document : Document) {chain : Chain} {start : Contents}
    {supplied : Option (List String)} {text : String},
    ReadFrom out chain start supplied text document → ∀ own ∈ document.preorder,
      ∃ account, Inside out ⟨start, supplied, text, document⟩ account ∧
        account.document.contents = own
  | ⟨contents, includes⟩, chain, start, supplied, text, ⟨depth, h⟩, own, hown => by
    rw [preorder] at hown
    rcases List.mem_cons.1 hown with rfl | hown
    · exact ⟨_, .whole, rfl⟩
    · obtain ⟨-, -, hall⟩ := scoped_of_readWithin h
      obtain ⟨child, hchild, hbelow⟩ := exists_inside_all includes own hown
      obtain ⟨request, hrequest, s, reply, hs, hreply, hread⟩ := hall.exists_of_mem hchild
      obtain ⟨account, hinside, hcontents⟩ := hbelow hread
      have hfirst : Inside out ⟨start, supplied, text, ⟨contents, includes⟩⟩
          ⟨.start request.locator true request.keys, some request.args, reply, child⟩ :=
        .included .whole hrequest hchild hs hreply hread
      exact ⟨account, hfirst.trans hinside, hcontents⟩

theorem exists_inside_all : ∀ (documents : List Document), ∀ own ∈ preorderAll documents,
    ∃ child ∈ documents, ∀ {chain : Chain} {start : Contents} {supplied : Option (List String)}
      {text : String}, ReadFrom out chain start supplied text child →
        ∃ account, Inside out ⟨start, supplied, text, child⟩ account ∧
          account.document.contents = own
  | [], own, hown => absurd hown (by simp [preorderAll])
  | first :: rest, own, hown => by
    rw [preorderAll] at hown
    rcases List.mem_append.1 hown with hown | hown
    · exact ⟨first, by simp, fun hread => exists_inside first hread own hown⟩
    · obtain ⟨child, hchild, hbelow⟩ := exists_inside_all rest own hown
      exact ⟨child, List.mem_cons_of_mem _ hchild, hbelow⟩

end

/-- An account of a text that is read from nothing but keys, with values supplied. -/
structure Account.Sound (out : Outside) (account : Account) : Prop where
  fresh : ∃ locator included keys, account.start = .start locator included keys
  supplies : SuppliesValues account.supplied
  read : ∃ chain, ReadFrom out chain account.start account.supplied account.text account.document

theorem wellFormed_start (locator : String) (included : Bool) (keys : KeyDefinitions) :
    (Contents.start locator included keys).WellFormed where
  rootKind := rfl
  rootParents := rfl
  root := Section.wellFormed_opened fun declarations hd => by cases hd
  sections := fun s hs => absurd hs (by simp [Contents.start])
  pending := fun declared hd => absurd hd (by simp [Contents.start])
  values := fun value hvalue => absurd hvalue (by
    simp [Contents.start, Dictionary.values, Dictionary.empty])

theorem Account.Sound.start_wellFormed (h : account.Sound out) : account.start.WellFormed := by
  obtain ⟨locator, included, keys, hstart⟩ := h.fresh
  rw [hstart]
  exact wellFormed_start locator included keys

/-- Behind every line of a text, the contents are well-formed. -/
theorem Account.Sound.wellFormed_prefix (h : account.Sound out) {before behind : List String}
    (hlines : Text.lines account.text = before ++ behind) :
    (before.foldl (Contents.after account.supplied) account.start).WellFormed := by
  refine wellFormed_foldl_after h.supplies (fun raw hraw => ?_) h.start_wellFormed
  exact not_mem_of_mem_lines (hlines ▸ List.mem_append_left _ hraw)

theorem Account.Sound.wellFormed (h : account.Sound out) :
    account.document.contents.WellFormed := by
  obtain ⟨chain, depth, hread⟩ := h.read
  cases depth with
  | zero => cases hread
  | succ depth =>
    rw [(readLines_withoutIncludes hread).1]
    exact h.wellFormed_prefix (List.append_nil _).symm

/-- **What is included is read from values, as what includes it is.** -/
theorem Inside.sound (h : Inside out whole account) (hwhole : whole.Sound out) :
    account.Sound out := by
  induction h with
  | whole => exact hwhole
  | @included outer request child s reply around requested included classified answered read ih =>
    refine ⟨⟨_, _, _, rfl⟩, ?_, _, read⟩
    intro values hvalues
    obtain rfl := Option.some.inj hvalues
    exact isValue_of_mem_requests ih.supplies (fun raw hraw => not_mem_of_mem_lines hraw)
      ih.start_wellFormed request requested

theorem sound_of_readAs {locator text : String} {document : Document}
    (h : ReadAs out locator text document) :
    Account.Sound out ⟨.start locator false .empty, none, text, document⟩ :=
  ⟨⟨locator, false, .empty, rfl⟩, fun _ hnone => (by cases hnone), _, h⟩

/-- **Every document of a tree that has been read is well-formed.** -/
theorem wellFormed_of_readAs {locator text : String} {document : Document}
    (h : ReadAs out locator text document) : ∀ own ∈ document.preorder, own.WellFormed := by
  intro own hown
  obtain ⟨account, hinside, rfl⟩ := exists_inside document h own hown
  exact (hinside.sound (sound_of_readAs h)).wellFormed

end Document
end SshTemplate
