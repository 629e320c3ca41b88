import SshTemplate.Proofs.Reading.Steps

/-!
# `Proofs.Sections.Effects` — what the directives of a text do, one after the other

A directive does two things to contents that do not depend on each other: its variables are replaced
by what is bound before it (`Directive.resolved`), and what is left goes to one place — a new
section, the lines, parents or identities of the section opened last, the waiting declarations, the
variables, or the keys (`Contents.enter`). Which place is its `Category`.

Reading only adds that a directive can be out of place (`obey_eq_ok_iff`). So the contents of a text
that is read are its resolved directives, entered in order (`obeyAll_of_readFrom`).
-/

set_option autoImplicit false

namespace SshTemplate

open Template (Variables substituteBound)

/-! ## Directives without variables -/

/-- The place that a directive goes to. -/
inductive Category where
  | opening
  | line
  | parent
  | identity
  | declaration
  | variable
  | key
  | inclusion
  deriving DecidableEq

namespace Directive

def category : Directive → Category
  | host _ | hostAttrs _ => .opening
  | literal _ | via _ => .line
  | inherits _ => .parent
  | identity _ => .identity
  | withVariable _ => .declaration
  | assign _ _ | args _ => .variable
  | key _ _ => .key
  | includes _ _ => .inclusion

def opens (directive : Directive) : Bool := directive.category = .opening

def isHost : Directive → Bool
  | host _ => true
  | _ => false

/-- The line that a directive writes; its variables have been replaced. -/
def line? : Directive → Option Line
  | literal line => some line
  | via gateway => some ⟨"ProxyCommand", [Contents.gatewayCommand gateway]⟩
  | _ => none

def parent? : Directive → Option String
  | inherits name => some name
  | _ => none

def identity? : Directive → Option String
  | identity name => some name
  | _ => none

def declared? : Directive → Option TemplateVariable
  | withVariable declared => some declared
  | _ => none

/-- The directive with the variables replaced that are bound before it. Names of sections, of keys
    and of template variables, domains and literal lines stay as they are written. -/
def resolved (bindings : Variables) : Directive → Directive
  | via gateway => via (substituteBound bindings.get? gateway)
  | identity name => identity (substituteBound bindings.get? name)
  | assign name value =>
    assign (substituteBound bindings.get? name) (substituteBound bindings.get? value)
  | includes source passed =>
    includes (substituteBound bindings.get? source) (passed.map (substituteBound bindings.get?))
  | directive => directive

/-- The variables behind a directive. -/
def bind (supplied : Option (List String)) (bindings : Variables) : Directive → Variables
  | assign name value => bindings.insert name value
  | args names =>
    match supplied with
    | some values => bindings.extend (names.zip values)
    | none => bindings
  | _ => bindings

/-- The keys behind a directive. -/
def define (keys : KeyDefinitions) : Directive → KeyDefinitions
  | key name fingerprints => keys.insert name fingerprints
  | _ => keys

/-- Directives with their variables replaced; each sees what those before it bind. -/
def resolvedAll (supplied : Option (List String)) (bindings : Variables) :
    List Directive → List Directive
  | [] => []
  | directive :: rest =>
    let first := directive.resolved bindings
    first :: resolvedAll supplied (first.bind supplied bindings) rest

/-- What a raw line asks for, unless it is a remark. -/
def ofRaw? (raw : String) : Option Directive :=
  if Line.isRemark raw then none else (read raw).toOption

/-- What the lines of a text ask for, in order. -/
def ofText (text : String) : List Directive := (Text.lines text).filterMap ofRaw?

section Fields

variable {supplied : Option (List String)} {bindings : Variables} {directive : Directive}

@[simp]
theorem category_resolved : (directive.resolved bindings).category = directive.category := by
  cases directive <;> rfl

theorem bind_of_ne (h : directive.category ≠ .variable) :
    directive.bind supplied bindings = bindings := by
  cases directive <;> first | rfl | exact absurd rfl h

theorem define_of_ne {keys : KeyDefinitions} (h : directive.category ≠ .key) :
    directive.define keys = keys := by
  cases directive <;> first | rfl | exact absurd rfl h

theorem line?_of_ne (h : directive.category ≠ .line) : directive.line? = none := by
  cases directive <;> first | rfl | exact absurd rfl h

theorem parent?_of_ne (h : directive.category ≠ .parent) : directive.parent? = none := by
  cases directive <;> first | rfl | exact absurd rfl h

theorem identity?_of_ne (h : directive.category ≠ .identity) : directive.identity? = none := by
  cases directive <;> first | rfl | exact absurd rfl h

theorem declared?_of_ne (h : directive.category ≠ .declaration) : directive.declared? = none := by
  cases directive <;> first | rfl | exact absurd rfl h

theorem filterMap_cons {α : Type} (f : Directive → Option α) (directive : Directive)
    (rest : List Directive) :
    (directive :: rest).filterMap f = (f directive).toList ++ rest.filterMap f := by
  cases h : f directive with
  | none => rw [List.filterMap_cons_none h, Option.toList_none, List.nil_append]
  | some a => rw [List.filterMap_cons_some h, Option.toList_some, List.singleton_append]

theorem ofRaw?_eq_some_iff {raw : String} :
    ofRaw? raw = some directive ↔ Line.isRemark raw = false ∧ read raw = .ok directive := by
  unfold ofRaw?
  cases Line.isRemark raw with
  | true => simp
  | false =>
    cases read raw with
    | error issue => simp [Except.toOption]
    | ok found => simp [Except.toOption]

theorem map_read_eq {lines : List String}
    (h : ∀ raw ∈ lines, Line.isRemark raw = false → ∃ directive, read raw = .ok directive) :
    (lines.filter fun raw => !Line.isRemark raw).map read = (lines.filterMap ofRaw?).map .ok := by
  induction lines with
  | nil => rfl
  | cons raw rest ih =>
    obtain ⟨hraw, hrest⟩ := List.forall_mem_cons.1 h
    cases hr : Line.isRemark raw with
    | true =>
      have hnone : ofRaw? raw = none := by simp [ofRaw?, hr]
      rw [List.filter_cons_of_neg (by simp [hr]), List.filterMap_cons_none hnone, ih hrest]
    | false =>
      obtain ⟨directive, hread⟩ := hraw hr
      have hsome := ofRaw?_eq_some_iff.2 ⟨hr, hread⟩
      rw [List.filter_cons_of_pos (by simp [hr]), List.filterMap_cons_some hsome, List.map_cons,
        List.map_cons, ih hrest, hread]

end Fields
end Directive

/-! ## One directive -/

/-- The section with what some directives hold for it. -/
def Section.addAll (s : Section) (directives : List Directive) : Section :=
  ⟨s.name, s.kind, s.lines ++ directives.filterMap Directive.line?,
    s.parents ++ directives.filterMap Directive.parent?,
    s.identities ++ directives.filterMap Directive.identity?⟩

theorem Section.addAll_nil (s : Section) : s.addAll [] = s := by simp [addAll]

theorem Section.addAll_singleton (s : Section) (directive : Directive) :
    s.addAll [directive] =
      ⟨s.name, s.kind, s.lines ++ directive.line?.toList, s.parents ++ directive.parent?.toList,
        s.identities ++ directive.identity?.toList⟩ := by
  simp only [addAll, Directive.filterMap_cons, List.filterMap_nil, List.append_nil]

theorem Section.addAll_append (s : Section) (front back : List Directive) :
    s.addAll (front ++ back) = (s.addAll front).addAll back := by
  simp [addAll]

namespace Contents

/-- What a directive without variables does where it is in place. -/
def enter (supplied : Option (List String)) (own : Contents) : Directive → Contents
  | .hostAttrs name => { own with sections := own.sections ++ [.opened name .bundle] }
  | .host name =>
    { own with sections := own.sections ++ [.opened name (.host own.pending)], pending := [] }
  | directive =>
    { own.amend (·.addAll [directive]) with
      pending := own.pending ++ directive.declared?.toList
      bindings := directive.bind supplied own.bindings
      keys := directive.define own.keys }

/-- Where a directive is in place. -/
def Admits (supplied : Option (List String)) (own : Contents) : Directive → Prop
  | .hostAttrs _ => own.pending = []
  | .inherits _ => own.sections ≠ []
  | .args names => ∀ values ∈ supplied, values.length = names.length
  | _ => True

variable {supplied : Option (List String)} {own later : Contents} {directive : Directive}

theorem admits_resolved {bindings : Variables} :
    own.Admits supplied (directive.resolved bindings) ↔ own.Admits supplied directive := by
  cases directive <;> rfl

theorem amend_id {change : Section → Section} (h : ∀ s, change s = s) : own.amend change = own := by
  unfold amend
  split
  · rw [h]
  · next current hlast =>
    rw [h, List.dropLast_append_getLast? current hlast]

theorem enter_of_not_opens (h : directive.opens = false) :
    own.enter supplied directive =
      { own.amend (·.addAll [directive]) with
        pending := own.pending ++ directive.declared?.toList
        bindings := directive.bind supplied own.bindings
        keys := directive.define own.keys } := by
  cases directive with
  | host name => cases h
  | hostAttrs name => cases h
  | _ => rfl

/-- Before a section is opened, directives go to the root. -/
theorem enter_of_nil (h : directive.opens = false) (hnil : own.sections = []) :
    own.enter supplied directive =
      { own with
        root := own.root.addAll [directive]
        pending := own.pending ++ directive.declared?.toList
        bindings := directive.bind supplied own.bindings
        keys := directive.define own.keys } := by
  rw [enter_of_not_opens h]
  simp [amend, hnil]

/-- Otherwise they go to the section that was opened last. -/
theorem enter_of_concat {front : List Section} {last : Section} (h : directive.opens = false)
    (hlast : own.sections = front ++ [last]) :
    own.enter supplied directive =
      { own with
        pending := own.pending ++ directive.declared?.toList
        bindings := directive.bind supplied own.bindings
        sections := front ++ [last.addAll [directive]]
        keys := directive.define own.keys } := by
  rw [enter_of_not_opens h]
  simp [amend, hlast]

/-- A directive that only adds to a section. -/
theorem enter_of_part {change : Section → Section} (hopens : directive.opens = false)
    (hchange : ∀ s, s.addAll [directive] = change s) (hdeclared : directive.declared? = none)
    (hbind : directive.bind supplied own.bindings = own.bindings)
    (hdefine : directive.define own.keys = own.keys) :
    own.enter supplied directive = own.amend change := by
  obtain rfl : (·.addAll [directive]) = change := funext hchange
  rw [enter_of_not_opens hopens, hdeclared, hbind, hdefine]
  unfold amend
  split <;> simp

theorem enter_literal (line : Line) :
    own.enter supplied (.literal line) = own.amend (.addLine line) := by
  refine enter_of_part rfl (fun s => ?_) rfl rfl rfl
  rw [Section.addAll_singleton]
  simp [Section.addLine, Directive.line?, Directive.parent?, Directive.identity?]

theorem enter_via (gateway : String) :
    own.enter supplied (.via gateway) =
      own.amend (.addLine ⟨"ProxyCommand", [gatewayCommand gateway]⟩) := by
  refine enter_of_part rfl (fun s => ?_) rfl rfl rfl
  rw [Section.addAll_singleton]
  simp [Section.addLine, Directive.line?, Directive.parent?, Directive.identity?]

theorem enter_inherits (name : String) :
    own.enter supplied (.inherits name) = own.amend (.addParent name) := by
  refine enter_of_part rfl (fun s => ?_) rfl rfl rfl
  rw [Section.addAll_singleton]
  simp [Section.addParent, Directive.line?, Directive.parent?, Directive.identity?]

theorem enter_identity (name : String) :
    own.enter supplied (.identity name) = own.amend (.addIdentity name) := by
  refine enter_of_part rfl (fun s => ?_) rfl rfl rfl
  rw [Section.addAll_singleton]
  simp [Section.addIdentity, Directive.line?, Directive.parent?, Directive.identity?]

/-- A directive that is no part of a section. -/
theorem enter_of_no_part (hopens : directive.opens = false)
    (h : directive.line? = none ∧ directive.parent? = none ∧ directive.identity? = none) :
    own.enter supplied directive =
      { own with
        pending := own.pending ++ directive.declared?.toList
        bindings := directive.bind supplied own.bindings
        keys := directive.define own.keys } := by
  obtain ⟨hline, hparent, hidentity⟩ := h
  rw [enter_of_not_opens hopens, amend_id fun s => by
    simp [Section.addAll_singleton, hline, hparent, hidentity]]

/-- **Obeying a directive is entering it, its variables replaced, where it is in place.** -/
theorem obey_eq_ok_iff :
    own.obey supplied directive = .ok later ↔
      own.Admits supplied directive ∧
        later = own.enter supplied (directive.resolved own.bindings) := by
  have hok : ∀ own' : Contents,
      (Except.ok own' : Except Issue Contents) = .ok later ↔ True ∧ later = own' := by
    intro own'
    rw [true_and]
    exact ⟨fun h => (Except.ok.inj h).symm, fun h => h ▸ rfl⟩
  cases directive with
  | hostAttrs name =>
    dsimp only [obey, Admits, Directive.resolved, enter]
    by_cases hp : own.pending = []
    · rw [if_pos (by simp [hp]), hok, eq_true hp]
    · rw [if_neg (by simp [hp])]
      simp [hp]
  | host name => exact hok _
  | withVariable declared =>
    dsimp only [obey, Admits, Directive.resolved]
    rw [hok, enter_of_no_part rfl ⟨rfl, rfl, rfl⟩]
    rfl
  | inherits name =>
    dsimp only [obey, Admits, Directive.resolved]
    rw [enter_inherits]
    by_cases hs : own.sections = []
    · rw [if_pos (by simp [hs])]
      simp [hs]
    · rw [if_neg (by simp [hs]), hok, eq_true (show own.sections ≠ [] from hs)]
  | via gateway =>
    dsimp only [obey, Admits, Directive.resolved, resolve]
    rw [hok, enter_via]
  | identity name =>
    dsimp only [obey, Admits, Directive.resolved, resolve]
    rw [hok, enter_identity]
  | args names =>
    dsimp only [obey, Admits, Directive.resolved, bindArguments]
    rw [enter_of_no_part rfl ⟨rfl, rfl, rfl⟩]
    cases supplied with
    | none =>
      rw [hok]
      simp [Directive.declared?, Directive.bind, Directive.define]
    | some values =>
      by_cases hlen : values.length = names.length
      · simp [hlen, Directive.declared?, Directive.bind, Directive.define, eq_comm]
      · simp [hlen]
  | literal line =>
    dsimp only [obey, Admits, Directive.resolved]
    rw [hok, enter_literal]
  | _ =>
    dsimp only [obey, Admits, Directive.resolved]
    rw [hok, enter_of_no_part rfl ⟨rfl, rfl, rfl⟩]
    simp [Directive.declared?, Directive.bind, Directive.define, resolve]

/-! ## One after the other -/

/-- Does what directives ask for, up to the first that is out of place. -/
def obeyAll (supplied : Option (List String)) (own : Contents) (directives : List Directive) :
    Except Issue Contents :=
  directives.foldlM (Contents.obey supplied) own

theorem exists_of_obeyAll_cons {rest : List Directive}
    (h : own.obeyAll supplied (directive :: rest) = .ok later) :
    own.Admits supplied directive ∧
      (own.enter supplied (directive.resolved own.bindings)).obeyAll supplied rest = .ok later := by
  unfold obeyAll at h
  rw [List.foldlM_cons] at h
  obtain ⟨next, hnext, hrest⟩ := exists_of_bind_eq_ok h
  obtain ⟨hadmits, rfl⟩ := obey_eq_ok_iff.1 hnext
  exact ⟨hadmits, hrest⟩

theorem bindings_enter :
    (own.enter supplied directive).bindings = directive.bind supplied own.bindings := by
  cases directive <;> rfl

/-- The contents behind some directives: one after the other is entered. -/
theorem eq_foldl_of_obeyAll {directives : List Directive}
    (h : own.obeyAll supplied directives = .ok later) :
    later = (Directive.resolvedAll supplied own.bindings directives).foldl
      (Contents.enter supplied) own := by
  induction directives generalizing own with
  | nil => exact (Except.ok.inj h).symm
  | cons directive rest ih =>
    obtain ⟨-, hrest⟩ := exists_of_obeyAll_cons h
    rw [ih hrest, Directive.resolvedAll, List.foldl_cons, bindings_enter]

/-- Each directive names what is bound where it stands. -/
theorem getElem?_resolvedAll {front back : List Directive}
    (h : own.obeyAll supplied (front ++ directive :: back) = .ok later) :
    ∃ here, own.obeyAll supplied front = .ok here ∧
      (Directive.resolvedAll supplied own.bindings (front ++ directive :: back))[front.length]? =
        some (directive.resolved here.bindings) := by
  induction front generalizing own with
  | nil => exact ⟨own, rfl, rfl⟩
  | cons first rest ih =>
    rw [List.cons_append] at h
    obtain ⟨hadmits, hrest⟩ := exists_of_obeyAll_cons h
    obtain ⟨here, hhere, hget⟩ := ih hrest
    refine ⟨here, ?_, ?_⟩
    · unfold obeyAll at hhere ⊢
      rw [List.foldlM_cons, obey_eq_ok_iff.2 ⟨hadmits, rfl⟩]
      exact hhere
    · rw [bindings_enter] at hget
      rw [List.cons_append, Directive.resolvedAll, List.length_cons, List.getElem?_cons_succ]
      exact hget

/-! ## Sections keep what they hold -/

section Keeping

variable {directives earlier after : List Directive} {index : Nat} {s : Section}

/-- What is entered is added to a section, or leaves it as it is. -/
theorem getElem?_enter (hs : own.sections[index]? = some s) :
    ∃ body, (own.enter supplied directive).sections[index]? = some (s.addAll body) := by
  have hlt : index < own.sections.length := (List.getElem?_eq_some_iff.1 hs).1
  cases hopens : directive.opens with
  | true =>
    have happended : ∀ t : Section, (own.sections ++ [t])[index]? = some (s.addAll []) := by
      intro t
      rw [List.getElem?_append_left hlt, hs, s.addAll_nil]
    cases directive with
    | host name => exact ⟨[], happended _⟩
    | hostAttrs name => exact ⟨[], happended _⟩
    | _ => cases hopens
  | false =>
    rcases List.eq_nil_or_concat' own.sections with hnil | ⟨front, last, hlast⟩
    · simp [hnil] at hlt
    · rw [enter_of_concat hopens hlast]
      rw [hlast] at hs
      rcases Nat.lt_or_ge index front.length with hfront | hback
      · rw [List.getElem?_append_left hfront] at hs
        exact ⟨[], by rw [s.addAll_nil]; exact (List.getElem?_append_left hfront).trans hs⟩
      · have hindex : index = front.length := by
          rw [hlast, List.length_append, List.length_singleton] at hlt
          omega
        subst hindex
        obtain rfl : last = s := by simpa using hs
        exact ⟨[directive], by simp⟩

theorem getElem?_of_obeyAll (hs : own.sections[index]? = some s)
    (h : own.obeyAll supplied directives = .ok later) :
    ∃ body, later.sections[index]? = some (s.addAll body) := by
  induction directives generalizing own s with
  | nil =>
    obtain rfl := Except.ok.inj h
    exact ⟨[], by rw [hs, s.addAll_nil]⟩
  | cons first rest ih =>
    obtain ⟨-, hrest⟩ := exists_of_obeyAll_cons h
    obtain ⟨body, hbody⟩ := getElem?_enter hs
    obtain ⟨more, hmore⟩ := ih hbody hrest
    exact ⟨body ++ more, by rw [hmore, s.addAll_append]⟩

theorem length_sections_enter :
    (own.enter supplied directive).sections.length =
      own.sections.length + if directive.opens then 1 else 0 := by
  cases hopens : directive.opens with
  | true =>
    cases directive with
    | host name => simp [Contents.enter]
    | hostAttrs name => simp [Contents.enter]
    | _ => cases hopens
  | false =>
    rcases List.eq_nil_or_concat' own.sections with hnil | ⟨front, last, hlast⟩
    · simp [enter_of_nil hopens hnil]
    · simp [enter_of_concat hopens hlast, hlast]

/-- There are as many sections as have been opened. -/
theorem length_sections_of_obeyAll (h : own.obeyAll supplied directives = .ok later) :
    later.sections.length = own.sections.length + (directives.filter Directive.opens).length := by
  induction directives generalizing own with
  | nil =>
    obtain rfl := Except.ok.inj h
    rfl
  | cons first rest ih =>
    obtain ⟨-, hrest⟩ := exists_of_obeyAll_cons h
    have hopens : (first.resolved own.bindings).opens = first.opens := by
      simp [Directive.opens]
    rw [ih hrest, length_sections_enter, hopens, Nat.add_assoc, List.filter_cons]
    split
    · rw [List.length_cons, Nat.add_comm 1]
    · rw [Nat.zero_add]

/-- **A directive is filed in the section that was opened last**, its variables replaced by what is
    bound before it, and it stays there. -/
theorem exists_filed_of_obeyAll
    (h : own.obeyAll supplied (earlier ++ directive :: after) = .ok later)
    (hopens : directive.opens = false) (hnone : own.sections = [])
    (hindex : (earlier.filter Directive.opens).length = index + 1) :
    ∃ (here : Contents) (s : Section) (body : List Directive),
      own.obeyAll supplied earlier = .ok here ∧
      later.sections[index]? = some (s.addAll (directive.resolved here.bindings :: body)) := by
  unfold obeyAll at h
  rw [List.foldlM_append] at h
  obtain ⟨here, hhere, hbehind⟩ := exists_of_bind_eq_ok h
  obtain ⟨-, hafter⟩ := exists_of_obeyAll_cons hbehind
  have hlength : here.sections.length = index + 1 := by
    rw [length_sections_of_obeyAll hhere, hnone, hindex, List.length_nil, Nat.zero_add]
  rcases List.eq_nil_or_concat' here.sections with hnil | ⟨front, last, hlast⟩
  · simp [hnil] at hlength
  · obtain rfl : front.length = index := by simpa [hlast] using hlength
    have hresolved : (directive.resolved here.bindings).opens = false := by
      simpa [Directive.opens] using hopens
    have hfiled : (here.enter supplied (directive.resolved here.bindings)).sections[front.length]? =
        some (last.addAll [directive.resolved here.bindings]) := by
      simp [enter_of_concat hresolved hlast]
    obtain ⟨body, hbody⟩ := getElem?_of_obeyAll hfiled hafter
    exact ⟨here, last, body, hhere, by rw [hbody, ← Section.addAll_append]; rfl⟩

end Keeping

end Contents

namespace Document

variable {out : Outside} {readChild : ReadChild} {chain : Chain} {supplied : Option (List String)}
variable {document after : Document} {line : Nat}

/-- **A text that is read is obeyed line by line.** No line of it is left out: each is a remark, or
    it is read as a directive and obeyed. -/
theorem obeyAll_of_readLines {lines : List String}
    (h : (readLines out readChild chain supplied line lines document).outcome = .ok after) :
    (∀ raw ∈ lines, Line.isRemark raw = false → ∃ directive, Directive.read raw = .ok directive) ∧
      document.contents.obeyAll supplied (lines.filterMap Directive.ofRaw?) =
        .ok after.contents := by
  induction lines generalizing line document with
  | nil =>
    obtain rfl := Except.ok.inj h
    exact ⟨fun raw hraw => absurd hraw (by simp), rfl⟩
  | cons raw rest ih =>
    by_cases hr : Line.isRemark raw = true
    · rw [readLines_of_remark hr] at h
      obtain ⟨hread, hobey⟩ := ih h
      have hnone : Directive.ofRaw? raw = none := by simp [Directive.ofRaw?, hr]
      rw [List.filterMap_cons_none hnone]
      refine ⟨fun other hother hplain => ?_, hobey⟩
      rcases List.mem_cons.1 hother with rfl | hother
      · exact absurd hr (by simp [hplain])
      · exact hread other hother hplain
    · rw [readLines_of_directive hr] at h
      obtain ⟨next, hnext, hrest⟩ := Logged.exists_of_bind_eq_ok h
      obtain ⟨hread, hobey⟩ := ih hrest
      rw [Bool.not_eq_true] at hr
      -- An include is obeyed as well: it changes nothing.
      obtain ⟨directive, hdirective, hstep⟩ : ∃ directive, Directive.read raw = .ok directive ∧
          document.contents.obey supplied directive = .ok next.contents := by
        rcases exists_of_readLine_eq_ok hnext with
          ⟨source, args, opening, child, hread, -, -, rfl⟩ | ⟨directive, own, hread, -, hown, rfl⟩
        · exact ⟨_, hread, rfl⟩
        · exact ⟨directive, hread, hown⟩
      have hsome : Directive.ofRaw? raw = some directive :=
        Directive.ofRaw?_eq_some_iff.2 ⟨hr, hdirective⟩
      refine ⟨fun other hother hplain => ?_, ?_⟩
      · rcases List.mem_cons.1 hother with rfl | hother
        · exact ⟨directive, hdirective⟩
        · exact hread other hother hplain
      · rw [List.filterMap_cons_some hsome]
        unfold Contents.obeyAll at hobey ⊢
        rw [List.foldlM_cons, hstep]
        exact hobey

theorem obeyAll_of_readFrom {start : Contents} {text : String}
    (h : ReadFrom out chain start supplied text document) :
    ((Text.lines text).filter fun raw => !Line.isRemark raw).map Directive.read =
        (Directive.ofText text).map .ok ∧
      start.obeyAll supplied (Directive.ofText text) = .ok document.contents := by
  obtain ⟨depth, h⟩ := h
  cases depth with
  | zero => cases h
  | succ depth =>
    obtain ⟨hread, hobey⟩ := obeyAll_of_readLines h
    exact ⟨Directive.map_read_eq hread, hobey⟩

end Document
end SshTemplate
