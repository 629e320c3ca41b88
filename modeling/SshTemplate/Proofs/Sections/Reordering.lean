import SshTemplate.Proofs.Reading.Scope
import SshTemplate.Proofs.Sections.Filing

/-!
# `Proofs.Sections.Reordering` — lines that can change places

Two directives of different categories change different parts of the contents, so it does not matter
which of them is entered first (`enter_comm`). Only two things hold neighbouring lines in their
order: that one of them opens a section, and that one of them binds a variable that the other names.
Where neither is so, the lines can change places (`Reordered`), and the text is read as before.

An included document is the one place where the order of two such lines is seen: it starts from the
keys defined so far. It can be read whatever keys it starts from, so the including text is still
read, and its own contents are the same.
-/

set_option autoImplicit false

namespace SshTemplate

open Template (Variables substituteBound)
open Directive (resolvedAll)

/-! ## Entering in either order -/

theorem Section.addAll_comm {first second : Directive} (h : first.category ≠ second.category)
    (s : Section) : (s.addAll [first]).addAll [second] = (s.addAll [second]).addAll [first] := by
  -- Of either sort, at most one of the two has something to add.
  have hsort : ∀ {α : Type} {sort : Directive → Option α} {category : Category},
      (∀ d : Directive, d.category ≠ category → sort d = none) → ∀ held : List α,
        held ++ (sort first).toList ++ (sort second).toList =
          held ++ (sort second).toList ++ (sort first).toList := by
    intro α sort category hnone held
    by_cases hfirst : first.category = category
    · rw [hnone second fun hsecond => h (hfirst.trans hsecond.symm)]
      simp
    · rw [hnone first hfirst]
      simp
  simp only [Section.addAll_singleton]
  rw [hsort fun _ => Directive.line?_of_ne, hsort fun _ => Directive.parent?_of_ne,
    hsort fun _ => Directive.identity?_of_ne]

namespace Contents

variable {supplied : Option (List String)} {own later : Contents} {first second : Directive}

theorem enter_comm (h : first.category ≠ second.category) (hfirst : first.opens = false)
    (hsecond : second.opens = false) :
    (own.enter supplied first).enter supplied second =
      (own.enter supplied second).enter supplied first := by
  -- At most one of the two declares, binds, or defines.
  have hdeclared : own.pending ++ first.declared?.toList ++ second.declared?.toList =
      own.pending ++ second.declared?.toList ++ first.declared?.toList := by
    by_cases hd : first.category = .declaration
    · have hnone : second.declared? = none := Directive.declared?_of_ne (hd ▸ h.symm)
      simp [hnone]
    · rw [Directive.declared?_of_ne hd]
      simp
  have hbind : second.bind supplied (first.bind supplied own.bindings) =
      first.bind supplied (second.bind supplied own.bindings) := by
    by_cases hv : first.category = .variable
    · have hsame : ∀ bindings, second.bind supplied bindings = bindings := fun _ =>
        Directive.bind_of_ne (hv ▸ h.symm)
      rw [hsame, hsame]
    · rw [Directive.bind_of_ne hv, Directive.bind_of_ne hv]
  have hdefine : second.define (first.define own.keys) = first.define (second.define own.keys) := by
    by_cases hk : first.category = .key
    · have hsame : ∀ keys, second.define keys = keys := fun _ =>
        Directive.define_of_ne (hk ▸ h.symm)
      rw [hsame, hsame]
    · rw [Directive.define_of_ne hk, Directive.define_of_ne hk]
  rcases List.eq_nil_or_concat' own.sections with hnil | ⟨front, last, hlast⟩
  · rw [enter_of_nil hfirst hnil, enter_of_nil hsecond hnil, enter_of_nil hsecond,
      enter_of_nil hfirst]
    · dsimp only
      rw [Section.addAll_comm h, hdeclared, hbind, hdefine]
    · exact hnil
    · exact hnil
  · rw [enter_of_concat hfirst hlast, enter_of_concat hsecond hlast, enter_of_concat hsecond rfl,
      enter_of_concat hfirst rfl]
    dsimp only
    rw [Section.addAll_comm h, hdeclared, hbind, hdefine]

theorem isEmpty_sections_enter (h : first.opens = false) :
    (own.enter supplied first).sections = [] ↔ own.sections = [] := by
  rcases List.eq_nil_or_concat' own.sections with hnil | ⟨front, last, hlast⟩
  · rw [enter_of_nil h hnil]
  · rw [enter_of_concat h hlast, hlast]
    simp

/-- A directive that opens nothing does not decide whether another one is in place. -/
theorem admits_enter (hfirst : first.opens = false) (hsecond : second.opens = false) :
    (own.enter supplied first).Admits supplied second ↔ own.Admits supplied second := by
  cases second with
  | hostAttrs name => cases hsecond
  | inherits name => exact not_congr (isEmpty_sections_enter hfirst)
  | _ => rfl

/-! ## Directives in another order -/

/-- Neighbouring directives of different categories that open nothing. -/
structure Apart (first second : Directive) : Prop where
  category : first.category ≠ second.category
  closedFirst : first.opens = false
  closedSecond : second.opens = false

/-- Directives without variables, in an order that comes of exchanging neighbours. -/
inductive Rearranged : List Directive → List Directive → Prop where
  | refl (directives : List Directive) : Rearranged directives directives
  | step {directives front back : List Directive} {first second : Directive}
      (earlier : Rearranged directives (front ++ first :: second :: back))
      (apart : Apart first second) : Rearranged directives (front ++ second :: first :: back)

theorem Rearranged.foldl_enter {directives directives' : List Directive}
    (h : Rearranged directives directives') (own : Contents) :
    directives.foldl (enter supplied) own = directives'.foldl (enter supplied) own := by
  induction h with
  | refl => rfl
  | @step front back first second earlier apart ih =>
    rw [ih]
    simp only [List.foldl_append, List.foldl_cons,
      enter_comm apart.category apart.closedFirst apart.closedSecond]

/-- What is included changes nothing of the contents. -/
theorem foldl_enter_filter {directives : List Directive} (own : Contents) :
    (directives.filter fun d => d.category ≠ .inclusion).foldl (enter supplied) own =
      directives.foldl (enter supplied) own := by
  induction directives generalizing own with
  | nil => rfl
  | cons d rest ih =>
    by_cases hd : d.category = .inclusion
    · have hsame : own.enter supplied d = own := by
        cases d with
        | includes source args =>
          rw [enter_of_no_part rfl ⟨rfl, rfl, rfl⟩]
          simp [Directive.declared?, Directive.bind, Directive.define]
        | _ => cases hd
      rw [List.filter_cons_of_neg (by simp [hd]), List.foldl_cons, hsame, ih]
    · rw [List.filter_cons_of_pos (by simp [hd]), List.foldl_cons, List.foldl_cons, ih]

theorem enter_keys (keys : KeyDefinitions) :
    ({ own with keys := keys } : Contents).enter supplied first =
      { own.enter supplied first with keys := first.define keys } := by
  cases hopens : first.opens with
  | true =>
    cases first with
    | host name => rfl
    | hostAttrs name => rfl
    | _ => cases hopens
  | false =>
    rcases List.eq_nil_or_concat' own.sections with hnil | ⟨front, last, hlast⟩
    · rw [enter_of_nil hopens hnil, enter_of_nil hopens]
      exact hnil
    · rw [enter_of_concat hopens hlast, enter_of_concat hopens]
      exact hlast

end Contents

/-! ## Lines in another order -/

/-- Neighbouring directives of different categories that open nothing, and neither of which binds
    what the other names. -/
structure Exchangeable (supplied : Option (List String)) (bindings : Variables)
    (first second : Directive) : Prop extends Contents.Apart first second where
  sameFirst : first.resolved ((second.resolved bindings).bind supplied bindings) =
    first.resolved bindings
  sameSecond : second.resolved ((first.resolved bindings).bind supplied bindings) =
    second.resolved bindings

/-- The lines in an order that comes of exchanging neighbours, each by the contents before it. -/
inductive Reordered (supplied : Option (List String)) :
    Contents → List String → List String → Prop where
  | refl (own : Contents) (lines : List String) : Reordered supplied own lines lines
  | cons {own : Contents} (raw : String) {rest rest' : List String}
      (behind : Reordered supplied (own.after supplied raw) rest rest') :
      Reordered supplied own (raw :: rest) (raw :: rest')
  | swap {own : Contents} {raw raw' : String} {first second : Directive} (rest : List String)
      (hfirst : Directive.ofRaw? raw = some first) (hsecond : Directive.ofRaw? raw' = some second)
      (exchangeable : Exchangeable supplied own.bindings first second) :
      Reordered supplied own (raw :: raw' :: rest) (raw' :: raw :: rest)
  | trans {own : Contents} {lines lines' lines'' : List String}
      (before : Reordered supplied own lines lines')
      (behind : Reordered supplied own lines' lines'') : Reordered supplied own lines lines''

namespace Document

variable {out : Outside} {readChild : ReadChild} {chain : Chain} {supplied : Option (List String)}
variable {own : Contents} {includes more : List Document} {document : Document} {line : Nat}
variable {raw raw' : String} {rest : List String} {directive first second : Directive}

theorem after_of_admits (hraw : Directive.ofRaw? raw = some directive)
    (h : own.Admits supplied directive) :
    own.after supplied raw = own.enter supplied (directive.resolved own.bindings) := by
  obtain ⟨hr, hread⟩ := Directive.ofRaw?_eq_some_iff.1 hraw
  exact after_of_obey hr hread (Contents.obey_eq_ok_iff.2 ⟨h, rfl⟩)

/-- What a directive includes. -/
def Included (out : Outside) (readChild : ReadChild) (chain : Chain) (own : Contents)
    (more : List Document) : Directive → Prop
  | .includes source args => ∃ child s reply, more = [child] ∧
      Opens out readChild chain ⟨own.resolve source, own.keys, args.map own.resolve⟩ child s reply
  | _ => more = []

/-- **One line that is read.** Its directive is in place, what it includes is read, and the lines
    behind it are read from the contents behind it. -/
theorem readLines_eq_ok_iff (hraw : Directive.ofRaw? raw = some directive) :
    (readLines out readChild chain supplied line (raw :: rest) ⟨own, includes⟩).outcome =
        .ok document ↔
      own.Admits supplied directive ∧ ∃ more, Included out readChild chain own more directive ∧
        (readLines out readChild chain supplied (line + 1) rest
          ⟨own.after supplied raw, includes ++ more⟩).outcome = .ok document := by
  obtain ⟨hr, hread⟩ := Directive.ofRaw?_eq_some_iff.1 hraw
  rcases directive.includes_or_not with ⟨source, args, rfl⟩ | hne
  · have hinclude := includeOf?_eq_some_iff.2 ⟨hr, hread⟩
    rw [after_of_include hinclude]
    constructor
    · intro h
      obtain ⟨child, s, reply, hopens, hrest⟩ := exists_opens h hinclude
      exact ⟨trivial, [child], ⟨child, s, reply, rfl, hopens⟩, hrest⟩
    · rintro ⟨-, more, ⟨child, s, reply, rfl, hopens⟩, hrest⟩
      rw [outcome_of_opens hinclude hopens]
      exact hrest
  · have hincluded : ∀ more, Included out readChild chain own more directive ↔ more = [] := by
      intro more
      cases directive with
      | includes source args => exact absurd rfl (hne source args)
      | _ => rfl
    constructor
    · intro h
      cases hobey : own.obey supplied directive with
      | error issue =>
        rw [readLines_of_disobey hr hread hne hobey] at h
        cases h
      | ok later =>
        rw [readLines_of_obey hr hread hne hobey] at h
        refine ⟨(Contents.obey_eq_ok_iff.1 hobey).1, [], (hincluded []).2 rfl, ?_⟩
        rw [after_of_obey hr hread hobey, List.append_nil]
        exact h
    · rintro ⟨hadmits, more, hmore, hrest⟩
      obtain rfl := (hincluded more).1 hmore
      have hobey := Contents.obey_eq_ok_iff.2 ⟨hadmits, rfl⟩
      rw [readLines_of_obey hr hread hne hobey]
      rw [after_of_obey hr hread hobey, List.append_nil] at hrest
      exact hrest

/-! ### Keys do not decide whether a text can be read -/

/-- Documents can be read whatever keys they start from. -/
def IgnoresKeys (readChild : ReadChild) : Prop :=
  ∀ chain opening child keys, (readChild chain opening).outcome = .ok child →
    ∃ child', (readChild chain
      { opening with start := { opening.start with keys := keys } }).outcome = .ok child'

/-- What a directive includes depends on the keys and on what it names. -/
theorem Included.exists_of_resolved_eq (hkeys : IgnoresKeys readChild) {own' : Contents}
    (h : Included out readChild chain own more directive)
    (hsame : directive.resolved own'.bindings = directive.resolved own.bindings) :
    ∃ more', Included out readChild chain own' more' directive := by
  cases directive with
  | includes source args =>
    obtain ⟨child, s, reply, rfl, hopens⟩ := h
    obtain ⟨hsource, hargs⟩ : own'.resolve source = own.resolve source ∧
        args.map own'.resolve = args.map own.resolve := by
      simpa [Directive.resolved, Contents.resolve] using hsame
    obtain ⟨child', hchild'⟩ := hkeys _ _ _ own'.keys hopens.read
    refine ⟨[child'], child', s, reply, rfl, ?_, hopens.fresh, hopens.answered, ?_⟩
    · rw [hsource]
      exact hopens.classified
    · rw [hsource, hargs]
      exact hchild'
  | _ => exact ⟨[], rfl⟩

theorem readLines_of_keys (hkeys : IgnoresKeys readChild) {lines : List String}
    (h : (readLines out readChild chain supplied line lines ⟨own, includes⟩).outcome =
      .ok document) (keys : KeyDefinitions) (includes' : List Document) :
    ∃ document', (readLines out readChild chain supplied line lines
      ⟨{ own with keys := keys }, includes'⟩).outcome = .ok document' := by
  induction lines generalizing line own includes keys includes' with
  | nil => exact ⟨_, rfl⟩
  | cons raw rest ih =>
    by_cases hr : Line.isRemark raw = true
    · rw [readLines_of_remark hr] at h ⊢
      exact ih h keys includes'
    · rw [Bool.not_eq_true] at hr
      cases hread : Directive.read raw with
      | error issue =>
        rw [readLines_of_unread hr hread] at h
        cases h
      | ok directive =>
        have hraw := Directive.ofRaw?_eq_some_iff.2 ⟨hr, hread⟩
        obtain ⟨hadmits, more, hmore, hrest⟩ := (readLines_eq_ok_iff hraw).1 h
        have hadmits' : ({ own with keys := keys } : Contents).Admits supplied directive := by
          cases directive <;> exact hadmits
        obtain ⟨more', hmore'⟩ :=
          hmore.exists_of_resolved_eq hkeys
            (rfl : directive.resolved ({ own with keys := keys } : Contents).bindings = _)
        rw [after_of_admits hraw hadmits] at hrest
        obtain ⟨document', hdocument'⟩ := ih hrest
          ((directive.resolved own.bindings).define keys) (includes' ++ more')
        refine ⟨document', (readLines_eq_ok_iff hraw).2 ⟨hadmits', more', hmore', ?_⟩⟩
        rw [after_of_admits hraw hadmits', Contents.enter_keys]
        exact hdocument'

theorem ignoresKeys_readWithin (out : Outside) (depth : Nat) :
    IgnoresKeys fun chain opening =>
      readWithin out depth chain opening.start (some opening.supplied) opening.text := by
  induction depth with
  | zero =>
    intro chain opening child keys h
    cases h
  | succ depth ih =>
    intro chain opening child keys h
    exact readLines_of_keys ih h keys []

/-! ### Exchanging lines -/

theorem exists_of_swap (hkeys : IgnoresKeys readChild)
    (hfirst : Directive.ofRaw? raw = some first) (hsecond : Directive.ofRaw? raw' = some second)
    (hex : Exchangeable supplied own.bindings first second)
    (h : (readLines out readChild chain supplied line (raw :: raw' :: rest)
      ⟨own, includes⟩).outcome = .ok document) :
    ∃ document', (readLines out readChild chain supplied line (raw' :: raw :: rest)
      ⟨own, includes⟩).outcome = .ok document' ∧ document'.contents = document.contents := by
  obtain ⟨hadmits, more, hmore, hnext⟩ := (readLines_eq_ok_iff hfirst).1 h
  obtain ⟨hadmits', more', hmore', hrest⟩ := (readLines_eq_ok_iff hsecond).1 hnext
  rw [after_of_admits hfirst hadmits] at hadmits' hmore' hrest
  set first' := first.resolved own.bindings with hfirst'
  set second' := second.resolved own.bindings with hsecond'
  have hclosed : first'.opens = false := by
    rw [← hex.closedFirst]
    simp [Directive.opens, hfirst']
  have hclosed' : second'.opens = false := by
    rw [← hex.closedSecond]
    simp [Directive.opens, hsecond']
  have hcategory : first'.category ≠ second'.category := by
    simpa [hfirst', hsecond'] using hex.category
  -- In the other order each directive names what it named, and both orders meet behind them.
  have hsame : second.resolved (own.enter supplied first').bindings = second' := by
    rw [Contents.bindings_enter]
    exact hex.sameSecond
  have hsame' : first.resolved (own.enter supplied second').bindings = first' := by
    rw [Contents.bindings_enter]
    exact hex.sameFirst
  have hin : own.Admits supplied second :=
    (Contents.admits_enter hclosed hex.closedSecond).1 hadmits'
  have hin' : (own.enter supplied second').Admits supplied first :=
    (Contents.admits_enter hclosed' hex.closedFirst).2 hadmits
  rw [after_of_admits hsecond hadmits', hsame] at hrest
  have hmeet : (own.enter supplied first').enter supplied second' =
      (own.enter supplied second').enter supplied first' :=
    Contents.enter_comm hcategory hclosed hclosed'
  obtain ⟨early, hearly⟩ := hmore'.exists_of_resolved_eq hkeys hsame.symm
  obtain ⟨late, hlate⟩ := hmore.exists_of_resolved_eq hkeys hsame'
  obtain ⟨document', hdocument'⟩ := readLines_of_keys hkeys hrest
    ((own.enter supplied first').enter supplied second').keys (includes ++ early ++ late)
  have hcontents : document'.contents = document.contents :=
    (readLines_withoutIncludes hdocument').1.trans (readLines_withoutIncludes hrest).1.symm
  refine ⟨document', (readLines_eq_ok_iff hsecond).2 ⟨hin, early, hearly, ?_⟩, hcontents⟩
  rw [after_of_admits hsecond hin]
  refine (readLines_eq_ok_iff hfirst).2 ⟨hin', late, hlate, ?_⟩
  rw [after_of_admits hfirst hin', hsame', ← hmeet]
  exact hdocument'

/-- **Lines that can be reordered are.** The text is still read, and its contents are the same. -/
theorem exists_of_reordered (hkeys : IgnoresKeys readChild) {lines lines' : List String}
    (hlines : Reordered supplied own lines lines')
    (h : (readLines out readChild chain supplied line lines ⟨own, includes⟩).outcome =
      .ok document) :
    ∃ document', (readLines out readChild chain supplied line lines'
      ⟨own, includes⟩).outcome = .ok document' ∧ document'.contents = document.contents := by
  induction hlines generalizing line includes document with
  | refl own lines => exact ⟨document, h, rfl⟩
  | @cons own raw rest rest' behind ih =>
    by_cases hr : Line.isRemark raw = true
    · rw [readLines_of_remark hr] at h ⊢
      have hafter : own.after supplied raw = own := by simp [Contents.after, hr]
      rw [hafter] at ih
      exact ih h
    · rw [Bool.not_eq_true] at hr
      cases hread : Directive.read raw with
      | error issue =>
        rw [readLines_of_unread hr hread] at h
        cases h
      | ok directive =>
        have hraw := Directive.ofRaw?_eq_some_iff.2 ⟨hr, hread⟩
        obtain ⟨hadmits, more, hmore, hrest⟩ := (readLines_eq_ok_iff hraw).1 h
        obtain ⟨document', hdocument', hcontents⟩ := ih hrest
        exact ⟨document', (readLines_eq_ok_iff hraw).2 ⟨hadmits, more, hmore, hdocument'⟩,
          hcontents⟩
  | swap rest hfirst hsecond hex => exact exists_of_swap hkeys hfirst hsecond hex h
  | trans before behind ih ih' =>
    obtain ⟨document', hdocument', hcontents⟩ := ih h
    obtain ⟨document'', hdocument'', hcontents'⟩ := ih' hdocument'
    exact ⟨document'', hdocument'', hcontents'.trans hcontents⟩

/-! ## The sections of a text -/

/-- **The sections hold every directive of a text once and in order.** Every line that is no remark
    is one directive, with the variables replaced that are bound where it stands. These directives
    are filed in the sections, completely, and what the contents are depends only on them, whatever
    is included, and not on how neighbours that are apart are ordered. And lines that can be
    reordered can be read in the other order. -/
theorem sections_hold_directives {locator text : String} {included : Bool} {keys : KeyDefinitions}
    (h : ReadFrom out chain (.start locator included keys) supplied text document) :
    let start : Contents := .start locator included keys
    let directives := resolvedAll supplied .empty (Directive.ofText text)
    ((Text.lines text).filter fun raw => !Line.isRemark raw).map Directive.read =
      (Directive.ofText text).map .ok ∧
    (∀ front directive back, Directive.ofText text = front ++ directive :: back →
      ∃ here, start.obeyAll supplied front = .ok here ∧
        directives[front.length]? = some (directive.resolved here.bindings)) ∧
    Contents.Filed directives document.contents ∧
    Contents.Complete directives document.contents ∧
    (∀ out' chain' text' document', ReadFrom out' chain' start supplied text' document' →
      Contents.Rearranged (directives.filter fun d => d.category ≠ .inclusion)
        ((resolvedAll supplied .empty (Directive.ofText text')).filter fun d =>
          d.category ≠ .inclusion) →
      document'.contents = document.contents) ∧
    ∀ text', Reordered supplied start (Text.lines text) (Text.lines text') →
      ∃ document', ReadFrom out chain start supplied text' document' ∧
        document'.contents = document.contents := by
  obtain ⟨hread, hobey⟩ := obeyAll_of_readFrom h
  have hfiled := Contents.filed_of_obeyAll (Contents.filed_start locator included keys) hobey
  rw [List.nil_append] at hfiled
  refine ⟨hread, ?_, hfiled, hfiled.complete, ?_, ?_⟩
  · intro front directive back hsplit
    rw [hsplit] at hobey
    obtain ⟨here, hhere, hget⟩ := Contents.getElem?_resolvedAll hobey
    refine ⟨here, hhere, ?_⟩
    rw [hsplit]
    exact hget
  · intro out' chain' text' document' h' hrearranged
    obtain ⟨-, hobey'⟩ := obeyAll_of_readFrom h'
    have hsame : (resolvedAll supplied .empty (Directive.ofText text)).foldl
        (Contents.enter supplied) (.start locator included keys) =
          (resolvedAll supplied .empty (Directive.ofText text')).foldl (Contents.enter supplied)
            (.start locator included keys) := by
      rw [← Contents.foldl_enter_filter, hrearranged.foldl_enter, Contents.foldl_enter_filter]
    rw [Contents.eq_foldl_of_obeyAll hobey, Contents.eq_foldl_of_obeyAll hobey']
    exact hsame.symm
  · intro text' hreordered
    obtain ⟨depth, h⟩ := h
    cases depth with
    | zero => cases h
    | succ depth =>
      obtain ⟨document', hdocument', hcontents⟩ :=
        exists_of_reordered (ignoresKeys_readWithin out depth) hreordered h
      exact ⟨document', ⟨depth + 1, hdocument'⟩, hcontents⟩

/-- The variable is bound one line earlier. -/
theorem harbour_holds_directives :
    let reordered :=
      "Zone b\n@set where far\nArea a\n@include /more <where>\n@with n 1 2\nHost near<n>"
    ReadAs harbour.outside "top" harbourText harbourDocument ∧
    Contents.Filed [.literal ⟨"Zone", ["b"]⟩, .literal ⟨"Area", ["a"]⟩, .assign "where" "far",
      .includes "/more" ["far"], .withVariable ⟨"n", ["1", "2"]⟩, .host "near<n>"]
      harbourDocument.contents ∧
    Reordered none (.start "top" false .empty) (Text.lines harbourText) (Text.lines reordered) ∧
    ∃ document, ReadAs harbour.outside "top" reordered document ∧
      document.contents = harbourDocument.contents := by
  intro reordered
  have hread : ReadAs harbour.outside "top" harbourText harbourDocument :=
    readAs_of_read (congrArg Logged.outcome read_harbour)
  obtain ⟨-, -, hfiled, -, -, hreorder⟩ := sections_hold_directives hread
  have hlines : Text.lines harbourText =
      ["Zone b", "Area a", "@set where far", "@include /more <where>", "@with n 1 2",
        "Host near<n>"] := by
    cbv
  have hlines' : Text.lines
      "Zone b\n@set where far\nArea a\n@include /more <where>\n@with n 1 2\nHost near<n>" =
      ["Zone b", "@set where far", "Area a", "@include /more <where>", "@with n 1 2",
        "Host near<n>"] := by
    cbv
  have harea : Directive.ofRaw? "Area a" = some (.literal ⟨"Area", ["a"]⟩) :=
    Directive.ofRaw?_eq_some_iff.2 ⟨by cbv, by cbv⟩
  have hset : Directive.ofRaw? "@set where far" = some (.assign "where" "far") :=
    Directive.ofRaw?_eq_some_iff.2 ⟨by cbv, by cbv⟩
  have hdirectives : Directive.ofText harbourText =
      [.literal ⟨"Zone", ["b"]⟩, .literal ⟨"Area", ["a"]⟩, .assign "where" "far",
        .includes "/more" ["<where>"], .withVariable ⟨"n", ["1", "2"]⟩, .host "near<n>"] := by
    have hzone : Directive.ofRaw? "Zone b" = some (.literal ⟨"Zone", ["b"]⟩) :=
      Directive.ofRaw?_eq_some_iff.2 ⟨by cbv, by cbv⟩
    have hinclude : Directive.ofRaw? "@include /more <where>" =
        some (.includes "/more" ["<where>"]) :=
      Directive.ofRaw?_eq_some_iff.2 ⟨by cbv, by cbv⟩
    have hwith : Directive.ofRaw? "@with n 1 2" = some (.withVariable ⟨"n", ["1", "2"]⟩) :=
      Directive.ofRaw?_eq_some_iff.2 ⟨by cbv, by cbv⟩
    have hhost : Directive.ofRaw? "Host near<n>" = some (.host "near<n>") :=
      Directive.ofRaw?_eq_some_iff.2 ⟨by cbv, by cbv⟩
    unfold Directive.ofText
    rw [hlines]
    simp only [List.filterMap_cons, List.filterMap_nil, hzone, harea, hset, hinclude, hwith, hhost]
  have hresolved : resolvedAll none .empty (Directive.ofText harbourText) =
      [.literal ⟨"Zone", ["b"]⟩, .literal ⟨"Area", ["a"]⟩, .assign "where" "far",
        .includes "/more" ["far"], .withVariable ⟨"n", ["1", "2"]⟩, .host "near<n>"] := by
    rw [hdirectives]
    cbv
  have hreordered : Reordered none (.start "top" false .empty) (Text.lines harbourText)
      (Text.lines reordered) := by
    have hex : Exchangeable none
        ((Contents.start "top" false .empty).after none "Zone b").bindings
        (.literal ⟨"Area", ["a"]⟩) (.assign "where" "far") :=
      ⟨⟨by decide, rfl, rfl⟩, rfl, rfl⟩
    rw [hlines, hlines']
    exact .cons "Zone b" (.swap _ harea hset hex)
  rw [hresolved] at hfiled
  exact ⟨hread, hfiled, hreordered, hreorder reordered hreordered⟩

end Document
end SshTemplate
