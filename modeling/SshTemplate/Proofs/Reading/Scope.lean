import SshTemplate.Proofs.Reading.Steps

/-!
# `Proofs.Reading.Scope` — what an include sees, and what it leaves behind

A document and a document that it includes meet at one line. Down go the keys that are known at that
line and the arguments that are written in it, and nothing else; up comes nothing at all. So the
contents of a document are what its text says without its `@include` lines, and an included document
is what its text says when it is read by itself, from the `Request` that the line amounts to.

The requests of a text are a function of the text (`requests`): the contents before each `@include`
line are followed through the lines as if none of them included anything. `Scoped` then says of a
whole tree that every document in it is related to its text in these two ways. It is proved by the
two inductions of reading — over the bound, and over the lines — and needs that a document which was
read inside others can be read without them (`readWithin_mono`).
-/

set_option autoImplicit false

namespace SshTemplate

/-! ## Lines that include -/

namespace Document

/-- The locator and the arguments that are written in an `@include` line. -/
def includeOf? (raw : String) : Option (String × List String) :=
  if Line.isRemark raw then none
  else
    match Directive.read raw with
    | .ok (.includes source args) => some (source, args)
    | _ => none

/-- The text without its `@include` lines. -/
def withoutIncludes (text : String) : String :=
  "\n".intercalate ((Text.lines text).filter fun raw => (includeOf? raw).isNone)

theorem includeOf?_eq_some_iff {raw source : String} {args : List String} :
    includeOf? raw = some (source, args) ↔
      Line.isRemark raw = false ∧ Directive.read raw = .ok (.includes source args) := by
  unfold includeOf?
  by_cases hr : Line.isRemark raw = true
  · simp [hr]
  · rw [Bool.not_eq_true] at hr
    simp only [hr, Bool.false_eq_true, if_false, true_and]
    split
    · next s a h => simp [h]
    · next h =>
      constructor
      · intro hnone
        exact absurd hnone (by simp)
      · intro hread
        exact absurd hread (h source args)

end Document

/-- What a line does to the contents of its document; an `@include` line does nothing. -/
def Contents.after (supplied : Option (List String)) (own : Contents) (raw : String) : Contents :=
  if Line.isRemark raw then own
  else
    match Directive.read raw with
    | .error _ => own
    | .ok directive =>
      match own.obey supplied directive with
      | .error _ => own
      | .ok later => later

namespace Document

/-- What an `@include` line asks for: which document, and what it is given. -/
structure Request where
  locator : String
  keys : KeyDefinitions
  args : List String

/-- The document that is asked for, before its first line. -/
def Request.opening (request : Request) (s : Source) (reply : String) : Opening :=
  ⟨s.text, .start request.locator true request.keys, request.args, reply⟩

/-- What the `@include` lines of a text ask for, each by the contents before it. -/
def requests (supplied : Option (List String)) : Contents → List String → List Request
  | _, [] => []
  | own, raw :: rest =>
    match includeOf? raw with
    | some (source, args) =>
      ⟨own.resolve source, own.keys, args.map own.resolve⟩ :: requests supplied own rest
    | none => requests supplied (own.after supplied raw) rest

variable {out : Outside} {readChild readChild' : ReadChild} {chain chain' : Chain}
variable {supplied : Option (List String)} {own : Contents} {document : Document}
variable {includes : List Document} {line : Nat} {raw : String} {rest : List String}

/-! ## One line of a text that is read -/

theorem after_of_include {source : String} {args : List String}
    (h : includeOf? raw = some (source, args)) : own.after supplied raw = own := by
  obtain ⟨hr, hread⟩ := includeOf?_eq_some_iff.1 h
  unfold Contents.after
  rw [hr, hread]
  rfl

theorem after_of_obey {directive : Directive} {later : Contents} (hr : Line.isRemark raw = false)
    (hread : Directive.read raw = .ok directive) (hobey : own.obey supplied directive = .ok later) :
    own.after supplied raw = later := by
  unfold Contents.after
  rw [hr, hread]
  dsimp only
  rw [hobey]
  rfl

theorem requests_of_obey {directive : Directive} {later : Contents}
    (hr : Line.isRemark raw = false) (hread : Directive.read raw = .ok directive)
    (hne : ∀ source args, directive ≠ .includes source args)
    (hobey : own.obey supplied directive = .ok later) :
    requests supplied own (raw :: rest) = requests supplied later rest := by
  rw [requests]
  cases hraw : includeOf? raw with
  | some written =>
    obtain ⟨-, hinclude⟩ := includeOf?_eq_some_iff.1 hraw
    exact absurd (Except.ok.inj (hread.symm.trans hinclude)) (hne _ _)
  | none => rw [after_of_obey hr hread hobey]

/-- What has to be so for an `@include` line to be read. -/
structure Opens (out : Outside) (readChild : ReadChild) (chain : Chain) (request : Request)
    (child : Document) (s : Source) (reply : String) : Prop where
  classified : out.classify request.locator = .ok s
  fresh : s.text ∉ chain
  answered : out.fetch s = .ok reply
  read : (readChild (chain ++ [s.text]) (request.opening s reply)).outcome = .ok child

theorem outcome_of_opens {source : String} {args : List String} {child : Document} {s : Source}
    {reply : String} (h : includeOf? raw = some (source, args))
    (hopens : Opens out readChild chain ⟨own.resolve source, own.keys, args.map own.resolve⟩ child s
      reply) :
    (readLines out readChild chain supplied line (raw :: rest) ⟨own, includes⟩).outcome =
      (readLines out readChild chain supplied (line + 1) rest
        ⟨own, includes ++ [child]⟩).outcome := by
  obtain ⟨hr, hread⟩ := includeOf?_eq_some_iff.1 h
  obtain ⟨hs, hfresh, hreply, hchild⟩ := hopens
  have hopen : openInclude out chain own line source args = ⟨[s], .ok
      (Request.opening ⟨own.resolve source, own.keys, args.map own.resolve⟩ s reply)⟩ :=
    openInclude_of_answer hs hfresh hreply
  rcases hreading : readChild (chain ++ [s.text])
    (Request.opening ⟨own.resolve source, own.keys, args.map own.resolve⟩ s reply)
    with ⟨asked, outcome⟩
  rw [hreading] at hchild
  cases hchild
  rw [readLines_of_include hr hread hopen hreading]

/-- A line that is no include does the same wherever the document is read. -/
theorem readLines_of_plain
    (h : (readLines out readChild chain supplied line (raw :: rest) ⟨own, includes⟩).outcome =
      .ok document) (hraw : includeOf? raw = none) (out' : Outside) (readChild' : ReadChild)
    (chain' : Chain) (line' : Nat) (rest' : List String) (includes' : List Document) :
    readLines out' readChild' chain' supplied line' (raw :: rest') ⟨own, includes'⟩ =
      readLines out' readChild' chain' supplied (line' + 1) rest'
        ⟨own.after supplied raw, includes'⟩ := by
  unfold Contents.after
  by_cases hr : Line.isRemark raw = true
  · rw [readLines_of_remark hr, if_pos hr]
  · rw [if_neg hr]
    rw [Bool.not_eq_true] at hr
    cases hread : Directive.read raw with
    | error issue =>
      rw [readLines_of_unread hr hread] at h
      cases h
    | ok directive =>
      have hne : ∀ source args, directive ≠ .includes source args := by
        rintro source args rfl
        exact absurd (hraw.symm.trans (includeOf?_eq_some_iff.2 ⟨hr, hread⟩)) (by simp)
      cases hobey : own.obey supplied directive with
      | error issue =>
        rw [readLines_of_disobey hr hread hne hobey] at h
        cases h
      | ok later =>
        dsimp only
        rw [hobey]
        exact readLines_of_obey hr hread hne hobey

/-- An `@include` line of a text that is read was opened, and the lines after it were read. -/
theorem exists_opens
    (h : (readLines out readChild chain supplied line (raw :: rest) ⟨own, includes⟩).outcome =
      .ok document) {source : String} {args : List String}
    (hraw : includeOf? raw = some (source, args)) :
    ∃ child s reply,
      Opens out readChild chain ⟨own.resolve source, own.keys, args.map own.resolve⟩ child s reply ∧
      (readLines out readChild chain supplied (line + 1) rest
        ⟨own, includes ++ [child]⟩).outcome = .ok document := by
  obtain ⟨hr, hread⟩ := includeOf?_eq_some_iff.1 hraw
  have hline := h
  rw [readLines_of_directive (by simp [hr]), readLine_of_include hread] at hline
  obtain ⟨after, hafter, -⟩ := Logged.exists_of_bind_eq_ok hline
  obtain ⟨opening, hopening, hmore⟩ := Logged.exists_of_bind_eq_ok hafter
  obtain ⟨child, hchild, -⟩ := Logged.exists_of_bind_eq_ok hmore
  obtain ⟨s, reply, hs, hfresh, hreply, rfl⟩ := exists_of_openInclude_eq_ok hopening
  have hopens : Opens out readChild chain
      ⟨own.resolve source, own.keys, args.map own.resolve⟩ child s reply :=
    ⟨hs, hfresh, hreply, hchild⟩
  rw [outcome_of_opens hraw hopens] at h
  exact ⟨child, s, reply, hopens, h⟩

/-! ## The lines without those that include -/

/-- **What lines say is what they say without their includes**, whatever those include. -/
theorem readLines_withoutIncludes {lines : List String}
    (h : (readLines out readChild chain supplied line lines ⟨own, includes⟩).outcome =
      .ok document) :
    document.contents = lines.foldl (Contents.after supplied) own ∧
      ∀ (out' : Outside) (readChild' : ReadChild) (chain' : Chain) (line' : Nat)
        (includes' : List Document),
        readLines out' readChild' chain' supplied line'
          (lines.filter fun raw => (includeOf? raw).isNone) ⟨own, includes'⟩ =
            .pure ⟨document.contents, includes'⟩ := by
  induction lines generalizing line own includes with
  | nil =>
    obtain rfl := Except.ok.inj h
    exact ⟨rfl, fun _ _ _ _ _ => rfl⟩
  | cons raw rest ih =>
    rw [List.foldl_cons]
    cases hraw : includeOf? raw with
    | some written =>
      -- The included document is added to the includes, and the contents wait for the next line.
      obtain ⟨child, s, reply, -, hrest⟩ := exists_opens h hraw
      rw [after_of_include hraw, List.filter_cons_of_neg (by simp [hraw])]
      exact ih hrest
    | none =>
      have hplain := readLines_of_plain h hraw
      rw [hplain out readChild chain line rest includes] at h
      obtain ⟨hcontents, hothers⟩ := ih h
      refine ⟨hcontents, fun out' readChild' chain' line' includes' => ?_⟩
      rw [List.filter_cons_of_pos (by simp [hraw]), hplain, hothers]

/-- **What a document says by itself is what its text says without its includes**, read anywhere. -/
theorem readWithin_withoutIncludes {depth : Nat} {start : Contents} {text : String}
    (h : (readWithin out depth chain start supplied text).outcome = .ok document) (out' : Outside)
    (depth' : Nat) (chain' : Chain) :
    readWithin out' (depth' + 1) chain' start supplied (withoutIncludes text) =
      .pure ⟨document.contents, []⟩ := by
  cases depth with
  | zero => cases h
  | succ depth =>
    unfold readWithin at h ⊢
    obtain ⟨-, hfilter⟩ := readLines_withoutIncludes h
    by_cases hnone : ((Text.lines text).filter fun raw => (includeOf? raw).isNone) = []
    · -- A text without lines is one empty line.
      have hempty : Text.lines (withoutIncludes text) = [""] := by
        unfold withoutIncludes
        rw [hnone]
        rfl
      have hcontents := hfilter out' (fun _ _ => .pure document) chain' 1 []
      rw [hnone] at hcontents
      rw [hempty, readLines_of_remark (by decide)]
      exact hcontents
    · have hlines : Text.lines (withoutIncludes text) =
          (Text.lines text).filter fun raw => (includeOf? raw).isNone :=
        Text.lines_intercalate List.filter_sublist hnone
      rw [hlines]
      exact hfilter _ _ _ _ _

/-! ## Documents read by themselves -/

/-- What was read among others can be read among fewer. -/
theorem readLines_mono {lines : List String} (hfewer : ∀ name ∈ chain', name ∈ chain)
    (hchild : ∀ opening child,
      (readChild (chain ++ [opening.name]) opening).outcome = .ok child →
        (readChild' (chain' ++ [opening.name]) opening).outcome = .ok child)
    (h : (readLines out readChild chain supplied line lines ⟨own, includes⟩).outcome =
      .ok document) :
    (readLines out readChild' chain' supplied line lines ⟨own, includes⟩).outcome =
      .ok document := by
  induction lines generalizing line own includes with
  | nil => exact h
  | cons raw rest ih =>
    cases hraw : includeOf? raw with
    | some written =>
      obtain ⟨child, s, reply, hopens, hrest⟩ := exists_opens h hraw
      have hopens' : Opens out readChild' chain' _ child s reply :=
        ⟨hopens.classified, fun hmem => hopens.fresh (hfewer _ hmem), hopens.answered,
          hchild (Request.opening _ s reply) child hopens.read⟩
      rw [outcome_of_opens hraw hopens']
      exact ih hrest
    | none =>
      have hplain := readLines_of_plain h hraw
      rw [hplain] at h ⊢
      exact ih h

theorem readWithin_mono {depth depth' : Nat} {start : Contents} {text : String}
    (hdepth : depth ≤ depth') (hfewer : ∀ name ∈ chain', name ∈ chain)
    (h : (readWithin out depth chain start supplied text).outcome = .ok document) :
    (readWithin out depth' chain' start supplied text).outcome = .ok document := by
  induction depth generalizing depth' chain chain' start supplied text document with
  | zero => cases h
  | succ depth ih =>
    cases depth' with
    | zero => exact absurd hdepth (Nat.not_succ_le_zero depth)
    | succ depth' =>
      unfold readWithin at h ⊢
      refine readLines_mono hfewer (fun opening child hchild => ?_) h
      refine ih (Nat.le_of_succ_le_succ hdepth) (fun name hname => ?_) hchild
      rcases List.mem_append.1 hname with hname | hname
      · exact List.mem_append.2 (Or.inl (hfewer name hname))
      · exact List.mem_append.2 (Or.inr hname)

/-- A text is read as one document only. -/
theorem ReadFrom.unique {start : Contents} {text : String} {document' : Document}
    (h : ReadFrom out chain start supplied text document)
    (h' : ReadFrom out chain start supplied text document') : document = document' := by
  obtain ⟨depth, h⟩ := h
  obtain ⟨depth', h'⟩ := h'
  -- Both bounds can be raised to the larger one.
  have hmax := readWithin_mono (Nat.le_max_left depth depth') (fun _ hname => hname) h
  have hmax' := readWithin_mono (Nat.le_max_right depth depth') (fun _ hname => hname) h'
  exact Except.ok.inj (hmax.symm.trans hmax')

/-! ## Arguments -/

/-- Every `@args` line of an included document binds what was supplied: as many names as there are
    values, each to the value at its place, as it was supplied, and no other name. A name that is
    written twice is bound to the later value. -/
def BindsArguments (supplied : Option (List String)) (start : Contents) (lines : List String) :
    Prop :=
  ∀ before raw after names values, lines = before ++ raw :: after → Line.isRemark raw = false →
    Directive.read raw = .ok (.args names) → supplied = some values →
      let earlier := (before.foldl (Contents.after supplied) start).bindings
      let later := ((before ++ [raw]).foldl (Contents.after supplied) start).bindings
      values.length = names.length ∧
      (∀ i name, names[i]? = some name → name ∉ names.drop (i + 1) →
        later.get? name = values[i]?) ∧
      ∀ name, name ∉ names → later.get? name = earlier.get? name

/-- The lines before any line have been read when it is. -/
theorem exists_of_readLines_append {before : List String}
    (h : (readLines out readChild chain supplied line (before ++ rest) ⟨own, includes⟩).outcome =
      .ok document) :
    ∃ line' includes', (readLines out readChild chain supplied line' rest
      ⟨before.foldl (Contents.after supplied) own, includes'⟩).outcome = .ok document := by
  induction before generalizing line own includes with
  | nil => exact ⟨line, includes, h⟩
  | cons raw more ih =>
    rw [List.foldl_cons]
    cases hraw : includeOf? raw with
    | some written =>
      obtain ⟨child, s, reply, -, hrest⟩ := exists_opens h hraw
      rw [after_of_include hraw]
      exact ih hrest
    | none =>
      have hplain := readLines_of_plain h hraw
      rw [List.cons_append, hplain] at h
      exact ih h

theorem get?_extend_zip {d : Dictionary String String} {names values : List String} {i : Nat}
    {name : String} (hlen : values.length = names.length) (hname : names[i]? = some name)
    (hlast : name ∉ names.drop (i + 1)) :
    (d.extend (names.zip values)).get? name = values[i]? := by
  obtain ⟨hi, rfl⟩ := List.getElem?_eq_some_iff.1 hname
  have hv : i < values.length := hlen ▸ hi
  have hz : i < (names.zip values).length := by
    rw [List.length_zip, hlen, Nat.min_self]
    exact hi
  have hpair : (names.zip values)[i] = (names[i], values[i]) := List.getElem_zip
  have hsplit : names.zip values =
      (names.zip values).take i ++ (names[i], values[i]) :: (names.zip values).drop (i + 1) := by
    rw [← hpair, List.getElem_cons_drop, List.take_append_drop]
  have hlater : names[i] ∉ ((names.zip values).drop (i + 1)).map Prod.fst := by
    rw [List.map_drop, List.map_fst_zip (Nat.le_of_eq hlen.symm)]
    exact hlast
  rw [hsplit, Dictionary.get?_extend hlater, List.getElem?_eq_getElem hv]

theorem bindsArguments_of_readLines {start : Contents} {lines : List String}
    (h : (readLines out readChild chain supplied line lines ⟨start, includes⟩).outcome =
      .ok document) : BindsArguments supplied start lines := by
  rintro before raw after names values rfl hr hread rfl
  obtain ⟨line', includes', hline⟩ := exists_of_readLines_append h
  have hne : ∀ source args, Directive.args names ≠ .includes source args := by simp
  dsimp only
  rw [List.foldl_append, List.foldl_cons, List.foldl_nil]
  generalize before.foldl (Contents.after (some values)) start = earlier at hline ⊢
  cases hobey : earlier.obey (some values) (.args names) with
  | error issue =>
    rw [readLines_of_disobey hr hread hne hobey] at hline
    cases hline
  | ok later =>
    rw [after_of_obey hr hread hobey]
    dsimp only [Contents.obey, Contents.bindArguments] at hobey
    by_cases hlen : values.length = names.length
    · rw [if_pos hlen] at hobey
      obtain rfl := Except.ok.inj hobey
      refine ⟨hlen, fun i name hname hlast => get?_extend_zip hlen hname hlast, ?_⟩
      intro name hname
      refine Dictionary.get?_extend_of_not_mem ?_
      rw [List.map_fst_zip (Nat.le_of_eq hlen.symm)]
      exact hname
    · rw [if_neg hlen] at hobey
      cases hobey

/-! ## The tree -/

mutual

/-- A document says what its text says without its includes, its arguments are bound as they were
    supplied, and each of its includes is what its text says when it is read by itself, from what
    the line of the include asks for. -/
inductive Scoped (out : Outside) : Contents → Option (List String) → String → Document → Prop where
  | intro {start : Contents} {supplied : Option (List String)} {text : String}
      {document : Document}
      (alone : ∀ out' depth chain,
        readWithin out' (depth + 1) chain start supplied (withoutIncludes text) =
          .pure ⟨document.contents, []⟩)
      (arguments : BindsArguments supplied start (Text.lines text))
      (below : ScopedAll out (requests supplied start (Text.lines text)) document.includes) :
      Scoped out start supplied text document

inductive ScopedAll (out : Outside) : List Request → List Document → Prop where
  | nil : ScopedAll out [] []
  | cons {request : Request} {more : List Request} {child : Document} {others : List Document}
      {s : Source} {reply : String}
      (classified : out.classify request.locator = .ok s)
      (answered : out.fetch s = .ok reply)
      (read : ReadFrom out [s.text] (.start request.locator true request.keys) (some request.args)
        reply child)
      (inside : Scoped out (.start request.locator true request.keys) (some request.args) reply
        child)
      (rest : ScopedAll out more others) : ScopedAll out (request :: more) (child :: others)

end

theorem scopedAll_of_readLines {depth : Nat} {lines : List String}
    (ih : ∀ (chain : Chain) (start : Contents) (supplied : Option (List String)) (text : String)
      (child : Document), (readWithin out depth chain start supplied text).outcome = .ok child →
        Scoped out start supplied text child)
    (h : (readLines out (fun chain opening =>
      readWithin out depth chain opening.start (some opening.supplied) opening.text) chain supplied
        line lines ⟨own, includes⟩).outcome = .ok document) :
    ∃ children, document.includes = includes ++ children ∧
      ScopedAll out (requests supplied own lines) children := by
  induction lines generalizing line own includes with
  | nil =>
    obtain rfl := Except.ok.inj h
    exact ⟨[], (List.append_nil _).symm, .nil⟩
  | cons raw rest ihl =>
    rw [requests]
    cases hraw : includeOf? raw with
    | some written =>
      obtain ⟨child, s, reply, hopens, hrest⟩ := exists_opens h hraw
      obtain ⟨children, hincludes, hall⟩ := ihl hrest
      -- It was read while others were; none of them is needed.
      have halone := readWithin_mono (Nat.le_refl depth)
        (fun name hname => List.mem_append.2 (Or.inr hname)) hopens.read
      refine ⟨child :: children, ?_, .cons hopens.classified hopens.answered ⟨depth, halone⟩
        (ih _ _ _ _ _ hopens.read) hall⟩
      rw [hincludes, List.append_assoc]
      rfl
    | none =>
      rw [readLines_of_plain h hraw] at h
      exact ihl h

theorem scoped_of_readWithin {depth : Nat} {start : Contents} {text : String}
    (h : (readWithin out depth chain start supplied text).outcome = .ok document) :
    Scoped out start supplied text document := by
  induction depth generalizing chain start supplied text document with
  | zero => cases h
  | succ depth ih =>
    have halone := readWithin_withoutIncludes h
    unfold readWithin at h
    obtain ⟨children, hincludes, hall⟩ :=
      scopedAll_of_readLines (fun chain start supplied text child => ih) h
    obtain rfl : document.includes = children := hincludes
    exact .intro halone (bindsArguments_of_readLines h) hall

/-- What is asked for at a place is what is included at that place. -/
theorem ScopedAll.getElem? {requests : List Request} {documents : List Document}
    (h : ScopedAll out requests documents) {i : Nat} {request : Request}
    (hi : requests[i]? = some request) :
    ∃ child s reply, documents[i]? = some child ∧
      out.classify request.locator = .ok s ∧ out.fetch s = .ok reply ∧
      ReadFrom out [s.text] (.start request.locator true request.keys) (some request.args) reply
        child := by
  induction requests generalizing documents i with
  | nil => exact absurd hi (by simp)
  | cons first more ih =>
    cases h with
    | @cons _ _ child others s reply classified answered read inside rest =>
      cases i with
      | zero =>
        obtain rfl : first = request := by simpa using hi
        exact ⟨child, s, reply, rfl, classified, answered, read⟩
      | succ i =>
        rw [List.getElem?_cons_succ] at hi ⊢
        exact ih rest hi

/-- **Nothing but a request reaches an included document.** Two documents that ask for the same at
    some place — two texts, read anywhere from anything — include the same there. -/
theorem includes_eq_of_requests_eq {start start' : Contents} {supplied' : Option (List String)}
    {text text' : String} {document' : Document} {i j : Nat} {request : Request}
    (h : Scoped out start supplied text document)
    (h' : Scoped out start' supplied' text' document')
    (hi : (requests supplied start (Text.lines text))[i]? = some request)
    (hj : (requests supplied' start' (Text.lines text'))[j]? = some request) :
    ∃ child, document.includes[i]? = some child ∧ document'.includes[j]? = some child := by
  obtain ⟨-, -, hall⟩ := h
  obtain ⟨-, -, hall'⟩ := h'
  obtain ⟨child, s, reply, hchild, hs, hreply, hread⟩ := hall.getElem? hi
  obtain ⟨child', s', reply', hchild', hs', hreply', hread'⟩ := hall'.getElem? hj
  obtain rfl : s = s' := Except.ok.inj (hs.symm.trans hs')
  obtain rfl : reply = reply' := Except.ok.inj (hreply.symm.trans hreply')
  exact ⟨child, hchild, (hread.unique hread') ▸ hchild'⟩

/-- What a line asks for, it asks for by the contents before it. -/
theorem getElem?_requests {before : List String} {source : String} {args : List String}
    (hraw : includeOf? raw = some (source, args)) :
    (requests supplied own (before ++ raw :: rest))[
        (before.filter fun raw => (includeOf? raw).isSome).length]? =
      some ⟨(before.foldl (Contents.after supplied) own).resolve source,
        (before.foldl (Contents.after supplied) own).keys,
        args.map (before.foldl (Contents.after supplied) own).resolve⟩ := by
  induction before generalizing own with
  | nil =>
    rw [List.nil_append, requests, hraw]
    rfl
  | cons first more ih =>
    rw [List.cons_append, requests, List.foldl_cons]
    cases hfirst : includeOf? first with
    | some written =>
      rw [List.filter_cons_of_pos (by simp [hfirst]), List.length_cons, List.getElem?_cons_succ,
        after_of_include hfirst]
      exact ih
    | none =>
      rw [List.filter_cons_of_neg (by simp [hfirst])]
      exact ih

/-- **Includes are scoped.** A text that is read, wherever it is read and from whatever it starts,
    is read as a document that is scoped at every level. What its lines ask for is decided by the
    contents before each of them; and where it asks for what another text asks for, both include
    the same. -/
theorem includes_are_scoped {start : Contents} {text : String}
    (h : ReadFrom out chain start supplied text document) :
    Scoped out start supplied text document ∧
    (∀ before raw rest source args, Text.lines text = before ++ raw :: rest →
      includeOf? raw = some (source, args) →
      let here := before.foldl (Contents.after supplied) start
      (requests supplied start (Text.lines text))[
          (before.filter fun raw => (includeOf? raw).isSome).length]? =
        some ⟨here.resolve source, here.keys, args.map here.resolve⟩) ∧
    ∀ chain' start' supplied' text' document',
      ReadFrom out chain' start' supplied' text' document' → ∀ (i j : Nat) (request : Request),
        (requests supplied start (Text.lines text))[i]? = some request →
        (requests supplied' start' (Text.lines text'))[j]? = some request →
        ∃ child, document.includes[i]? = some child ∧ document'.includes[j]? = some child := by
  obtain ⟨depth, h⟩ := h
  have hscoped := scoped_of_readWithin h
  refine ⟨hscoped, fun before raw rest source args hlines hraw => ?_, ?_⟩
  · rw [hlines]
    exact getElem?_requests hraw
  · rintro chain' start' supplied' text' document' ⟨depth', h'⟩ i j request hi hj
    exact includes_eq_of_requests_eq hscoped (scoped_of_readWithin h') hi hj

theorem harbour_is_scoped :
    ReadAs harbour.outside "top" harbourText harbourDocument ∧
      Scoped harbour.outside (.start "top" false .empty) none harbourText harbourDocument ∧
      (requests none (.start "top" false .empty) (Text.lines harbourText))[0]? =
        some ⟨"/more", .empty, ["far"]⟩ := by
  have hread : ReadAs harbour.outside "top" harbourText harbourDocument :=
    readAs_of_read (congrArg Logged.outcome read_harbour)
  obtain ⟨hscoped, -, -⟩ := includes_are_scoped hread
  refine ⟨hread, hscoped, ?_⟩
  have hlines : Text.lines harbourText =
      ["Zone b", "Area a", "@set where far", "@include /more <where>", "@with n 1 2",
        "Host near<n>"] := by
    cbv
  have hinclude : includeOf? "@include /more <where>" = some ("/more", ["<where>"]) :=
    includeOf?_eq_some_iff.2 ⟨by cbv, by cbv⟩
  have hsource : harbourStart.resolve "/more" = "/more" := by cbv
  have hargs : ["<where>"].map harbourStart.resolve = ["far"] := by cbv
  rw [hlines,
    requests_of_obey (by cbv) (by cbv : _ = Except.ok (.literal ⟨"Zone", ["b"]⟩)) (by simp) rfl,
    requests_of_obey (by cbv) (by cbv : _ = Except.ok (.literal ⟨"Area", ["a"]⟩)) (by simp) rfl,
    requests_of_obey (by cbv) (by cbv : _ = Except.ok (.assign "where" "far")) (by simp)
      (by cbv : _ = Except.ok harbourStart), requests, hinclude]
  dsimp only
  rw [hsource, hargs]
  rfl

end Document
end SshTemplate
