import SshTemplate.Proofs.Reading.Stack

/-!
# `Proofs.Reading.Cycles` — includes end, and only real cycles are refused

What the machine of `Stack.lean` says about includes. Its stack holds different names of answered
sources, so includes nest no deeper than there are answers. A line that includes a document fails
with a cycle if, and only if, the document is on the stack — one that was read to its end elsewhere
is not — and no other line fails in this way, so that a reported cycle is always a stack with one of
its own names behind it.

A document that has been read keeps a trace of the stack: a path down its includes is what the stack
was when the last document of the path was being read.
-/

set_option autoImplicit false

namespace SshTemplate

/-! ## Which issues a line can have -/

theorem Line.issue_of_readArguments {inQuote : Bool} {word text : List Char} {issue : Issue}
    (h : readArguments inQuote word text = .error issue) :
    issue = .unterminatedQuote ∨ issue = .quoteWithinArgument := by
  have hmap : ∀ {front : List String} {reading : Except Issue (List String)},
      (front ++ ·) <$> reading = .error issue → reading = .error issue := by
    intro front reading hreading
    cases reading with
    | error other => exact congrArg _ (Except.error.inj hreading)
    | ok rest => cases hreading
  fun_induction readArguments inQuote word text with
  | case1 word => exact Or.inl (Except.error.inj h).symm
  | case2 inQuote word hq => cases h
  | case3 word rest ih => exact ih (hmap h)
  | case4 word c rest hc ih => exact ih h
  | case5 inQuote word rest hq hw ih => exact ih h
  | case6 inQuote word rest hq hw => exact Or.inr (Except.error.inj h).symm
  | case7 inQuote word c rest hq hc hb ih => exact ih (hmap h)
  | case8 inQuote word c rest hq hc hb ih => exact ih h

theorem Line.issue_of_read {raw : String} {issue : Issue} (h : read raw = .error issue) :
    issue = .unterminatedQuote ∨ issue = .quoteWithinArgument := by
  unfold read at h
  dsimp only at h
  split at h
  · cases h
  · cases hargs : readArguments false []
      (Text.trim ((Text.cutFirst? Text.isBlank (Text.trim raw.toList)).getD
        (Text.trim raw.toList, [])).2) with
    | ok args => rw [hargs] at h; cases h
    | error other =>
      rw [hargs] at h
      obtain rfl : other = issue := Except.error.inj h
      exact issue_of_readArguments hargs

theorem Directive.not_includeCycle_of_ofLine {line : Line} {cycle : List String} :
    ofLine line ≠ .error (.includeCycle cycle) := by
  have hunary : ∀ form args make, unary form args make ≠ .error (.includeCycle cycle) := by
    intro form args make h
    unfold unary at h
    split at h <;> cases h
  intro h
  unfold ofLine at h
  split at h
  case h_1 | h_2 | h_4 | h_5 | h_6 => exact hunary _ _ _ h
  all_goals (split at h <;> cases h)

theorem Directive.not_includeCycle_of_read {raw : String} {issue : Issue} {cycle : List String}
    (h : Directive.read raw = .error issue) : issue ≠ .includeCycle cycle := by
  rintro rfl
  unfold read at h
  cases hline : Line.read raw with
  | error issue =>
    rw [hline] at h
    obtain rfl : issue = .includeCycle cycle := Except.error.inj h
    rcases Line.issue_of_read hline with hissue | hissue <;> cases hissue
  | ok line =>
    rw [hline] at h
    exact not_includeCycle_of_ofLine h

theorem Contents.not_includeCycle_of_obey {own : Contents} {supplied : Option (List String)}
    {directive : Directive} {issue : Issue} {cycle : List String}
    (h : own.obey supplied directive = .error issue) : issue ≠ .includeCycle cycle := by
  rintro rfl
  cases directive with
  | hostAttrs name =>
    dsimp only [obey] at h
    by_cases hp : own.pending.isEmpty = true
    · rw [if_pos hp] at h; cases h
    · rw [if_neg hp] at h; cases h
  | inherits name =>
    dsimp only [obey] at h
    by_cases hs : own.sections.isEmpty = true
    · rw [if_pos hs] at h; cases h
    · rw [if_neg hs] at h; cases h
  | args names =>
    dsimp only [obey, bindArguments] at h
    cases supplied with
    | none => cases h
    | some values =>
      dsimp only at h
      by_cases hlen : values.length = names.length
      · rw [if_pos hlen] at h; cases h
      · rw [if_neg hlen] at h; cases h
  | _ => cases h

namespace Document

variable {out : Outside} {asked : List Source} {current : Frame} {outer : List Frame}

/-! ## The line that includes -/

/-- The next line includes a document, and its locator means the source. -/
def AtInclude (out : Outside) (current : Frame) (s : Source) : Prop :=
  ∃ raw rest source args, current.rest = raw :: rest ∧ ¬ Line.isRemark raw = true ∧
    Directive.read raw = .ok (.includes source args) ∧
    out.classify (current.document.contents.resolve source) = .ok s

def Frame.cycleError (frame : Frame) (cycle : Chain) : Error :=
  .parse frame.document.contents.locator frame.line (.includeCycle cycle)

theorem next_of_mem_names {s : Source} (h : AtInclude out current s)
    (hs : s.text ∈ names current outer) :
    next out (.reading asked current outer) =
      .ended asked (.error (current.cycleError (names current outer ++ [s.text]))) := by
  obtain ⟨raw, rest, source, args, hrest, hr, hread, hclassify⟩ := h
  rw [next_of_line hrest hr, stepLine_of_include hread, openInclude_of_mem hclassify hs]
  show State.ended (asked ++ []) _ = _
  rw [List.append_nil]
  rfl

/-- A source that is not being read is asked for; what is answered is put on top of the stack. -/
theorem next_of_not_mem_names {s : Source} (h : AtInclude out current s)
    (hs : s.text ∉ names current outer) :
    (∃ opened below, opened.name = s.text ∧ below.name = current.name ∧
      next out (.reading asked current outer) =
        .reading (asked ++ [s]) opened (below :: outer)) ∨
    ∃ error, next out (.reading asked current outer) = .ended (asked ++ [s]) (.error error) ∧
      ∀ locator line issue, error ≠ .parse locator line issue := by
  obtain ⟨raw, rest, source, args, hrest, hr, hread, hclassify⟩ := h
  rw [next_of_line hrest hr, stepLine_of_include hread]
  cases hf : out.fetch s with
  | ok reply =>
    rw [openInclude_of_answer hclassify hs hf]
    refine Or.inl ⟨_, current.behind rest current.document, ?_, rfl, rfl⟩
    rfl
  | error failure =>
    obtain ⟨error, hopen, herror⟩ := openInclude_of_failure hclassify hs hf
    rw [hopen]
    exact Or.inr ⟨error, rfl, herror⟩

/-- **A cycle is reported by no other line.** -/
theorem atInclude_of_cycle {asked' : List Source} {locator : String} {line : Nat}
    {cycle : List String}
    (h : next out (.reading asked current outer) =
      .ended asked' (.error (.parse locator line (.includeCycle cycle)))) :
    ∃ s, AtInclude out current s ∧ s.text ∈ names current outer ∧
      locator = current.document.contents.locator ∧ line = current.line ∧
      cycle = names current outer ++ [s.text] := by
  -- All the ways in which a step can end; each of the others ends with another error.
  cases hrest : current.rest with
  | nil =>
    cases outer with
    | nil => rw [next_of_end hrest] at h; cases h
    | cons parent others => rw [next_of_return hrest] at h; cases h
  | cons raw rest =>
    by_cases hr : Line.isRemark raw = true
    · rw [next_of_remark hrest hr] at h
      cases h
    · rw [next_of_line hrest hr] at h
      cases hread : Directive.read raw with
      | error issue =>
        rw [stepLine_of_error hread] at h
        cases h
        exact absurd rfl (Directive.not_includeCycle_of_read hread)
      | ok directive =>
        rcases directive.includes_or_not with ⟨source, args, rfl⟩ | hne
        · rw [stepLine_of_include hread] at h
          cases hs : out.classify (current.document.contents.resolve source) with
          | error refusal =>
            rw [openInclude_of_refused hs] at h
            cases h
          | ok s =>
            have hat : AtInclude out current s := ⟨raw, rest, source, args, hrest, hr, hread, hs⟩
            by_cases hmem : s.text ∈ names current outer
            · rw [openInclude_of_mem hs hmem] at h
              cases h
              exact ⟨s, hat, hmem, rfl, rfl, rfl⟩
            · rw [← stepLine_of_include hread, ← next_of_line hrest hr] at h
              rcases next_of_not_mem_names hat hmem with ⟨_, _, -, -, heq⟩ | ⟨error, heq, herror⟩
              · rw [heq] at h
                cases h
              · rw [heq] at h
                cases h
                exact absurd rfl (herror _ _ _)
        · rw [stepLine_of_directive hread hne] at h
          cases hobey : current.document.contents.obey current.supplied directive with
          | error issue =>
            rw [hobey] at h
            cases h
            exact absurd rfl (Contents.not_includeCycle_of_obey hobey)
          | ok own =>
            rw [hobey] at h
            cases h

/-! ## The last step -/

/-- What has ended ended by a step. -/
theorem exists_last_step {n : Nat} {locator text : String} {outcome : Except Error Document}
    (h : (next out)^[n] (firstState out locator text) = .ended asked outcome) :
    ∃ m asked' current outer,
      (next out)^[m] (firstState out locator text) = .reading asked' current outer ∧
        next out (.reading asked' current outer) = .ended asked outcome := by
  induction n with
  | zero => cases h
  | succ n ih =>
    rw [Function.iterate_succ_apply'] at h
    cases hstate : (next out)^[n] (firstState out locator text) with
    | reading asked' current outer =>
      rw [hstate] at h
      exact ⟨n, asked', current, outer, hstate, h⟩
    | ended asked' outcome' =>
      rw [hstate, next] at h
      exact ih (hstate.trans h)

/-! ## How deep includes nest -/

/-- A sound stack is at most one document deeper than there are answers. -/
theorem Sound.length_le {chain : Chain} {answered : List String} (h : Sound out chain)
    (hanswered : ∀ name, out.Answers name → name ∈ answered) :
    chain.length ≤ answered.length + 1 := by
  have htail : chain.tail.length ≤ answered.length :=
    Fetcher.length_le_of_nodup_of_subset (h.distinct.sublist (List.tail_sublist chain))
      fun name hname => hanswered name (h.answered name hname)
  rw [List.length_tail] at htail
  omega

theorem Sound.length_le_limit {around : Surroundings} {chain : Chain}
    (h : Sound around.outside chain) : chain.length ≤ around.fetcher.limit + 1 := by
  have htail : chain.tail.length ≤ around.fetcher.limit :=
    around.fetcher.limited _ (h.distinct.sublist (List.tail_sublist chain)) h.answered
  rw [List.length_tail] at htail
  omega

theorem length_names (current : Frame) (outer : List Frame) :
    (names current outer).length = (current :: outer).length := by
  unfold names
  simp

/-! ## Paths down the includes -/

/-- The documents from the top one down to one of those inside. -/
inductive Path : Document → List Document → Prop where
  | here (document : Document) : Path document [document]
  | into {document child : Document} {path : List Document} (mem : child ∈ document.includes)
      (below : Path child path) : Path document (document :: path)

/-- The text of the source that a document was read from. -/
def sourceText (out : Outside) (document : Document) : String :=
  topText out document.contents.locator

theorem topText_of_classify {locator : String} {s : Source} (h : out.classify locator = .ok s) :
    topText out locator = s.text := by
  unfold topText
  rw [h]

/-- **A path down the includes was a stack.** The documents above it are those of the chain. -/
theorem nodup_path {depth : Nat} {chain before : Chain} {start : Contents}
    {supplied : Option (List String)} {text : String} {document : Document} {path : List Document}
    (h : (readWithin out depth chain start supplied text).outcome = .ok document)
    (hchain : chain = before ++ [topText out start.locator]) (hdistinct : chain.Nodup)
    (hpath : document.Path path) : (before ++ path.map (sourceText out)).Nodup := by
  induction depth generalizing chain before start supplied text document path with
  | zero => cases h
  | succ depth ih =>
    obtain ⟨hlocator, -, hchildren⟩ := opening_of_mem_includes h
    have htext : before ++ [sourceText out document] = chain := by
      unfold sourceText
      rw [hlocator, hchain]
    cases hpath with
    | here =>
      rw [List.map_singleton, htext]
      exact hdistinct
    | @into _ child below hmem hbelow =>
      obtain ⟨s, locator, keys, args, reply, hs, hfresh, -, hread⟩ := hchildren child hmem
      -- The chain grows by the child, as the path does.
      have hname : chain ++ [s.text] =
          chain ++ [topText out (Contents.start locator true keys).locator] :=
        congrArg (fun name => chain ++ [name]) (topText_of_classify hs).symm
      have hchild := ih hread hname (nodup_push hdistinct hfresh) hbelow
      rw [List.map_cons, List.append_cons, htext]
      exact hchild

/-! ## The result -/

/-- What is true of every state of a reading. -/
structure Orderly (around : Surroundings) (locator text : String) (asked : List Source)
    (current : Frame) (outer : List Frame) : Prop where
  distinct : (names current outer).Nodup
  /-- Includes nest no deeper than there are answers, and one. -/
  bounded : ∀ answered : List String,
    (∀ s reply, around.fetcher.fetch s = .ok reply → s.text ∈ answered) →
      (current :: outer).length ≤ answered.length + 1
  limited : (current :: outer).length ≤ around.fetcher.limit + 1
  /-- An include of a document that is being read ends the reading, and asks for nothing. -/
  refused : ∀ s, AtInclude around.outside current s → s.text ∈ names current outer →
    read around locator text =
      ⟨asked, .error (current.cycleError (names current outer ++ [s.text]))⟩
  /-- Any other include asks for its source. -/
  asks : ∀ s, AtInclude around.outside current s → s.text ∉ names current outer →
    (∃ opened below, opened.name = s.text ∧ below.name = current.name ∧
      next around.outside (.reading asked current outer) =
        .reading (asked ++ [s]) opened (below :: outer)) ∨
    ∃ error, read around locator text = ⟨asked ++ [s], .error error⟩ ∧
      ∀ locator line issue, error ≠ .parse locator line issue

theorem read_of_next_ended {around : Surroundings} {locator text : String} {n : Nat}
    {asked' : List Source} {outcome : Except Error Document}
    (hstate : (next around.outside)^[n] (firstState around.outside locator text) =
      .reading asked current outer)
    (h : next around.outside (.reading asked current outer) = .ended asked' outcome) :
    read around locator text = ⟨asked', outcome⟩ := by
  have hleads : Leads around.outside (firstState around.outside locator text)
      (.ended asked' outcome) :=
    Leads.trans ⟨n, hstate⟩ (Leads.step h)
  obtain ⟨hlog, houtcome⟩ := ended_unique (leads_read around locator text) hleads
  rw [← hlog, ← houtcome]

theorem orderly_of_iterate {around : Surroundings} {locator text : String} {n : Nat}
    (h : (next around.outside)^[n] (firstState around.outside locator text) =
      .reading asked current outer) :
    Orderly around locator text asked current outer := by
  have hsound : Sound around.outside (names current outer) := by
    have hfirst : (firstState around.outside locator text).Sound around.outside :=
      sound_firstState locator text
    have hall := sound_iterate hfirst n
    rw [h] at hall
    exact hall
  refine ⟨hsound.distinct, fun answered hanswered => ?_, ?_, fun s hs hmem => ?_,
    fun s hs hmem => ?_⟩
  · rw [← length_names]
    refine hsound.length_le ?_
    rintro name ⟨s, reply, rfl, hreply⟩
    exact hanswered s reply hreply
  · rw [← length_names]
    exact hsound.length_le_limit
  · exact read_of_next_ended h (next_of_mem_names hs hmem)
  · rcases next_of_not_mem_names hs hmem with hopened | ⟨error, hended, herror⟩
    · exact Or.inl hopened
    · exact Or.inr ⟨error, read_of_next_ended h hended, herror⟩

/-- **Reading ends, and the documents being read are different.** Whatever the texts are, reading
    without a bound comes to an end, which is the answer of `read`; in every state before it the
    documents on the stack are different, and so they are on every path down the includes of what
    has been read; and a cycle is reported exactly where a document on the stack would be included
    again, with the stack and that document. -/
theorem reading_ends (around : Surroundings) (locator text : String) :
    Leads around.outside (firstState around.outside locator text)
      (.ended (read around locator text).log (read around locator text).outcome) ∧
    (∀ n asked current outer,
      (next around.outside)^[n] (firstState around.outside locator text) =
        .reading asked current outer → Orderly around locator text asked current outer) ∧
    (∀ document, (read around locator text).outcome = .ok document →
      ∀ path, document.Path path → (path.map (sourceText around.outside)).Nodup) ∧
    ∀ name line cycle,
      (read around locator text).outcome = .error (.parse name line (.includeCycle cycle)) →
      ∃ n asked current outer s,
        (next around.outside)^[n] (firstState around.outside locator text) =
          .reading asked current outer ∧
        AtInclude around.outside current s ∧
        name = current.document.contents.locator ∧ line = current.line ∧
        cycle = names current outer ++ [s.text] ∧ (names current outer).Nodup ∧
        s.text ∈ names current outer := by
  refine ⟨leads_read around locator text, fun n asked current outer => orderly_of_iterate,
    fun document h path hpath => ?_, fun name line cycle h => ?_⟩
  · have hall : ([] ++ path.map (sourceText around.outside)).Nodup :=
      nodup_path h rfl (by simp) hpath
    exact hall
  · obtain ⟨n, hn⟩ := leads_read around locator text
    rw [h] at hn
    obtain ⟨m, asked, current, outer, hstate, hlast⟩ := exists_last_step hn
    obtain ⟨s, hat, hmem, rfl, rfl, rfl⟩ := atInclude_of_cycle hlast
    exact ⟨m, asked, current, outer, s, hstate, hat, rfl, rfl, rfl,
      (orderly_of_iterate hstate).distinct, hmem⟩

/-- A document that includes itself. -/
def whirlpool : Surroundings :=
  { readUrl := Address.reader
    home := some "/home"
    fetcher := .ofDictionary ⟨[("/loop", .ok "@include /loop")], by simp⟩ }

theorem read_whirlpool :
    read whirlpool "top" "@include /loop" =
      ⟨[.path "/loop"], .error (.parse "/loop" 1 (.includeCycle ["top", "/loop", "/loop"]))⟩ := by
  have hlines : Text.lines "@include /loop" = ["@include /loop"] := by cbv
  have hremark : Line.isRemark "@include /loop" = false := by cbv
  have hline : Directive.read "@include /loop" = .ok (.includes "/loop" []) := by cbv
  have htop : topText whirlpool.outside "top" = "top" := by cbv
  have hresolve : ∀ locator included,
      (Contents.start locator included .empty).resolve "/loop" = "/loop" := by
    intro locator included
    cbv
  have hs : ∀ locator included, whirlpool.outside.classify
      ((Contents.start locator included .empty).resolve "/loop") = .ok (.path "/loop") := by
    intro locator included
    rw [hresolve]
    cbv
  have hopen : openInclude whirlpool.outside ["top"] (.start "top" false .empty) 1 "/loop" [] =
      ⟨[.path "/loop"], .ok ⟨"/loop", .start "/loop" true .empty, [], "@include /loop"⟩⟩ := by
    rw [openInclude_of_answer (hs "top" false) (by decide) rfl, hresolve]
    rfl
  have hchild : readWithin whirlpool.outside 1 ["top", "/loop"] (.start "/loop" true .empty)
      (some []) "@include /loop" =
        ⟨[], .error (.parse "/loop" 1 (.includeCycle ["top", "/loop", "/loop"]))⟩ := by
    unfold readWithin
    rw [hlines]
    exact readLines_of_unopened hremark hline (openInclude_of_mem (hs "/loop" true) (by decide))
  unfold read readWithin
  rw [htop, hlines]
  exact readLines_of_childError hremark hline hopen hchild

theorem whirlpool_ends :
    ∃ n asked current outer s,
      (next whirlpool.outside)^[n] (firstState whirlpool.outside "top" "@include /loop") =
        .reading asked current outer ∧
      AtInclude whirlpool.outside current s ∧ current.document.contents.locator = "/loop" ∧
      names current outer ++ [s.text] = ["top", "/loop", "/loop"] ∧
      (current :: outer).length ≤ 2 := by
  obtain ⟨-, hstates, -, hcycle⟩ := reading_ends whirlpool "top" "@include /loop"
  obtain ⟨n, asked, current, outer, s, hstate, hat, hlocator, -, hnames, -, -⟩ :=
    hcycle "/loop" 1 _ (congrArg Logged.outcome read_whirlpool)
  exact ⟨n, asked, current, outer, s, hstate, hat, hlocator.symm, hnames.symm,
    (hstates n asked current outer hstate).limited⟩

end Document
end SshTemplate
