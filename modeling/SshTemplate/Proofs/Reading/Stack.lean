import SshTemplate.Proofs.Reading.Steps

/-!
# `Proofs.Reading.Stack` — reading without a bound

`readWithin` recurses on a bound, so it ends whether or not the program that it stands for would.
Here is reading with nothing to bound it: a machine with a stack of documents, the innermost in
front. One step reads one line. A line that includes a document pushes a frame; a document without
lines left is popped and handed to the document below it. Nothing else touches the stack, so its
names *are* the documents being read — it is not a list that is passed along and might be out of
date.

**The machine ends, and ends as `read` does** (`leads_read`). Two facts carry this.
What is pushed is an answered source that is not on the stack, so the stack holds different names
(`Sound`), and there are only `limit` names to push. And while the bound is large enough for the
names that are still missing from the stack (`Enough`), the recursion is one run of the machine
(`completes_readWithin`); the bound that `read` starts with is.
-/

set_option autoImplicit false

namespace SshTemplate
namespace Document

/-! ## The machine -/

/-- A document that is being read. -/
structure Frame where
  /-- The text of its source. -/
  name : String
  supplied : Option (List String)
  document : Document
  /-- The number of the next line. -/
  line : Nat
  rest : List String

inductive State where
  | reading (asked : List Source) (current : Frame) (outer : List Frame)
  | ended (asked : List Source) (outcome : Except Error Document)

/-- The documents being read, outermost first. -/
def names (current : Frame) (outer : List Frame) : Chain :=
  (outer.map Frame.name).reverse ++ [current.name]

def Opening.frame (opening : Opening) : Frame :=
  ⟨opening.name, some opening.supplied, ⟨opening.start, []⟩, 1, Text.lines opening.text⟩

/-- The frame behind the line that has just been read. -/
def Frame.behind (frame : Frame) (rest : List String) (document : Document) : Frame :=
  { frame with document := document, line := frame.line + 1, rest := rest }

variable (out : Outside)

/-- Reads a line that is not ignored. -/
def stepLine (asked : List Source) (current : Frame) (outer : List Frame) (raw : String)
    (rest : List String) : State :=
  let own := current.document.contents
  match Directive.read raw with
  | .error issue => .ended asked (.error (.parse own.locator current.line issue))
  | .ok (.includes source args) =>
    match openInclude out (names current outer) own current.line source args with
    | ⟨more, .error error⟩ => .ended (asked ++ more) (.error error)
    | ⟨more, .ok opening⟩ =>
      .reading (asked ++ more) opening.frame (current.behind rest current.document :: outer)
  | .ok directive =>
    match own.obey current.supplied directive with
    | .error issue => .ended asked (.error (.parse own.locator current.line issue))
    | .ok own =>
      .reading asked (current.behind rest { current.document with contents := own }) outer

/-- One step. A reading that has ended stays as it is. -/
def next : State → State
  | .ended asked outcome => .ended asked outcome
  | .reading asked current outer =>
    match current.rest, outer with
    | [], [] => .ended asked (.ok current.document)
    | [], parent :: others =>
      .reading asked { parent with document := parent.document.addInclude current.document } others
    | raw :: rest, outer =>
      if Line.isRemark raw then .reading asked (current.behind rest current.document) outer
      else stepLine out asked current outer raw rest

/-- The top document before its first line. -/
def firstState (locator text : String) : State :=
  .reading [] ⟨topText out locator, none, ⟨.start locator false .empty, []⟩, 1,
    Text.lines text⟩ []

/-- The second state comes after the first. -/
def Leads (a b : State) : Prop := ∃ n, (next out)^[n] a = b

variable {out}

theorem Leads.refl (a : State) : Leads out a a := ⟨0, rfl⟩

theorem Leads.trans {a b c : State} (hab : Leads out a b) (hbc : Leads out b c) :
    Leads out a c := by
  obtain ⟨n, rfl⟩ := hab
  obtain ⟨m, rfl⟩ := hbc
  exact ⟨m + n, Function.iterate_add_apply (next out) m n a⟩

theorem Leads.step {a b : State} (h : next out a = b) : Leads out a b := ⟨1, h⟩

theorem Leads.head {a b c : State} (h : next out a = b) (hbc : Leads out b c) : Leads out a c :=
  (Leads.step h).trans hbc

theorem iterate_ended (n : Nat) (asked : List Source) (outcome : Except Error Document) :
    (next out)^[n] (.ended asked outcome) = .ended asked outcome := by
  induction n with
  | zero => rfl
  | succ n ih => rw [Function.iterate_succ_apply', ih, next]

theorem ended_unique {a : State} {asked asked' : List Source}
    {outcome outcome' : Except Error Document} (h : Leads out a (.ended asked outcome))
    (h' : Leads out a (.ended asked' outcome')) : asked = asked' ∧ outcome = outcome' := by
  obtain ⟨n, hn⟩ := h
  obtain ⟨m, hm⟩ := h'
  -- Each of them, continued for as long as the other took, is one state.
  have hsame : State.ended asked outcome = .ended asked' outcome' := by
    calc State.ended asked outcome
        = (next out)^[m] (.ended asked outcome) := (iterate_ended m asked outcome).symm
      _ = (next out)^[n] ((next out)^[m] a) := by
          rw [← hn, ← Function.iterate_add_apply, Nat.add_comm, Function.iterate_add_apply]
      _ = .ended asked' outcome' := by rw [hm, iterate_ended]
  cases hsame
  exact ⟨rfl, rfl⟩

/-! ## One step, by what the line is -/

section Step

variable {asked : List Source} {current : Frame} {outer : List Frame} {raw source : String}
variable {rest args : List String}

theorem next_of_remark (hrest : current.rest = raw :: rest) (hr : Line.isRemark raw = true) :
    next out (.reading asked current outer) =
      .reading asked (current.behind rest current.document) outer := by
  unfold next
  dsimp only
  rw [hrest]
  dsimp only
  rw [if_pos hr]

theorem next_of_line (hrest : current.rest = raw :: rest) (hr : ¬ Line.isRemark raw = true) :
    next out (.reading asked current outer) = stepLine out asked current outer raw rest := by
  unfold next
  dsimp only
  rw [hrest]
  dsimp only
  rw [if_neg hr]

theorem next_of_end (hrest : current.rest = []) :
    next out (.reading asked current []) = .ended asked (.ok current.document) := by
  unfold next
  dsimp only
  rw [hrest]

theorem next_of_return {parent : Frame} (hrest : current.rest = []) :
    next out (.reading asked current (parent :: outer)) =
      .reading asked { parent with document := parent.document.addInclude current.document }
        outer := by
  unfold next
  dsimp only
  rw [hrest]

theorem stepLine_of_error {issue : Issue} (h : Directive.read raw = .error issue) :
    stepLine out asked current outer raw rest =
      .ended asked (.error (.parse current.document.contents.locator current.line issue)) := by
  unfold stepLine
  rw [h]

theorem stepLine_of_directive {directive : Directive} (h : Directive.read raw = .ok directive)
    (hne : ∀ source args, directive ≠ .includes source args) :
    stepLine out asked current outer raw rest =
      match current.document.contents.obey current.supplied directive with
      | .error issue =>
        .ended asked (.error (.parse current.document.contents.locator current.line issue))
      | .ok own =>
        .reading asked (current.behind rest { current.document with contents := own }) outer := by
  unfold stepLine
  rw [h]
  cases directive with
  | includes source args => exact absurd rfl (hne source args)
  | _ => rfl

theorem stepLine_of_include (h : Directive.read raw = .ok (.includes source args)) :
    stepLine out asked current outer raw rest =
      match openInclude out (names current outer) current.document.contents current.line source
        args with
      | ⟨more, .error error⟩ => .ended (asked ++ more) (.error error)
      | ⟨more, .ok opening⟩ =>
        .reading (asked ++ more) opening.frame
          (current.behind rest current.document :: outer) := by
  unfold stepLine
  rw [h]

end Step

/-! ## The names on the stack -/

theorem names_push (opening : Opening) (current : Frame) (rest : List String) (document : Document)
    (outer : List Frame) :
    names opening.frame (current.behind rest document :: outer) =
      names current outer ++ [opening.name] := by
  unfold names
  rw [List.map_cons, List.reverse_cons]
  rfl

theorem names_pop (current parent : Frame) (others : List Frame) :
    names current (parent :: others) = names parent others ++ [current.name] := by
  unfold names
  rw [List.map_cons, List.reverse_cons]

/-- There is an answer for some source with the text. -/
def Outside.Answers (out : Outside) (name : String) : Prop :=
  ∃ source reply, source.text = name ∧ out.fetch source = .ok reply

/-- What is known of the stack in every state: the names are different, and all but the first are
    answered. -/
structure Sound (out : Outside) (chain : Chain) : Prop where
  distinct : chain.Nodup
  answered : ∀ name ∈ chain.tail, out.Answers name

/-- An opened document is one that has been answered for, and that is not being read. -/
theorem fresh_of_openInclude {own : Contents} {chain : Chain} {line : Nat} {source : String}
    {args : List String} {more : List Source} {opening : Opening}
    (h : openInclude out chain own line source args = ⟨more, .ok opening⟩) :
    opening.name ∉ chain ∧ out.Answers opening.name := by
  obtain ⟨s, reply, -, hfresh, hreply, rfl⟩ :=
    exists_of_openInclude_eq_ok (congrArg Logged.outcome h)
  exact ⟨hfresh, s, reply, rfl, hreply⟩

theorem Sound.push {chain : Chain} {name : String} (h : Sound out chain) (hfresh : name ∉ chain)
    (hname : out.Answers name) : Sound out (chain ++ [name]) := by
  constructor
  · exact nodup_push h.distinct hfresh
  · intro other hother
    cases chain with
    | nil => exact absurd hother (by simp)
    | cons first more =>
      rcases List.mem_append.1 hother with hother | hother
      · exact h.answered other hother
      · obtain rfl : other = name := by simpa using hother
        exact hname

theorem Sound.pop {chain : Chain} {name : String} (h : Sound out (chain ++ [name])) :
    Sound out chain := by
  refine ⟨(List.nodup_append.1 h.distinct).1, fun other hother => h.answered other ?_⟩
  cases chain with
  | nil => exact absurd hother (by simp)
  | cons first more => exact List.mem_append.2 (Or.inl hother)

def State.Sound (out : Outside) : State → Prop
  | .reading _ current outer => Document.Sound out (names current outer)
  | .ended _ _ => True

theorem sound_stepLine {asked : List Source} {current : Frame} {outer : List Frame} {raw : String}
    {rest : List String} (h : Sound out (names current outer)) :
    (stepLine out asked current outer raw rest).Sound out := by
  cases hread : Directive.read raw with
  | error issue =>
    rw [stepLine_of_error hread]
    trivial
  | ok directive =>
    rcases directive.includes_or_not with ⟨source, args, rfl⟩ | hne
    · rw [stepLine_of_include hread]
      rcases hopen : openInclude out (names current outer) current.document.contents current.line
        source args with ⟨more, error | opening⟩
      · trivial
      · obtain ⟨hfresh, hname⟩ := fresh_of_openInclude hopen
        show Sound out _
        rw [names_push]
        exact h.push hfresh hname
    · rw [stepLine_of_directive hread hne]
      cases current.document.contents.obey current.supplied directive with
      | error issue => trivial
      | ok own => exact h

/-- **A step keeps the names on the stack different.** -/
theorem sound_next {state : State} (h : state.Sound out) : (next out state).Sound out := by
  cases state with
  | ended asked outcome => trivial
  | reading asked current outer =>
    cases hrest : current.rest with
    | nil =>
      cases outer with
      | nil =>
        rw [next_of_end hrest]
        trivial
      | cons parent others =>
        rw [next_of_return hrest]
        -- The document below is the one whose names are all of these but the last.
        have h : Sound out (names current (parent :: others)) := h
        rw [names_pop] at h
        exact h.pop
    | cons raw rest =>
      by_cases hr : Line.isRemark raw = true
      · rw [next_of_remark hrest hr]
        exact h
      · rw [next_of_line hrest hr]
        exact sound_stepLine h

theorem sound_iterate {state : State} (h : state.Sound out) (n : Nat) :
    ((next out)^[n] state).Sound out := by
  induction n with
  | zero => exact h
  | succ n ih =>
    rw [Function.iterate_succ_apply']
    exact sound_next ih

theorem sound_firstState (locator text : String) : (firstState out locator text).Sound out :=
  ⟨by simp [names], fun name hname => absurd hname (by simp [names])⟩

/-! ## The recursion is a run -/

/-- The bound allows for every name that is answered and not in the chain. -/
def Enough (out : Outside) (chain : Chain) (depth : Nat) : Prop :=
  ∀ more : List String, (chain ++ more).Nodup → (∀ name ∈ more, out.Answers name) →
    more.length < depth

theorem Enough.push {chain : Chain} {depth : Nat} {name : String}
    (h : Enough out chain (depth + 1)) (hname : out.Answers name) :
    Enough out (chain ++ [name]) depth := by
  intro more hdistinct hmore
  rw [List.append_assoc] at hdistinct
  have hlonger := h (name :: more) hdistinct (List.forall_mem_cons.2 ⟨hname, hmore⟩)
  rw [List.length_cons] at hlonger
  exact Nat.lt_of_succ_lt_succ hlonger

theorem Enough.mono {chain : Chain} {depth depth' : Nat} (h : Enough out chain depth)
    (hle : depth ≤ depth') : Enough out chain depth' :=
  fun more hdistinct hmore => Nat.lt_of_lt_of_le (h more hdistinct hmore) hle

/-- The bound that `read` starts with is enough. -/
theorem enough_limit (around : Surroundings) (name : String) :
    Enough around.outside [name] (around.fetcher.limit + 1) := by
  intro more hdistinct hmore
  have hle := around.fetcher.limited more (List.nodup_append.1 hdistinct).2.1 hmore
  exact Nat.lt_succ_of_le hle

/-- The machine does with the document on top of the stack what `reading` comes to: it reads it to
    its end, or ends with the same error, and asks for the same sources. -/
def Completes (out : Outside) (asked : List Source) (current : Frame) (outer : List Frame)
    (reading : Reading Document) : Prop :=
  match reading.outcome with
  | .ok document =>
    ∃ line, Leads out (.reading asked current outer) (.reading (asked ++ reading.log)
      ⟨current.name, current.supplied, document, line, []⟩ outer)
  | .error error =>
    Leads out (.reading asked current outer) (.ended (asked ++ reading.log) (.error error))

/-- What is done before the rest is done first. -/
theorem Completes.after {asked log : List Source} {current : Frame} {outer : List Frame}
    {reading : Reading Document} {rest : List String} {document : Document}
    (h : Leads out (.reading asked current outer)
      (.reading (asked ++ log) (current.behind rest document) outer))
    (hc : Completes out (asked ++ log) (current.behind rest document) outer reading) :
    Completes out asked current outer ⟨log ++ reading.log, reading.outcome⟩ := by
  unfold Completes at hc ⊢
  rw [← List.append_assoc]
  cases houtcome : reading.outcome with
  | error error =>
    rw [houtcome] at hc
    exact h.trans hc
  | ok final =>
    rw [houtcome] at hc
    obtain ⟨line, hc⟩ := hc
    exact ⟨line, h.trans hc⟩

theorem Completes.head {asked : List Source} {current : Frame} {outer : List Frame}
    {reading : Reading Document} {rest : List String} {document : Document}
    (h : next out (.reading asked current outer) =
      .reading asked (current.behind rest document) outer)
    (hc : Completes out asked (current.behind rest document) outer reading) :
    Completes out asked current outer reading := by
  rw [← List.append_nil asked] at hc
  refine Completes.after ?_ hc
  rw [List.append_nil]
  exact Leads.step h

theorem Completes.fail {asked : List Source} {current : Frame} {outer : List Frame} {error : Error}
    (h : next out (.reading asked current outer) = .ended asked (.error error)) :
    Completes out asked current outer (.fail error) := by
  show Leads out _ (.ended (asked ++ []) (.error error))
  rw [List.append_nil]
  exact Leads.step h

variable {readChild : ReadChild} {name : String} {supplied : Option (List String)}
variable {outer : List Frame} {chain : Chain}

/-- The line that includes a document: what is below on the stack waits until that document has been
    read to its end. -/
theorem completes_include {asked opened : List Source} {current : Frame} {raw source : String}
    {rest args : List String} {own : Contents} {includes : List Document} {opening : Opening}
    (hr : Line.isRemark raw = false) (hread : Directive.read raw = .ok (.includes source args))
    (hopen : openInclude out chain own current.line source args = ⟨opened, .ok opening⟩)
    (hstep : next out (.reading asked current outer) =
      .reading (asked ++ opened) opening.frame (current.behind rest ⟨own, includes⟩ :: outer))
    (hchild : Completes out (asked ++ opened) opening.frame
      (current.behind rest ⟨own, includes⟩ :: outer)
      (readChild (chain ++ [opening.name]) opening))
    (hrest : ∀ asked document, Completes out asked (current.behind rest document) outer
      (readLines out readChild chain supplied (current.line + 1) rest document)) :
    Completes out asked current outer
      (readLines out readChild chain supplied current.line (raw :: rest) ⟨own, includes⟩) := by
  rcases hreading : readChild (chain ++ [opening.name]) opening with ⟨more, error | child⟩
  · rw [readLines_of_childError hr hread hopen hreading]
    rw [hreading] at hchild
    show Leads out _ (.ended (asked ++ (opened ++ more)) (.error error))
    rw [← List.append_assoc]
    exact Leads.head hstep hchild
  · rw [readLines_of_include hr hread hopen hreading]
    rw [hreading] at hchild
    obtain ⟨line, hchild⟩ := hchild
    have hpop : next out (.reading (asked ++ opened ++ more)
        ⟨opening.frame.name, opening.frame.supplied, child, line, []⟩
        (current.behind rest ⟨own, includes⟩ :: outer)) =
          .reading (asked ++ opened ++ more) (current.behind rest ⟨own, includes ++ [child]⟩)
            outer :=
      next_of_return rfl
    -- Behind the include the machine stands where it stood, with one more included document.
    have hback := (Leads.head hstep hchild).trans (Leads.step hpop)
    rw [List.append_assoc] at hback
    exact Completes.after hback (hrest _ ⟨own, includes ++ [child]⟩)

/-- **Reading lines is a run**, if reading the documents they include is. -/
theorem completes_readLines (hchain : chain = (outer.map Frame.name).reverse ++ [name])
    (hchild : ∀ asked opening below, below.name = name → opening.name ∉ chain →
      out.Answers opening.name →
        Completes out asked opening.frame (below :: outer)
          (readChild (chain ++ [opening.name]) opening))
    (lines : List String) (asked : List Source) (line : Nat) (document : Document) :
    Completes out asked ⟨name, supplied, document, line, lines⟩ outer
      (readLines out readChild chain supplied line lines document) := by
  induction lines generalizing asked line document with
  | nil =>
    refine ⟨line, ?_⟩
    rw [show asked ++ (readLines out readChild chain supplied line [] document).log = asked from
      List.append_nil asked]
    exact Leads.refl _
  | cons raw rest ih =>
    by_cases hr : Line.isRemark raw = true
    · rw [readLines_of_remark hr]
      exact Completes.head (next_of_remark rfl hr) (ih asked (line + 1) document)
    · obtain ⟨own, includes⟩ := document
      have hstep : next out
          (.reading asked ⟨name, supplied, ⟨own, includes⟩, line, raw :: rest⟩ outer) =
            stepLine out asked ⟨name, supplied, ⟨own, includes⟩, line, raw :: rest⟩ outer raw
              rest :=
        next_of_line rfl hr
      rw [Bool.not_eq_true] at hr
      cases hread : Directive.read raw with
      | error issue =>
        rw [stepLine_of_error hread] at hstep
        rw [readLines_of_unread hr hread]
        exact Completes.fail hstep
      | ok directive =>
        rcases directive.includes_or_not with ⟨source, args, rfl⟩ | hne
        · rw [stepLine_of_include hread] at hstep
          dsimp only [names] at hstep
          rw [← hchain] at hstep
          rcases hopen : openInclude out chain own line source args with ⟨opened, error | opening⟩
          · rw [hopen] at hstep
            rw [readLines_of_unopened hr hread hopen]
            exact Leads.step hstep
          · rw [hopen] at hstep
            obtain ⟨hfresh, hname⟩ := fresh_of_openInclude hopen
            exact completes_include hr hread hopen hstep
              (hchild _ opening _ rfl hfresh hname)
              fun asked document => ih asked (line + 1) document
        · rw [stepLine_of_directive hread hne] at hstep
          cases hobey : own.obey supplied directive with
          | error issue =>
            dsimp only at hstep
            rw [hobey] at hstep
            rw [readLines_of_disobey hr hread hne hobey]
            exact Completes.fail hstep
          | ok later =>
            dsimp only at hstep
            rw [hobey] at hstep
            rw [readLines_of_obey hr hread hne hobey]
            exact Completes.head hstep (ih asked (line + 1) ⟨later, includes⟩)

/-- **With enough of a bound, the recursion is a run.** -/
theorem completes_readWithin {depth : Nat} {asked : List Source} {start : Contents} {text : String}
    (hsound : (names ⟨name, supplied, ⟨start, []⟩, 1, Text.lines text⟩ outer).Nodup)
    (henough : Enough out (names ⟨name, supplied, ⟨start, []⟩, 1, Text.lines text⟩ outer) depth) :
    Completes out asked ⟨name, supplied, ⟨start, []⟩, 1, Text.lines text⟩ outer
      (readWithin out depth ((outer.map Frame.name).reverse ++ [name]) start supplied text) := by
  induction depth generalizing asked name supplied start text outer with
  | zero =>
    -- The bound allows at least for the document itself.
    have hpos := henough [] (by simpa using hsound) (by simp)
    exact absurd hpos (Nat.lt_irrefl 0)
  | succ depth ih =>
    unfold readWithin
    -- An opened document takes one of the names that were missing, and one off the bound.
    refine completes_readLines rfl (fun asked opening below hbelow hfresh hname => ?_) _ _ _ _
    have hchain : (((below :: outer).map Frame.name).reverse ++ [opening.name]) =
        (outer.map Frame.name).reverse ++ [name] ++ [opening.name] := by
      rw [List.map_cons, List.reverse_cons, hbelow]
    have hdistinct : (((below :: outer).map Frame.name).reverse ++ [opening.name]).Nodup := by
      rw [hchain]
      exact nodup_push hsound hfresh
    have hmore :
        Enough out (((below :: outer).map Frame.name).reverse ++ [opening.name]) depth := by
      rw [hchain]
      exact Enough.push henough hname
    rw [← hchain]
    exact ih hdistinct hmore

/-- Under any bound that is enough, the machine comes to what the recursion comes to. -/
theorem leads_readWithin {locator text : String} {depth : Nat}
    (henough : Enough out [topText out locator] depth) :
    let reading :=
      readWithin out depth [topText out locator] (.start locator false .empty) none text
    Leads out (firstState out locator text) (.ended reading.log reading.outcome) := by
  intro reading
  have hrun : Completes out []
      ⟨topText out locator, none, ⟨.start locator false .empty, []⟩, 1, Text.lines text⟩ []
      reading :=
    completes_readWithin (by simp [names]) henough
  unfold Completes at hrun
  cases houtcome : reading.outcome with
  | error error =>
    rw [houtcome] at hrun
    exact hrun
  | ok document =>
    rw [houtcome] at hrun
    obtain ⟨line, hrun⟩ := hrun
    exact hrun.trans (Leads.step (next_of_end rfl))

/-- **Reading ends.** The machine comes to the sources and to the outcome that `read` answers. -/
theorem leads_read (around : Surroundings) (locator text : String) :
    Leads around.outside (firstState around.outside locator text)
      (.ended (read around locator text).log (read around locator text).outcome) :=
  leads_readWithin (enough_limit around _)

end Document
end SshTemplate
