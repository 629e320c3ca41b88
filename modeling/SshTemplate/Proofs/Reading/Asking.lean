import SshTemplate.Proofs.Reading.Cycles
import SshTemplate.Proofs.Rendering.Flattening

/-!
# `Proofs.Reading.Asking` — which sources are asked for, and in which order

A source is asked for at the line that includes it, and what comes back is read to its end before
the next line. So the sources that have been asked for are the included documents in preorder, at
every moment and not only at the end — if the documents that are still being read are counted as
included where they will be. That tree is `treeSoFar`: the stack of the machine, each document with
the one above it as its last include. Returning to the document below changes the stack, but not
this tree; opening a document adds one leaf, behind all others in preorder.

The invariant is `Lists`. It says at once that no include goes unasked, that none is asked for
twice, and that one source included at two places is asked for at both. What is *not* asked for is
the other half: a step asks for a source only if its line is an include of it, and the source is
not being read (`Asks`); otherwise it asks for nothing, whether it goes on or ends the reading.
-/

set_option autoImplicit false

namespace SshTemplate
namespace Document

variable {out : Outside} {asked : List Source} {current : Frame} {outer : List Frame}
variable {document : Document} {s : Source}

/-! ## The tree so far -/

/-- The top document with everything that has been read: each document on the stack has the one
    above it as its last include. -/
def treeSoFar (current : Frame) (outer : List Frame) : Document :=
  outer.foldl (fun child parent => parent.document.addInclude child) current.document

theorem preorder_eq (document : Document) :
    document.preorder = document.contents :: preorderAll document.includes := by
  obtain ⟨own, includes⟩ := document
  rw [preorder]

theorem preorderAll_append (documents more : List Document) :
    preorderAll (documents ++ more) = preorderAll documents ++ preorderAll more := by
  induction documents with
  | nil => rfl
  | cons first rest ih => rw [List.cons_append, preorderAll, preorderAll, ih, List.append_assoc]

theorem preorder_addInclude (document child : Document) :
    (document.addInclude child).preorder = document.preorder ++ child.preorder := by
  rw [preorder_eq, preorder_eq document]
  unfold addInclude
  rw [preorderAll_append, preorderAll, preorderAll, List.append_nil]
  rfl

/-- In preorder, the documents below on the stack come before those above. -/
theorem preorder_treeSoFar (current : Frame) (outer : List Frame) :
    (treeSoFar current outer).preorder =
      (outer.reverse.flatMap fun frame => frame.document.preorder) ++
        current.document.preorder := by
  unfold treeSoFar
  generalize current.document = document
  induction outer generalizing document with
  | nil => rfl
  | cons parent others ih =>
    rw [List.foldl_cons, ih, preorder_addInclude, List.reverse_cons, List.flatMap_append,
      List.flatMap_singleton, List.append_assoc]

/-! ## One step -/

/-- The next line asks for the source: it includes a document, the resolved locator means the
    source, and no document from that source is being read. -/
def Asks (out : Outside) (current : Frame) (outer : List Frame) (s : Source) : Prop :=
  AtInclude out current s ∧ s.text ∉ names current outer

/-- All that a step can do. -/
inductive Moves (out : Outside) (asked : List Source) (current : Frame) :
    List Frame → State → Prop where
  | finishes (idle : ∀ s, ¬ AtInclude out current s) :
      Moves out asked current [] (.ended asked (.ok current.document))
  | returns {parent : Frame} {others : List Frame} (idle : ∀ s, ¬ AtInclude out current s) :
      Moves out asked current (parent :: others)
        (.reading asked { parent with document := parent.document.addInclude current.document }
          others)
  | goesOn {outer : List Frame} {rest : List String} {document : Document}
      (idle : ∀ s, ¬ AtInclude out current s)
      (located : document.contents.locator = current.document.contents.locator)
      (includes : document.includes = current.document.includes) :
      Moves out asked current outer (.reading asked (current.behind rest document) outer)
  | fails {outer : List Frame} {error : Error} (silent : ∀ s, ¬ Asks out current outer s) :
      Moves out asked current outer (.ended asked (.error error))
  | asksInVain {outer : List Frame} {s : Source} {error : Error} (asks : Asks out current outer s) :
      Moves out asked current outer (.ended (asked ++ [s]) (.error error))
  | opens {outer : List Frame} {s : Source} {opening : Opening} {rest : List String}
      (asks : Asks out current outer s)
      (classified : out.classify opening.start.locator = .ok s) :
      Moves out asked current outer (.reading (asked ++ [s]) opening.frame
        (current.behind rest current.document :: outer))

theorem AtInclude.unique {s s' : Source} (h : AtInclude out current s)
    (h' : AtInclude out current s') : s = s' := by
  obtain ⟨raw, rest, source, args, hrest, -, hread, hs⟩ := h
  obtain ⟨raw', rest', source', args', hrest', -, hread', hs'⟩ := h'
  cases hrest.symm.trans hrest'
  cases hread.symm.trans hread'
  exact Except.ok.inj (hs.symm.trans hs')

/-- What is no line with an include, includes nothing. -/
theorem not_atInclude {raw : String} {rest : List String} (hrest : current.rest = raw :: rest)
    (h : ∀ source args, Line.isRemark raw = true ∨
      Directive.read raw ≠ .ok (.includes source args)) : ¬ AtInclude out current s := by
  rintro ⟨raw', rest', source, args, hrest', hr, hread, -⟩
  cases hrest.symm.trans hrest'
  rcases h source args with h | h
  · exact hr h
  · exact h hread

/-- A line that includes a document. -/
theorem moves_of_include {raw source : String} {rest args : List String}
    (hrest : current.rest = raw :: rest) (hr : ¬ Line.isRemark raw = true)
    (hread : Directive.read raw = .ok (.includes source args)) :
    Moves out asked current outer (next out (.reading asked current outer)) := by
  rw [next_of_line hrest hr, stepLine_of_include hread]
  cases hs : out.classify (current.document.contents.resolve source) with
  | error refusal =>
    rw [openInclude_of_refused hs]
    show Moves out asked current outer (.ended (asked ++ []) _)
    rw [List.append_nil]
    refine .fails fun s hasks => ?_
    obtain ⟨⟨raw', rest', source', args', hrest', -, hread', hs'⟩, -⟩ := hasks
    cases hrest.symm.trans hrest'
    cases hread.symm.trans hread'
    cases hs.symm.trans hs'
  | ok s =>
    have hat : AtInclude out current s := ⟨raw, rest, source, args, hrest, hr, hread, hs⟩
    by_cases hmem : s.text ∈ names current outer
    · rw [openInclude_of_mem hs hmem]
      show Moves out asked current outer (.ended (asked ++ []) _)
      rw [List.append_nil]
      refine .fails fun s' hasks => hasks.2 ?_
      rw [hasks.1.unique hat]
      exact hmem
    · cases hf : out.fetch s with
      | error failure =>
        obtain ⟨error, hopen, -⟩ := openInclude_of_failure hs hmem hf
        rw [hopen]
        exact .asksInVain ⟨hat, hmem⟩
      | ok reply =>
        rw [openInclude_of_answer hs hmem hf]
        exact .opens ⟨hat, hmem⟩ hs

theorem moves_next (out : Outside) (asked : List Source) (current : Frame) (outer : List Frame) :
    Moves out asked current outer (next out (.reading asked current outer)) := by
  cases hrest : current.rest with
  | nil =>
    have hidle : ∀ s, ¬ AtInclude out current s := by
      rintro s ⟨raw, rest, source, args, hrest', -⟩
      cases hrest.symm.trans hrest'
    cases outer with
    | nil =>
      rw [next_of_end hrest]
      exact .finishes hidle
    | cons parent others =>
      rw [next_of_return hrest]
      exact .returns hidle
  | cons raw rest =>
    by_cases hr : Line.isRemark raw = true
    · rw [next_of_remark hrest hr]
      exact .goesOn (fun s => not_atInclude hrest fun _ _ => Or.inl hr) rfl rfl
    · cases hread : Directive.read raw with
      | error issue =>
        rw [next_of_line hrest hr, stepLine_of_error hread]
        refine .fails fun s hasks => not_atInclude hrest (fun _ _ => Or.inr ?_) hasks.1
        rw [hread]
        simp
      | ok directive =>
        rcases directive.includes_or_not with ⟨source, args, rfl⟩ | hne
        · exact moves_of_include hrest hr hread
        · have hidle : ∀ s, ¬ AtInclude out current s := by
            refine fun s => not_atInclude hrest fun source args => Or.inr ?_
            rw [hread]
            exact fun h => hne source args (Except.ok.inj h)
          rw [next_of_line hrest hr, stepLine_of_directive hread hne]
          cases hobey : current.document.contents.obey current.supplied directive with
          | error issue => exact .fails fun s hasks => hidle s hasks.1
          | ok own => exact .goesOn hidle (Contents.locator_of_obey hobey).1 rfl

/-! ## What has been asked for -/

/-- The sources asked for so far. -/
def State.log : State → List Source
  | .reading asked _ _ => asked
  | .ended asked _ => asked

/-- **A step asks for the source of its line, if it has one to ask for, and for nothing else.** -/
theorem log_next (out : Outside) (asked : List Source) (current : Frame) (outer : List Frame) :
    (∃ s, Asks out current outer s ∧
      (next out (.reading asked current outer)).log = asked ++ [s]) ∨
    (∀ s, ¬ Asks out current outer s) ∧
      (next out (.reading asked current outer)).log = asked := by
  have hmoves := moves_next out asked current outer
  generalize next out (.reading asked current outer) = state at hmoves ⊢
  cases hmoves with
  | finishes idle => exact Or.inr ⟨fun s hasks => idle s hasks.1, rfl⟩
  | returns idle => exact Or.inr ⟨fun s hasks => idle s hasks.1, rfl⟩
  | goesOn idle located includes => exact Or.inr ⟨fun s hasks => idle s hasks.1, rfl⟩
  | fails silent => exact Or.inr ⟨silent, rfl⟩
  | asksInVain asks => exact Or.inl ⟨_, asks, rfl⟩
  | opens asks classified => exact Or.inl ⟨_, asks, rfl⟩

/-- **Every source was asked for by a line**: when the sources before it had been asked for, a
    document was being read whose next line includes it. -/
theorem exists_asks {start : State} (hstart : start.log = []) (n i : ℕ)
    (hi : ((next out)^[n] start).log[i]? = some s) :
    ∃ m current outer, m < n ∧
      (next out)^[m] start = .reading (((next out)^[n] start).log.take i) current outer ∧
      Asks out current outer s := by
  induction n with
  | zero =>
    rw [Function.iterate_zero, id_eq, hstart] at hi
    cases hi
  | succ n ih =>
    rw [Function.iterate_succ_apply'] at hi ⊢
    -- What the step has added, if anything, is the last of the sources.
    have hkept : ∀ more, ((next out)^[n] start).log[i]? = some s →
        (next out ((next out)^[n] start)).log = ((next out)^[n] start).log ++ more →
        ∃ m current outer, m < n + 1 ∧ (next out)^[m] start =
          .reading ((next out ((next out)^[n] start)).log.take i) current outer ∧
          Asks out current outer s := by
      intro more hi hlog
      obtain ⟨m, current, outer, hm, hstate, hasks⟩ := ih hi
      obtain ⟨hlt, -⟩ := List.getElem?_eq_some_iff.1 hi
      rw [hlog, List.take_append_of_le_length (Nat.le_of_lt hlt)]
      exact ⟨m, current, outer, Nat.lt_succ_of_lt hm, hstate, hasks⟩
    cases hstate : (next out)^[n] start with
    | ended asked outcome =>
      rw [hstate] at hi hkept
      exact hkept [] hi (List.append_nil _).symm
    | reading asked current outer =>
      rw [hstate] at hi hkept
      rcases log_next out asked current outer with ⟨s', hasks, hlog⟩ | ⟨-, hlog⟩
      · rw [hlog] at hi
        by_cases hlt : i < asked.length
        · rw [List.getElem?_append_left hlt] at hi
          exact hkept [s'] hi hlog
        · obtain ⟨hle, hs⟩ := List.getElem?_eq_some_iff.1 hi
          rw [List.length_append, List.length_singleton] at hle
          obtain rfl : i = asked.length := by omega
          rw [List.getElem_concat_length rfl] at hs
          subst hs
          refine ⟨n, current, outer, Nat.lt_succ_self n, ?_, hasks⟩
          rw [hstate, hlog, List.take_left]
      · rw [hlog] at hi
        exact hkept [] hi (hlog.trans (List.append_nil _).symm)

/-! ## The tree lists them -/

/-- The sources are those of the included documents, in preorder, each as often as it is
    included. -/
def Lists (out : Outside) (document : Document) (asked : List Source) : Prop :=
  ((preorderAll document.includes).map fun own => out.classify own.locator) =
    asked.map .ok

/-- The invariant: the tree so far lists what has been asked for, behind the top document. -/
def State.Lists (out : Outside) (top : Except Refusal Source) : State → Prop
  | .reading asked current outer =>
    ((treeSoFar current outer).preorder.map fun own => out.classify own.locator) =
      top :: asked.map .ok
  | .ended asked (.ok document) =>
    (document.preorder.map fun own => out.classify own.locator) = top :: asked.map .ok
  | .ended _ (.error _) => True

theorem lists_of_preorder {top : Except Refusal Source}
    (h : (document.preorder.map fun own => out.classify own.locator) =
      top :: asked.map .ok) : Lists out document asked := by
  rw [preorder_eq, List.map_cons] at h
  exact (List.cons.inj h).2

/-- **A step keeps the tree and the sources together.** -/
theorem lists_next {top : Except Refusal Source} {state : State} (h : state.Lists out top) :
    (next out state).Lists out top := by
  cases state with
  | ended asked outcome => exact h
  | reading asked current outer =>
    have hmoves := moves_next out asked current outer
    generalize next out (.reading asked current outer) = state at hmoves
    dsimp only [State.Lists] at h
    cases hmoves with
    | finishes idle => exact h
    | returns idle => exact h
    | goesOn idle located includes =>
      dsimp only [State.Lists]
      rw [preorder_treeSoFar, preorder_eq, List.map_append, List.map_cons] at h ⊢
      dsimp only [Frame.behind]
      rw [located, includes]
      exact h
    | fails silent => trivial
    | asksInVain asks => trivial
    | @opens _ s opening rest asks classified =>
      -- The opened document is one leaf behind all others.
      have hleaf : opening.frame.document.preorder = [opening.start] := preorder_eq _
      dsimp only [State.Lists]
      rw [preorder_treeSoFar, hleaf, List.reverse_cons, List.flatMap_append,
        List.flatMap_singleton]
      rw [preorder_treeSoFar] at h
      dsimp only [Frame.behind, Opening.frame]
      rw [List.map_append, h, List.map_append, List.map_singleton, List.map_singleton, classified]
      rfl

/-- **Whatever has been asked for is what the tree lists**, in every state. -/
theorem lists_iterate (out : Outside) (locator text : String) (n : ℕ) :
    ((next out)^[n] (firstState out locator text)).Lists out
      (out.classify locator) := by
  induction n with
  | zero => rfl
  | succ n ih =>
    rw [Function.iterate_succ_apply']
    exact lists_next ih

/-! ## The result -/

/-- **The sources asked for are the included documents in preorder.** The reading is the machine's,
    which `read` answers for. When it ends well, one source has been asked for per included
    document, in preorder, and it is what the document's resolved locator means. When it fails, the
    last state before has a tree that lists what had been asked for until then, and the line at
    fault has added its own source if it asked for one. On the way every state's tree lists what has
    been asked for; a step asks for a source only at an include that is neither refused nor a cycle;
    and whatever has been asked for was asked for by such a step, after all that stands before
    it. -/
theorem requests_are_preorder (out : Outside) (locator text : String) :
    (∀ around, around.outside = out → Leads out (firstState out locator text)
      (.ended (read around locator text).log (read around locator text).outcome)) ∧
    (∀ asked document, Leads out (firstState out locator text) (.ended asked (.ok document)) →
      Lists out document asked) ∧
    (∀ asked error, Leads out (firstState out locator text) (.ended asked (.error error)) →
      ∃ n asked' current outer,
        (next out)^[n] (firstState out locator text) = .reading asked' current outer ∧
        next out (.reading asked' current outer) = .ended asked (.error error) ∧
        Lists out (treeSoFar current outer) asked' ∧
        ((∃ s, Asks out current outer s ∧ asked = asked' ++ [s]) ∨
          (∀ s, ¬ Asks out current outer s) ∧ asked = asked')) ∧
    (∀ n asked current outer,
      (next out)^[n] (firstState out locator text) = .reading asked current outer →
        Lists out (treeSoFar current outer) asked ∧
        ((∃ s, Asks out current outer s ∧
            (next out (.reading asked current outer)).log = asked ++ [s]) ∨
          (∀ s, ¬ Asks out current outer s) ∧
            (next out (.reading asked current outer)).log = asked)) ∧
    ∀ n i s, ((next out)^[n] (firstState out locator text)).log[i]? = some s →
      ∃ m current outer, m < n ∧
        (next out)^[m] (firstState out locator text) =
          .reading (((next out)^[n] (firstState out locator text)).log.take i) current outer ∧
        Asks out current outer s := by
  have hstate : ∀ n asked current outer,
      (next out)^[n] (firstState out locator text) = .reading asked current outer →
        Lists out (treeSoFar current outer) asked := by
    intro n asked current outer h
    have hlists := lists_iterate out locator text n
    rw [h] at hlists
    exact lists_of_preorder hlists
  refine ⟨?_, ?_, ?_, fun n asked current outer h =>
    ⟨hstate n asked current outer h, log_next out asked current outer⟩, fun n i s =>
    exists_asks rfl n i⟩
  · rintro around rfl
    exact leads_read around locator text
  · rintro asked document ⟨n, hn⟩
    have hlists := lists_iterate out locator text n
    rw [hn] at hlists
    exact lists_of_preorder hlists
  · rintro asked error ⟨n, hn⟩
    obtain ⟨m, asked', current, outer, hm, hlast⟩ := exists_last_step hn
    refine ⟨m, asked', current, outer, hm, hlast, hstate m asked' current outer hm, ?_⟩
    have hlog := log_next out asked' current outer
    rw [hlast] at hlog
    exact hlog

/-- The line that would include a document within itself asks for nothing. -/
theorem whirlpool_is_asked_for_once :
    Lists harbour.outside harbourDocument [.path "/more"] ∧
      ∃ n current outer,
        (next whirlpool.outside)^[n] (firstState whirlpool.outside "top" "@include /loop") =
          .reading [.path "/loop"] current outer ∧
        Lists whirlpool.outside (treeSoFar current outer) [.path "/loop"] ∧
        ∀ s, ¬ Asks whirlpool.outside current outer s := by
  obtain ⟨hends, hlists, -⟩ := requests_are_preorder harbour.outside "top" harbourText
  have hharbour := hends harbour rfl
  rw [read_harbour] at hharbour
  refine ⟨hlists _ _ hharbour, ?_⟩
  obtain ⟨hends, -, hfails, -⟩ := requests_are_preorder whirlpool.outside "top" "@include /loop"
  have hwhirlpool := hends whirlpool rfl
  rw [read_whirlpool] at hwhirlpool
  obtain ⟨n, asked, current, outer, hstate, hlast, htree, hasks⟩ := hfails _ _ hwhirlpool
  obtain ⟨s, hat, hmem, -⟩ := atInclude_of_cycle hlast
  rcases hasks with ⟨s', hasks, -⟩ | ⟨hsilent, rfl⟩
  · exact absurd (hasks.1.unique hat ▸ hmem) hasks.2
  · exact ⟨n, current, outer, hstate, htree, hsilent⟩

end Document
end SshTemplate
