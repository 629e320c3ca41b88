import SshTemplate.Resolution

/-!
# `Rendering` — the configuration that a document stands for

The document tree is walked in preorder, and a document's hosts come before everything it includes,
wherever its `@include` lines stand. Only the top document has global lines; those of an included
document are dropped with a warning. Host names are compared across the whole walk, so the names
emitted so far travel along it.

A rendering is its stanzas and its warnings. The host names are read off the stanzas.
-/

set_option autoImplicit false

namespace SshTemplate

structure Rendering where
  stanzas : List Stanza
  warnings : List Warning

namespace Rendering

/-- The names of all stanzas of hosts, in their order. -/
def emittedNames (stanzas : List Stanza) : List String := stanzas.filterMap Stanza.host

/-- The names seen once the stanzas have been emitted, after `seen`. -/
def seenAfter (rendering : Rendering) (seen : Order.TextSet) : Order.TextSet :=
  seen.insertMany (emittedNames rendering.stanzas)

/-- The host names, sorted, each once. -/
def hostNames (rendering : Rendering) : List String :=
  Order.sortedTexts (emittedNames rendering.stanzas)

/-- Whether a host name is a pattern for several. -/
def isPattern (host : String) : Bool := host.toList.any fun c => ",!*?".toList.contains c

/-- The host names that complete a command line. -/
def completionNames (rendering : Rendering) : List String :=
  rendering.hostNames.filter fun host => !isPattern host

/-- The configuration text. -/
def text (rendering : Rendering) : String := Stanza.textOf rendering.stanzas

def empty : Rendering := ⟨[], []⟩

def append (a b : Rendering) : Rendering := ⟨a.stanzas ++ b.stanzas, a.warnings ++ b.warnings⟩

end Rendering

/-! ## One document -/

/-- Names that have been seen, and which of them more than once. -/
structure NameTally where
  seen : Order.TextSet
  repeated : Order.TextSet

def NameTally.add (tally : NameTally) (name : String) : NameTally :=
  if name ∈ tally.seen then { tally with repeated := tally.repeated.insert name }
  else { tally with seen := tally.seen.insert name }

/-- Those of some names that have been seen before, in `seen` or earlier among the names
    themselves. -/
def repeatedNames (seen : Order.TextSet) (names : List String) : Order.TextSet :=
  (names.foldl NameTally.add ⟨seen, ∅⟩).repeated

theorem mem_repeated_foldl {name : String} {names : List String} {tally : NameTally} :
    name ∈ (names.foldl NameTally.add tally).repeated ↔
      name ∈ tally.repeated ∨ (name ∈ tally.seen ∧ name ∈ names) ∨ 2 ≤ names.count name := by
  induction names generalizing tally with
  | nil => simp
  | cons first rest ih =>
    rw [List.foldl_cons, ih]
    by_cases hname : first = name
    · subst hname
      have hcount : 1 ≤ rest.count first ↔ first ∈ rest := List.count_pos_iff
      by_cases hseen : first ∈ tally.seen
      · simp [NameTally.add, hseen, Std.ExtTreeSet.mem_insert]
      · have htwo : 2 ≤ rest.count first + 1 ↔ first ∈ rest := by rw [← hcount]; omega
        have honce : 2 ≤ rest.count first → first ∈ rest := by rw [← hcount]; omega
        simp only [NameTally.add, hseen, if_false, List.count_cons_self, htwo]
        simp [or_iff_left_of_imp honce]
    · have hother : ∀ set : Order.TextSet, name ∈ set.insert first ↔ name ∈ set := fun set => by
        simp [Std.ExtTreeSet.mem_insert, hname]
      rw [List.count_cons_of_ne hname, List.mem_cons, or_iff_right (Ne.symm hname)]
      unfold NameTally.add
      split <;> simp only [hother]

/-- A name is reported if it was there before and comes again, or comes twice. -/
theorem mem_repeatedNames {name : String} {seen : Order.TextSet} {names : List String} :
    name ∈ repeatedNames seen names ↔
      (name ∈ seen ∧ name ∈ names) ∨ 2 ≤ names.count name := by
  unfold repeatedNames
  rw [mem_repeated_foldl]
  simp

namespace Contents

/-- The global lines, sorted and written. -/
def globals (own : Contents) : Except Error (List String) :=
  own.writeLines own.root.name "" (Order.sort Line.le own.root.lines)

/-- The stanzas of the section at `index`: one per combination of its template variables. -/
def hostStanzas (own : Contents) (keys : KeyLibrary) (index : Nat) (s : Section) :
    Warned (List Stanza) :=
  (own.templateOf keys index).bind fun template =>
    .lift <| Except.mapError (.resolve own.locator s.name) do
      let combinations ← Template.Combinations.ofVariables s.templateVariables
      combinations.visit fun combination =>
        template.instantiate (Template.bound combination own.bindings)

/-- The stanzas of all hosts, in the order of the hosts. -/
def allStanzas (own : Contents) (keys : KeyLibrary) : Warned (List Stanza) :=
  List.flatten <$> Logged.forEach
    (fun place : Section × Nat => own.hostStanzas keys place.2 place.1)
    (own.sections.zipIdx.filter fun place => place.1.isHost)

/-- The stanza of the global lines, or the warning that they are dropped. -/
def globalPart (own : Contents) (globals : List String) : Rendering :=
  if own.included then
    ⟨[], if globals.isEmpty then [] else [.ignoredGlobals own.locator globals]⟩
  else ⟨[⟨none, globals⟩], []⟩

/-- What a document contributes without its includes, after `seen` have been emitted. -/
def render (own : Contents) (keys : KeyLibrary) (seen : Order.TextSet) :
    Except Error Rendering := do
  let globals ← own.globals
  let hosts := own.allStanzas keys
  let stanzas ← hosts.outcome
  let repeated := repeatedNames seen (Rendering.emittedNames stanzas)
  let duplicates : List Warning :=
    if repeated.isEmpty then [] else [.duplicateHosts own.locator repeated.toList]
  pure ((own.globalPart globals).append ⟨stanzas, hosts.log ++ duplicates⟩)

end Contents

/-! ## The tree -/

namespace Document

mutual

/-- What a document and its includes contribute after `seen` have been emitted. -/
def renderAfter (keys : KeyLibrary) (seen : Order.TextSet) : Document → Except Error Rendering
  | ⟨own, includes⟩ => do
    let first ← own.render keys seen
    let rest ← renderAllAfter keys (first.seenAfter seen) includes
    pure (first.append rest)

/-- The same for several documents, one after the other. -/
def renderAllAfter (keys : KeyLibrary) (seen : Order.TextSet) :
    List Document → Except Error Rendering
  | [] => .ok .empty
  | document :: rest => do
    let first ← document.renderAfter keys seen
    let others ← renderAllAfter keys (first.seenAfter seen) rest
    pure (first.append others)

end

/-- Renders a document with everything it includes. -/
def render (document : Document) (keys : KeyLibrary) : Except Error Rendering :=
  document.renderAfter keys ∅

end Document
end SshTemplate
