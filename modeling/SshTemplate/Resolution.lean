import SshTemplate.Document.Basic
import SshTemplate.KeyLibrary
import SshTemplate.Logged
import SshTemplate.Template.Expansion

/-!
# `Resolution` — what a host inherits

A section's lines are its own lines, the lines of its identities, and then whatever the sections it
names contribute, depth first and each section once. Bundles may inherit each other in circles and
diamonds, so the walk remembers which sections it has visited; a section reached again contributes
nothing.

The walk keeps one list of references still to be followed. Following one puts the references of
the section it leads to in front of the others, which is depth first without a nested recursion. It
ends because each reference is followed at most once: visiting a section moves its references from
those that are still unknown to those that are still to be followed (`work_visit`). A reference
knows the section that holds it: if it leads nowhere, that is the section with the fault.

What was visited and what was warned about is part of the answer even when the walk fails.
-/

set_option autoImplicit false

namespace SshTemplate

/-- An `@is` reference: the section that holds it, and the name it refers to. -/
structure Reference where
  holder : String
  target : String
  deriving DecidableEq

def Section.references (s : Section) : List Reference := s.parents.map fun name => ⟨s.name, name⟩

/-- What a walk along references comes to. -/
structure Resolution where
  /-- The places of the sections visited so far. -/
  visited : List Nat
  warnings : List Warning
  outcome : Except Error (List Line)

namespace Resolution

/-- Puts what one section contributes in front of the rest. -/
def after (block : List Line) (warnings : List Warning) (rest : Resolution) : Resolution :=
  { rest with
    warnings := warnings ++ rest.warnings
    outcome := (block ++ ·) <$> rest.outcome }

end Resolution

namespace Contents

/-! ## Sections and identities by name -/

/-- The place of the section with the name, which must be unique. -/
def positionOf (own : Contents) (name : String) : Except Issue Nat :=
  match own.sections.zipIdx.filter fun place => place.1.name = name with
  | [] => .error (.noSuchSection name)
  | [place] => .ok place.2
  | _ => .error (.duplicateSection name)

/-- The key file of an identity: that of the first of its fingerprints that is in the library. -/
def keyFile (own : Contents) (keys : KeyLibrary) (identity : String) : Except Warning String :=
  match own.keys.get? identity with
  | none => .error (.undefinedIdentity own.locator identity)
  | some fingerprints =>
    match fingerprints.findSome? keys.lookup with
    | some path => .ok path
    | none => .error (.identityNotFound own.locator identity fingerprints)

/-- The lines that make ssh use a key file and no other. -/
def identityLines (path : String) : List Line :=
  [⟨"IdentitiesOnly", ["yes"]⟩, ⟨"IdentityFile", [Shell.quote path]⟩]

/-- What a section contributes by itself. -/
def block (own : Contents) (keys : KeyLibrary) (s : Section) : List Line :=
  s.lines ++ s.identities.flatMap fun identity =>
    match own.keyFile keys identity with
    | .ok path => identityLines path
    | .error _ => []

/-- The identities of a section for which there is no key file. -/
def blockWarnings (own : Contents) (keys : KeyLibrary) (s : Section) : List Warning :=
  s.identities.filterMap fun identity =>
    match own.keyFile keys identity with
    | .ok _ => none
    | .error warning => some warning

/-! ## The walk -/

/-- How many references the unvisited of some sections hold. -/
def pendingReferences (visited : List Nat) : List (Section × Nat) → Nat
  | [] => 0
  | (s, index) :: rest =>
    (if index ∈ visited then 0 else s.references.length) + pendingReferences visited rest

theorem pendingReferences_cons_le (index : Nat) (visited : List Nat)
    (places : List (Section × Nat)) :
    pendingReferences (index :: visited) places ≤ pendingReferences visited places := by
  induction places with
  | nil => exact Nat.le_refl _
  | cons place rest ih =>
    unfold pendingReferences
    refine Nat.add_le_add ?_ ih
    by_cases h : place.2 ∈ visited
    · simp [h]
    · rw [if_neg h]; split <;> omega

/-- Visiting a section takes its references out of the count. -/
theorem pendingReferences_visit {index : Nat} {visited : List Nat} {s : Section}
    (hv : index ∉ visited) {places : List (Section × Nat)} (hs : (s, index) ∈ places) :
    pendingReferences (index :: visited) places + s.references.length ≤
      pendingReferences visited places := by
  induction places with
  | nil => exact absurd hs (by simp)
  | cons place rest ih =>
    rcases List.mem_cons.1 hs with rfl | hs
    · have hle := pendingReferences_cons_le index visited rest
      simp only [pendingReferences, if_neg hv, List.mem_cons_self, if_true]
      omega
    · have hle := ih hs
      have hhead : (if place.2 ∈ index :: visited then 0 else place.1.references.length) ≤
          if place.2 ∈ visited then 0 else place.1.references.length := by
        by_cases h : place.2 ∈ visited
        · simp [h]
        · rw [if_neg h]; split <;> omega
      unfold pendingReferences
      omega

/-- How many references a walk has still to follow at most. -/
def work (own : Contents) (visited : List Nat) (pending : List Reference) : Nat :=
  pendingReferences visited own.sections.zipIdx + pending.length

/-- Following a reference to an unvisited section is one piece of work, although it puts the
    references of that section in front of the others. -/
theorem work_visit {own : Contents} {visited : List Nat} {index : Nat} {s : Section}
    (hs : own.sections[index]? = some s) (hv : index ∉ visited) (pending : List Reference) :
    own.work (index :: visited) (s.references ++ pending) ≤ own.work visited pending := by
  have hle := pendingReferences_visit hv (List.mem_zipIdx_iff_getElem?.2 hs)
  unfold work
  rw [List.length_append]
  omega

/-- Follows references in order. -/
def walk (own : Contents) (keys : KeyLibrary) (visited : List Nat) :
    List Reference → Resolution
  | [] => ⟨visited, [], .ok []⟩
  | reference :: rest =>
    match own.positionOf reference.target with
    | .error issue => ⟨visited, [], .error (.resolve own.locator reference.holder issue)⟩
    | .ok index =>
      -- A section reached again contributes nothing, whatever it inherits.
      if _hv : index ∈ visited then own.walk keys visited rest
      else
        match _hs : own.sections[index]? with
        | none => own.walk keys visited rest
        | some s =>
          (own.walk keys (index :: visited) (s.references ++ rest)).after
            (own.block keys s) (own.blockWarnings keys s)
termination_by pending => own.work visited pending
decreasing_by
  · unfold work; simp
  · unfold work; simp
  · have hle := work_visit _hs _hv rest
    unfold work at hle ⊢
    rw [List.length_cons]
    omega

/-- The lines of the section at `index` with everything it inherits through sections that are not
    in `visited`. -/
def resolveSection (own : Contents) (keys : KeyLibrary) (index : Nat) (visited : List Nat) :
    Resolution :=
  match own.sections[index]? with
  | none => ⟨visited, [], .ok []⟩
  | some s =>
    if index ∈ visited then ⟨visited, [], .ok []⟩
    else
      (own.walk keys (index :: visited) s.references).after
        (own.block keys s) (own.blockWarnings keys s)

/-! ## Host templates -/

/-- Rendering a section warns and may fail. -/
abbrev Warned := Logged Warning Error

/-- Writes lines of the section called `name`. -/
def writeLines (own : Contents) (name indent : String) (lines : List Line) :
    Except Error (List String) :=
  (lines.mapM (writeLine indent)).mapError (.output own.locator name)

/-- The section at `index` as a template: its name, and its resolved lines, written with
    indentation. -/
def templateOf (own : Contents) (keys : KeyLibrary) (index : Nat) :
    Warned Template.HostTemplate :=
  let name := (own.sections[index]?.map Section.name).getD ""
  let resolution := own.resolveSection keys index []
  ⟨resolution.warnings, do
    let lines ← resolution.outcome
    let written ← own.writeLines name indentation lines
    pure ⟨name, written⟩⟩

end Contents
end SshTemplate
