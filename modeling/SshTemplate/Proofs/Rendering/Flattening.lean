import SshTemplate.Rendering
import SshTemplate.Proofs.Inheritance.Agreement
import SshTemplate.Proofs.Inheritance.Resolved
import SshTemplate.Proofs.Order.Sorting
import SshTemplate.Proofs.Template.CrossProduct

/-!
# `Proofs.Rendering.Flattening` — the stanzas that a tree of documents stands for

What a rendering should be, said without rendering: the sorted global lines of the top document, and
then, document by document in preorder, host by host, one stanza for every element of the cross
product of the host's domains. Nothing here fails, warns or remembers which names it has seen. A
part that cannot be had — an unresolved reference, a malformed domain — is taken as empty, so the
flattening is defined for every tree; that a rendering never owes anything to such a default is
`Expands`, in `Stanzas.lean`.

Two things are read off the definition alone. The number of stanzas is one more than the sum of the
products of the domain sizes (`length_flattening`). And the global lines of the included documents
are not looked at: whatever they are, the flattening is the same (`flattening_withIncludedGlobals`).
-/

set_option autoImplicit false

namespace SshTemplate

open Template (Combination crossProduct bound substituteBound)

/-! ## Lines -/

namespace Line

/-- Lines come in the order of their keywords; those with one keyword, in the lexicographic order of
    their arguments. -/
def Precedes (a b : Line) : Prop :=
  a.keyword < b.keyword ∨
    a.keyword = b.keyword ∧ (List.Lex (fun x y => x < y) a.args b.args ∨ a.args = b.args)

theorem le_iff_precedes {a b : Line} : le a b = true ↔ a.Precedes b := by
  unfold le Precedes
  rw [Bool.or_eq_true, Bool.and_eq_true, Order.lexicographic_iff, decide_eq_true_eq, beq_iff_eq]
  simp only [decide_eq_true_eq]

theorem eq_of_not_lt {x y : String} (hxy : ¬ x < y) (hyx : ¬ y < x) : x = y :=
  String.le_antisymm (String.not_lt.1 hyx) (String.not_lt.1 hxy)

theorem Precedes.total (a b : Line) : a.Precedes b ∨ b.Precedes a := by
  by_cases hab : a.keyword < b.keyword
  · exact Or.inl (Or.inl hab)
  · by_cases hba : b.keyword < a.keyword
    · exact Or.inr (Or.inl hba)
    · have heq := eq_of_not_lt hab hba
      rcases Order.lex_or_eq_total (fun x y => eq_of_not_lt) a.args b.args with hargs | hargs
      · exact Or.inl (Or.inr ⟨heq, hargs⟩)
      · exact Or.inr (Or.inr ⟨heq.symm, hargs⟩)

theorem Precedes.trans {a b c : Line} (hab : a.Precedes b) (hbc : b.Precedes c) :
    a.Precedes c := by
  rcases hab with hab | ⟨hab, hargs⟩
  · rcases hbc with hbc | ⟨hbc, -⟩
    · exact Or.inl (String.lt_trans hab hbc)
    · exact Or.inl (hbc ▸ hab)
  · rcases hbc with hbc | ⟨hbc, hargs'⟩
    · exact Or.inl (hab ▸ hbc)
    · exact Or.inr ⟨hab.trans hbc,
        Order.lex_or_eq_trans (fun hxy hyz => String.lt_trans hxy hyz) hargs hargs'⟩

/-- Lines that the order does not tell apart are equal. -/
theorem Precedes.antisymm {a b : Line} (hab : a.Precedes b) (hba : b.Precedes a) : a = b := by
  have hkeyword : a.keyword = b.keyword := by
    rcases hab with hab | ⟨heq, -⟩
    · rcases hba with hba | ⟨heq, -⟩
      · exact absurd hba (String.lt_asymm hab)
      · exact heq.symm
    · exact heq
  have hirrefl : ¬ a.keyword < b.keyword := hkeyword ▸ String.lt_irrefl _
  have hirrefl' : ¬ b.keyword < a.keyword := hkeyword ▸ String.lt_irrefl _
  have hargs : a.args = b.args :=
    Order.lex_or_eq_antisymm (fun hxy => String.lt_asymm hxy) (hab.resolve_left hirrefl).2
      (hba.resolve_left hirrefl').2
  obtain ⟨keyword, args⟩ := a
  obtain ⟨keyword', args'⟩ := b
  obtain rfl : keyword = keyword' := hkeyword
  obtain rfl : args = args' := hargs
  rfl

theorem le_total (a b : Line) : le a b || le b a := by
  rw [Bool.or_eq_true, le_iff_precedes, le_iff_precedes]
  exact Precedes.total a b

theorem le_trans (a b c : Line) (hab : le a b) (hbc : le b c) : le a c :=
  le_iff_precedes.2 ((le_iff_precedes.1 hab).trans (le_iff_precedes.1 hbc))

theorem pairwise_sort (lines : List Line) : (Order.sort le lines).Pairwise Precedes :=
  (Order.pairwise_sort le_total le_trans lines).imp fun h => le_iff_precedes.1 h

/-- The line as it is written, if it can be. -/
def written (indent : String) (line : Line) : String :=
  match line.args with
  | [arg] => indent ++ line.keyword ++ " = " ++ arg
  | args => indent ++ line.keyword ++ String.join (args.map (" " ++ ·))

theorem written_of_length_ne_one (indent : String) {line : Line} (h : line.args.length ≠ 1) :
    line.written indent = indent ++ line.keyword ++ String.join (line.args.map (" " ++ ·)) := by
  unfold written
  split
  · next arg hargs => exact absurd (congrArg List.length hargs) h
  · rfl

theorem eq_written_of_writeLine {indent text : String} {line : Line}
    (h : writeLine indent line = .ok text) : text = line.written indent := by
  obtain ⟨keyword, args⟩ := line
  unfold writeLine at h
  unfold written
  rcases args with _ | ⟨arg, _ | ⟨second, rest⟩⟩
  · exact (Except.ok.inj h).symm
  · exact (Except.ok.inj h).symm
  · dsimp only at h ⊢
    cases hquote : (arg :: second :: rest).find? fun arg => arg.toList.contains '"' with
    | some arg => rw [hquote] at h; cases h
    | none => rw [hquote] at h; exact (Except.ok.inj h).symm

/-- A line without quotation marks in its arguments can be written. -/
theorem writeLine_eq_ok_of_noQuote {line : Line}
    (h : line.args.length ≠ 1 → ∀ arg ∈ line.args, '"' ∉ arg.toList) (indent : String) :
    writeLine indent line = .ok (line.written indent) := by
  obtain ⟨keyword, args⟩ := line
  rcases args with _ | ⟨arg, _ | ⟨second, rest⟩⟩
  · rfl
  · rfl
  · have hnone : ((arg :: second :: rest).find? fun arg => arg.toList.contains '"') = none :=
      List.find?_eq_none.2 fun other hother hquote =>
        h (by simp) other hother (by simpa using hquote)
    unfold writeLine
    dsimp only
    rw [hnone]
    rfl

end Line

/-! ## One document -/

namespace Section

/-- The template variables of a host with the values of their domains. -/
def axes (s : Section) : List (String × List String) :=
  s.templateVariables.map fun declared => (declared.name, declared.values)

end Section

namespace Contents

/-- The lines of the section at `index` with everything it inherits. -/
def inherited (own : Contents) (keys : KeyLibrary) (index : Nat) : List Line :=
  match (own.resolveSection keys index []).outcome with
  | .ok lines => lines
  | .error _ => []

/-- The text with the values of the template variables, and of the document's own variables, in
    place of the spans. -/
def filled (own : Contents) (combination : Combination) (text : String) : String :=
  substituteBound (bound combination own.bindings) text

/-- The texts of a host before substitution: its name, and its lines. -/
def hostTexts (own : Contents) (keys : KeyLibrary) (place : Section × Nat) : List String :=
  place.1.name :: (own.inherited keys place.2).map (Line.written indentation)

/-- The stanza of the host for one choice of values. -/
def stanzaOf (own : Contents) (keys : KeyLibrary) (place : Section × Nat)
    (combination : Combination) : Stanza :=
  ⟨some (own.filled combination place.1.name),
    headerOf (own.filled combination place.1.name) ::
      (own.inherited keys place.2).map fun line =>
        own.filled combination (line.written indentation)⟩

/-- The hosts of a document and their places among its sections. -/
def hostPlaces (own : Contents) : List (Section × Nat) :=
  own.sections.zipIdx.filter fun place => place.1.isHost

/-- The stanzas of all hosts, in the order of their declaration. -/
def expanded (own : Contents) (keys : KeyLibrary) : List Stanza :=
  own.hostPlaces.flatMap fun place => (crossProduct place.1.axes).map (own.stanzaOf keys place)

def globalStanza (own : Contents) : Stanza :=
  ⟨none, (Order.sort Line.le own.root.lines).map (Line.written "")⟩

end Contents

/-! ## The tree -/

namespace Document

mutual

/-- A document and all that it includes, each document before what it includes. -/
def preorder : Document → List Contents
  | ⟨own, includes⟩ => own :: preorderAll includes

def preorderAll : List Document → List Contents
  | [] => []
  | document :: rest => document.preorder ++ preorderAll rest

end

theorem mem_preorderAll {own : Contents} {documents : List Document} :
    own ∈ preorderAll documents ↔ ∃ document ∈ documents, own ∈ document.preorder := by
  induction documents with
  | nil => simp [preorderAll]
  | cons first rest ih => rw [preorderAll, List.mem_append, ih, List.exists_mem_cons_iff]

/-- **The flattening of a tree of documents.** -/
def flattening (document : Document) (keys : KeyLibrary) : List Stanza :=
  document.contents.globalStanza :: document.preorder.flatMap (Contents.expanded · keys)

/-! ## How many stanzas -/

def allHosts (document : Document) : List Section := document.preorder.flatMap Contents.hosts

end Document

def Section.stanzaCount (s : Section) : Nat :=
  (s.templateVariables.map fun declared => declared.values.length).prod

theorem Contents.length_expanded (own : Contents) (keys : KeyLibrary) :
    (own.expanded keys).length = (own.hosts.map Section.stanzaCount).sum := by
  have hsections : own.hosts = own.hostPlaces.map Prod.fst := by
    have hmap : ∀ (l : List Section) (n : Nat),
        l.filter Section.isHost =
          ((l.zipIdx n).filter fun place => place.1.isHost).map Prod.fst := by
      intro l
      induction l with
      | nil => intro n; rfl
      | cons s rest ih =>
        intro n
        rw [List.zipIdx_cons, List.filter_cons, List.filter_cons, ih (n + 1)]
        dsimp only
        split <;> rfl
    exact hmap own.sections 0
  unfold Contents.expanded
  rw [hsections, List.length_flatMap, List.map_map]
  refine congrArg List.sum (List.map_congr_left fun place _ => ?_)
  rw [List.length_map, Template.length_crossProduct]
  unfold Section.axes
  rw [List.map_map]
  rfl

namespace Document

theorem length_flattening (document : Document) (keys : KeyLibrary) :
    (document.flattening keys).length = 1 + (document.allHosts.map Section.stanzaCount).sum := by
  have hall : ∀ documents : List Contents,
      (documents.flatMap (Contents.expanded · keys)).length =
        ((documents.flatMap Contents.hosts).map Section.stanzaCount).sum := by
    intro documents
    induction documents with
    | nil => rfl
    | cons own rest ih =>
      rw [List.flatMap_cons, List.flatMap_cons, List.length_append, List.map_append,
        List.sum_append, ih, own.length_expanded keys]
  unfold flattening allHosts
  rw [List.length_cons, hall, Nat.add_comm]

/-! ## Global lines of included documents -/

end Document

namespace Contents

def withGlobals (own : Contents) (lines : List Line) : Contents :=
  { own with root := { own.root with lines := lines } }

/-- The document with another root section, which references neither lead to nor start from. -/
def withRoot (own : Contents) (root : Section) : Contents := { own with root := root }

theorem agreeOn_withRoot (own : Contents) (root : Section) :
    AgreeOn (fun _ => True) own (own.withRoot root) where
  locator := rfl
  keys := rfl
  names := rfl
  sections := fun _ _ => rfl

theorem resolveSection_withRoot (own : Contents) (root : Section) (keys : KeyLibrary)
    (index : Nat) :
    (own.withRoot root).resolveSection keys index [] = own.resolveSection keys index [] :=
  have hclosed : own.Closed fun _ => True := fun _ _ _ _ => trivial
  (own.agreeOn_withRoot root).resolveSection hclosed trivial []

theorem expanded_withGlobals (own : Contents) (keys : KeyLibrary) (lines : List Line) :
    (own.withGlobals lines).expanded keys = own.expanded keys := by
  have hresolve : ∀ index, (own.withGlobals lines).resolveSection keys index [] =
      own.resolveSection keys index [] := own.resolveSection_withRoot _ keys
  have hstanza : ∀ place,
      (own.withGlobals lines).stanzaOf keys place = own.stanzaOf keys place := by
    intro place
    funext combination
    unfold stanzaOf inherited
    rw [hresolve]
    rfl
  unfold expanded
  simp only [hstanza]
  rfl

end Contents

namespace Document

mutual

/-- The tree with other global lines in each of its documents. -/
def withGlobals (lines : Contents → List Line) : Document → Document
  | ⟨own, includes⟩ => ⟨own.withGlobals (lines own), withAllGlobals lines includes⟩

def withAllGlobals (lines : Contents → List Line) : List Document → List Document
  | [] => []
  | document :: rest => document.withGlobals lines :: withAllGlobals lines rest

end

/-- The tree with other global lines in each of the included documents. -/
def withIncludedGlobals (lines : Contents → List Line) (document : Document) : Document :=
  ⟨document.contents, withAllGlobals lines document.includes⟩

mutual

theorem preorder_withGlobals (lines : Contents → List Line) :
    ∀ document : Document, (document.withGlobals lines).preorder =
      document.preorder.map fun own => own.withGlobals (lines own)
  | ⟨own, includes⟩ => by
    rw [withGlobals, preorder, preorder, List.map_cons, preorderAll_withAllGlobals lines includes]

theorem preorderAll_withAllGlobals (lines : Contents → List Line) :
    ∀ documents : List Document, preorderAll (withAllGlobals lines documents) =
      (preorderAll documents).map fun own => own.withGlobals (lines own)
  | [] => rfl
  | document :: rest => by
    rw [withAllGlobals, preorderAll, preorderAll, List.map_append,
      preorder_withGlobals lines document, preorderAll_withAllGlobals lines rest]

end

theorem flattening_withIncludedGlobals (document : Document) (keys : KeyLibrary)
    (lines : Contents → List Line) :
    (document.withIncludedGlobals lines).flattening keys = document.flattening keys := by
  obtain ⟨own, includes⟩ := document
  unfold withIncludedGlobals flattening
  rw [preorder, preorder, List.flatMap_cons, List.flatMap_cons, preorderAll_withAllGlobals,
    List.flatMap_map]
  simp only [Contents.expanded_withGlobals]

end Document
end SshTemplate
