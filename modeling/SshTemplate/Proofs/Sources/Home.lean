import SshTemplate.Proofs.Files.Names
import SshTemplate.Proofs.Sources.Addresses

/-!
# `Proofs.Sources.Home` — what lies behind a tilde

No URL begins with a tilde, since a scheme begins with a letter. So `~/rest` is a path whatever
`rest` is, colons and all, and where it leads is a question about joining the home directory with
`rest`.

Joining goes on from the home directory, component by component (`components_join`), unless `rest`
is an absolute path. Then it starts over, and the home directory is gone. That is how a second slash
behind the tilde leads out of it: `~//etc` is `/etc` (`second_slash_leaves_home`).
-/

set_option autoImplicit false

namespace SshTemplate

open Text

/-! ## Behind a tilde -/

namespace Source

variable {read : UrlReader}

theorem classify_of_no_url {locator : String} (h : read locator = none) (home : Option String) :
    classify read home locator = .ok (.path (resolveTilde home locator)) := by
  unfold classify
  rw [h]

/-- Behind a tilde and a slash, a path goes on from the home directory. -/
theorem classify_tilde (hread : Url.BeginsWithLetter read) (home rest : String) :
    classify read (some home) ("~/" ++ rest) = .ok (.path (Path.join home rest)) := by
  have hchars : ("~/" ++ rest).toList = '~' :: '/' :: rest.toList := by simp
  rw [classify_of_no_url (hread _ _ _ hchars (by decide) (by decide))]
  unfold resolveTilde
  rw [hchars]
  simp

end Source

/-! ## Components of joined paths -/

namespace Path

/-- What the pieces of a path name where it goes on from another one. -/
def named (pieces : List (List Char)) : List Component := pieces.filterMap laterComponent?

/-- What the first piece of a path names. -/
def firstNamed : List Char → List Component
  | [] => [.root]
  | ['.'] => [.current]
  | piece => (laterComponent? piece).toList

theorem firstNamed_of_ne {piece : List Char} (hnil : piece ≠ []) (hdot : piece ≠ ['.']) :
    firstNamed piece = (laterComponent? piece).toList := by
  unfold firstNamed
  split
  · exact absurd rfl hnil
  · exact absurd rfl hdot
  · rfl

theorem components_of_pieces {path : String} {first : List Char} {rest : List (List Char)}
    (hpath : path ≠ "") (hsplit : splitOn '/' path.toList = first :: rest) :
    components path = firstNamed first ++ named rest := by
  have hempty : path.isEmpty = false := by simpa using hpath
  unfold components named
  rw [hsplit, hempty]
  by_cases hnil : first = []
  · rw [hnil]
    rfl
  by_cases hdot : first = ['.']
  · rw [hdot]
    rfl
  rw [firstNamed_of_ne hnil hdot]
  dsimp only
  split
  · exact absurd rfl hnil
  · exact absurd rfl hdot
  · rfl

theorem named_append (a b : List (List Char)) : named (a ++ b) = named a ++ named b :=
  List.filterMap_append

theorem join_ne_empty {base rest : String} (hbase : base ≠ "") (hrest : isAbsolute rest = false) :
    join base rest ≠ "" := by
  have hempty : base.isEmpty = false := by simpa using hbase
  unfold join
  rw [hrest, hempty]
  intro hjoined
  split at hjoined
  · next h => simp at h
  · split at hjoined <;> simp [hbase] at hjoined

/-- **Joining goes on component by component**, behind all those there are. -/
theorem components_join {base rest : String} (hbase : base ≠ "")
    (hrest : isAbsolute rest = false) :
    components (join base rest) = components base ++ named (splitOn '/' rest.toList) := by
  obtain ⟨init, last, hsplit⟩ := exists_splitOn_eq '/' base.toList
  -- An empty piece at the end of the base names nothing, so it does not matter that it goes.
  have hfront : ∃ first more, (if last = [] then init else init ++ [last]) = first :: more ∧
      components base = firstNamed first ++ named more := by
    by_cases hlast : last = []
    · subst hlast
      cases init with
      | nil =>
        have hnil : base.toList = [] := by
          rw [← intercalate_splitOn '/' base.toList, hsplit]
          rfl
        exact absurd (String.toList_eq_nil_iff.1 hnil) hbase
      | cons first more =>
        refine ⟨first, more, if_pos rfl, ?_⟩
        rw [List.cons_append] at hsplit
        rw [components_of_pieces hbase hsplit, named_append]
        simp [named, laterComponent?]
    · rw [if_neg hlast, ← hsplit]
      obtain ⟨first, more, hpieces⟩ := List.exists_cons_of_ne_nil (splitOn_ne_nil '/' base.toList)
      exact ⟨first, more, hpieces, components_of_pieces hbase hpieces⟩
  obtain ⟨first, more, hpieces, hbase'⟩ := hfront
  have hjoined := FileTree.splitOn_join_of_relative hbase hrest hsplit
  rw [hpieces, List.cons_append] at hjoined
  rw [components_of_pieces (join_ne_empty hbase hrest) hjoined, named_append, hbase',
    List.append_assoc]

/-- A step up stays one when a path is gone on with. -/
theorem parent_mem_components {path : String} (h : .parent ∈ named (splitOn '/' path.toList)) :
    .parent ∈ components path := by
  by_cases hpath : path = ""
  · subst hpath
    simp [named, splitOn, laterComponent?] at h
  obtain ⟨first, rest, hsplit⟩ := List.exists_cons_of_ne_nil (splitOn_ne_nil '/' path.toList)
  rw [components_of_pieces hpath hsplit]
  rw [hsplit, ← List.singleton_append, named_append] at h
  cases List.mem_append.1 h with
  | inl hfirst =>
    apply List.mem_append_left
    unfold firstNamed
    split
    · simp [named, laterComponent?] at hfirst
    · simp [named, laterComponent?] at hfirst
    · simpa [named] using hfirst
  | inr hrest => exact List.mem_append_right _ hrest

theorem laterComponent?_cases (piece : List Char) :
    laterComponent? piece = none ∨ laterComponent? piece = some .parent ∨
      ∃ name, laterComponent? piece = some (.name name) := by
  unfold laterComponent?
  split
  · exact Or.inl rfl
  · exact Or.inl rfl
  · exact Or.inr (Or.inl rfl)
  · exact Or.inr (Or.inr ⟨_, rfl⟩)

/-- Without steps up there are names only. -/
theorem exists_names_of_named {pieces : List (List Char)} (h : .parent ∉ named pieces) :
    ∃ names : List String, named pieces = names.map .name := by
  induction pieces with
  | nil => exact ⟨[], rfl⟩
  | cons piece rest ih =>
    rw [← List.singleton_append, named_append] at h ⊢
    obtain ⟨names, hnames⟩ := ih fun hmem => h (List.mem_append_right _ hmem)
    rw [hnames]
    obtain hnone | hparent | ⟨name, hname⟩ := laterComponent?_cases piece
    · exact ⟨names, by simp [named, hnone]⟩
    · simp [named, hparent] at h
    · exact ⟨name :: names, by simp [named, hname]⟩

end Path

/-! ## Below the home directory -/

namespace Source

open SshTemplate.Path

variable {read : UrlReader}

/-- **What `~/rest` means.** Without steps up it is a path below the home directory, component by
    component, and it names there what `rest` names. But if `rest` begins with another slash, it is
    the path `rest`, and below the home directory only if that happens to be. -/
theorem tilde_leads_below_home (hread : Url.BeginsWithLetter read) {rest : String}
    (hparent : .parent ∉ components rest) (home : String) :
    ∃ path, classify read (some home) ("~/" ++ rest) = .ok (.path path) ∧
      (isAbsolute rest = false → components home <+: components path) ∧
      (isAbsolute rest = false → home ≠ "" → ∃ names : List String,
        named (splitOn '/' rest.toList) = names.map .name ∧
          components path = components home ++ names.map .name) ∧
      (isAbsolute rest = true → path = rest) := by
  obtain ⟨names, hnames⟩ := exists_names_of_named (mt parent_mem_components hparent)
  refine ⟨join home rest, classify_tilde hread home rest, ?_, ?_, ?_⟩
  · intro hrest
    by_cases hhome : home = ""
    · subst hhome
      exact List.nil_prefix
    · rw [components_join hhome hrest]
      exact List.prefix_append _ _
  · intro hrest hhome
    exact ⟨names, hnames, by rw [components_join hhome hrest, hnames]⟩
  · intro hrest
    unfold join
    rw [hrest]
    rfl

/-- Empty pieces and dots behind the first one make no difference. -/
theorem hidden_directory_is_below_home :
    Url.BeginsWithLetter Address.reader ∧ .parent ∉ components ".sedge//./base:1" ∧
      isAbsolute ".sedge//./base:1" = false ∧
      ∃ path, classify Address.reader (some "/home/") "~/.sedge//./base:1" = .ok (.path path) ∧
        components path = [.root, .name "home", .name ".sedge", .name "base:1"] := by
  have hparent : .parent ∉ components ".sedge//./base:1" := by decide
  have hrest : isAbsolute ".sedge//./base:1" = false := by decide
  obtain ⟨path, hpath, -, hnames, -⟩ :=
    tilde_leads_below_home Address.beginsWithLetter_reader hparent "/home/"
  obtain ⟨names, hnamed, hcomponents⟩ := hnames hrest (by decide)
  refine ⟨Address.beginsWithLetter_reader, hparent, hrest, path, hpath, ?_⟩
  rw [hcomponents, ← hnamed]
  decide

/-- **A second slash leaves the home directory.** -/
theorem second_slash_leaves_home :
    (∀ read, Url.BeginsWithLetter read →
      classify read (some "/home/oracle") "~//x" = .ok (.path "/x")) ∧
      ¬ ∀ read home rest, Url.BeginsWithLetter read → home ≠ "" → .parent ∉ components rest →
        ∃ path, classify read (some home) ("~/" ++ rest) = .ok (.path path) ∧
          components home <+: components path := by
  have hclassify : ∀ read, Url.BeginsWithLetter read →
      classify read (some "/home/oracle") "~//x" = .ok (.path "/x") :=
    fun _ hread => classify_tilde hread "/home/oracle" "/x"
  refine ⟨hclassify, ?_⟩
  intro hall
  obtain ⟨path, hpath, hbelow⟩ := hall Address.reader "/home/oracle" "/x"
    Address.beginsWithLetter_reader (by decide) (by decide)
  obtain rfl : path = "/x" := by
    have heq := hpath.symm.trans (hclassify _ Address.beginsWithLetter_reader)
    simpa using heq
  revert hbelow
  decide

end Source
end SshTemplate
