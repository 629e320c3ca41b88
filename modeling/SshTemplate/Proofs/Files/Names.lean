import SshTemplate.FileTree.Basic

/-!
# `Proofs.Files.Names` — the names on a path, and what joining and lengthening do to them

Files are found by the names between the slashes of a path, and every command makes new paths out of
old ones as texts: it goes on with a name, or it puts a suffix behind. What that does to the *names*
is said here, once, so that no statement about files needs to look at characters again. Both are
facts about the last piece of a text that is split (`splitOn_append`): whatever is put behind a text
joins its last piece.

Neither is true of every text. A suffix joins the last name only if the path does not end in a slash
(`pathNames_append`), and a path goes on with a name only if it is not empty (`pathNames_join`).
-/

set_option autoImplicit false

namespace SshTemplate

open Text

/-! ## The last piece of a text -/

namespace Text

variable {separator : Char} {s : List Char} {init : List (List Char)} {last : List Char}

theorem exists_splitOn_eq (separator : Char) (s : List Char) :
    ∃ init last, splitOn separator s = init ++ [last] :=
  ⟨_, _, (List.dropLast_concat_getLast (splitOn_ne_nil separator s)).symm⟩

/-- What is put behind a text joins its last piece. -/
theorem splitOn_append (h : splitOn separator s = init ++ [last]) (t : List Char) :
    splitOn separator (s ++ t) = init ++ splitOn separator (last ++ t) := by
  have hlast : separator ∉ last := not_mem_of_mem_splitOn (s := s) (by rw [h]; simp)
  have hinit : ∀ piece ∈ init, separator ∉ piece := fun piece hpiece =>
    not_mem_of_mem_splitOn (s := s) (by rw [h]; simp [hpiece])
  rw [← intercalate_splitOn separator s, h]
  clear h
  induction init with
  | nil => simp
  | cons piece rest ih =>
    obtain ⟨hpiece, hrest⟩ := List.forall_mem_cons.1 hinit
    have hne : rest ++ [last] ≠ [] := by simp
    obtain ⟨next, more, hmore⟩ := List.exists_cons_of_ne_nil hne
    rw [List.cons_append, hmore, List.intercalate_cons_cons, List.append_assoc, List.append_assoc,
      List.singleton_append, splitOn_append_cons hpiece, ← hmore, ih hrest, List.cons_append]

/-- Behind a separator new pieces begin. -/
theorem splitOn_append_separator (separator : Char) (s t : List Char) :
    splitOn separator (s ++ separator :: t) = splitOn separator s ++ splitOn separator t := by
  obtain ⟨init, last, h⟩ := exists_splitOn_eq separator s
  have hlast : separator ∉ last := not_mem_of_mem_splitOn (s := s) (by rw [h]; simp)
  rw [splitOn_append h, splitOn_append_cons hlast, h, List.append_assoc]
  rfl

theorem splitOn_append_of_not_mem (h : splitOn separator s = init ++ [last]) {t : List Char}
    (ht : separator ∉ t) : splitOn separator (s ++ t) = init ++ [last ++ t] := by
  have hlast : separator ∉ last := not_mem_of_mem_splitOn (s := s) (by rw [h]; simp)
  have hjoined : separator ∉ last ++ t := by simp [hlast, ht]
  rw [splitOn_append h, splitOn_of_not_mem hjoined]

/-- The last piece is empty after a separator, and of a text that is empty itself. -/
theorem last_splitOn_eq_nil_iff (h : splitOn separator s = init ++ [last]) :
    last = [] ↔ s = [] ∨ s.getLast? = some separator := by
  rcases List.eq_nil_or_concat s with rfl | ⟨front, c, rfl⟩
  · have hnil : init ++ [last] = [] ++ [[]] := h.symm
    obtain rfl := List.singleton_inj.1 (List.append_inj' hnil rfl).2
    simp
  · rw [List.concat_eq_append] at h
    by_cases hc : c = separator
    · have hends : splitOn separator front ++ [[]] = init ++ [last] := by
        rw [← h, hc, splitOn_append_separator]
        rfl
      obtain rfl := List.singleton_inj.1 (List.append_inj' hends rfl).2
      simp [hc]
    · obtain ⟨init', last', hfront⟩ := exists_splitOn_eq separator front
      rw [splitOn_append_of_not_mem hfront (by simpa using Ne.symm hc)] at h
      obtain rfl := List.singleton_inj.1 (List.append_inj' h rfl).2
      simp [hc]

/-- A text ends as what has been put behind it. -/
theorem getLast?_append_of_ne_empty (name : String) {suffix : String} (h : suffix ≠ "") :
    (name ++ suffix).toList.getLast? = suffix.toList.getLast? := by
  have hchars : suffix.toList ≠ [] := fun hnil => h (String.toList_eq_nil_iff.1 hnil)
  rw [String.toList_append, List.getLast?_append, List.getLast?_eq_some_getLast hchars,
    Option.some_or]

end Text

/-! ## Names -/

/-- A name that an entry can have: with a slash in it, or empty, it could not stand on a path, and
    `.` and `..` lead elsewhere. -/
structure IsName (name : String) : Prop where
  nonempty : name ≠ ""
  no_slash : '/' ∉ name.toList
  not_current : name ≠ "."
  not_parent : name ≠ ".."

instance (name : String) : Decidable (IsName name) :=
  decidable_of_iff (name ≠ "" ∧ '/' ∉ name.toList ∧ name ≠ "." ∧ name ≠ "..")
    ⟨fun ⟨h₁, h₂, h₃, h₄⟩ => ⟨h₁, h₂, h₃, h₄⟩, fun ⟨h₁, h₂, h₃, h₄⟩ => ⟨h₁, h₂, h₃, h₄⟩⟩

namespace Path

theorem laterComponent?_of_isName {name : String} (h : IsName name) :
    laterComponent? name.toList = some (.name name) := by
  have hne : name.toList ≠ [] := fun hnil => h.nonempty (String.toList_eq_nil_iff.1 hnil)
  have hdot : name.toList ≠ ['.'] := fun heq => h.not_current (String.toList_inj.1 heq)
  have hdots : name.toList ≠ ['.', '.'] := fun heq => h.not_parent (String.toList_inj.1 heq)
  unfold laterComponent?
  split
  · next heq => exact absurd heq hne
  · next heq => exact absurd heq hdot
  · next heq => exact absurd heq hdots
  · rw [String.ofList_toList]

end Path

namespace FileTree

/-- The pieces that are names. -/
def namesOf (pieces : List (List Char)) : List String :=
  (pieces.filter fun piece => !piece.isEmpty).map String.ofList

theorem namesOf_append (a b : List (List Char)) : namesOf (a ++ b) = namesOf a ++ namesOf b := by
  unfold namesOf
  rw [List.filter_append, List.map_append]

theorem pathNames_eq_namesOf (path : String) :
    pathNames path = namesOf (splitOn '/' path.toList) := rfl

theorem namesOf_singleton {piece : List Char} (h : piece ≠ []) :
    namesOf [piece] = [String.ofList piece] := by
  unfold namesOf
  rw [List.filter_cons_of_pos (by simpa using h)]
  rfl

/-- A suffix joins what stands behind the last slash. -/
theorem pathNames_append_of_split {path suffix : String} {init : List (List Char)}
    {last : List Char} (hsplit : splitOn '/' path.toList = init ++ [last])
    (hsuffix : '/' ∉ suffix.toList) (hne : last ++ suffix.toList ≠ []) :
    pathNames (path ++ suffix) = namesOf init ++ [String.ofList last ++ suffix] := by
  rw [pathNames_eq_namesOf, String.toList_append, splitOn_append_of_not_mem hsplit hsuffix,
    namesOf_append, namesOf_singleton hne, String.ofList_append, String.ofList_toList]

/-- **A suffix joins the last name**, unless the path ends in a slash. -/
theorem pathNames_append {path suffix : String} (hne : path ≠ "")
    (hend : path.toList.getLast? ≠ some '/') (hsuffix : '/' ∉ suffix.toList) :
    ∃ before name, pathNames path = before ++ [name] ∧
      pathNames (path ++ suffix) = before ++ [name ++ suffix] := by
  obtain ⟨init, last, hsplit⟩ := exists_splitOn_eq '/' path.toList
  have hlast : last ≠ [] := by
    intro hnil
    cases (last_splitOn_eq_nil_iff hsplit).1 hnil with
    | inl hempty => exact hne (String.toList_eq_nil_iff.1 hempty)
    | inr hslash => exact hend hslash
  refine ⟨namesOf init, String.ofList last, ?_,
    pathNames_append_of_split hsplit hsuffix (by simp [hlast])⟩
  rw [pathNames_eq_namesOf, hsplit, namesOf_append, namesOf_singleton hlast]

theorem isAbsolute_of_isName {name : String} (h : IsName name) : Path.isAbsolute name = false := by
  unfold Path.isAbsolute
  refine decide_eq_false fun hhead => h.no_slash ?_
  exact List.mem_of_mem_head? (Option.mem_def.2 hhead)

/-- The pieces of what a path goes on with come behind its own; an empty one after a slash gives way
    to them. -/
theorem splitOn_join_of_relative {base rest : String} {init : List (List Char)} {last : List Char}
    (hbase : base ≠ "") (hrest : Path.isAbsolute rest = false)
    (hsplit : splitOn '/' base.toList = init ++ [last]) :
    splitOn '/' (Path.join base rest).toList =
      (if last = [] then init else init ++ [last]) ++ splitOn '/' rest.toList := by
  have hempty : base.isEmpty = false := by simpa using hbase
  have hchars : base.toList ≠ [] := fun hnil => hbase (String.toList_eq_nil_iff.1 hnil)
  have hends : last = [] ↔ base.toList.getLast? = some '/' := by
    rw [last_splitOn_eq_nil_iff hsplit, or_iff_right hchars]
  unfold Path.join
  rw [hrest, hempty, if_neg (by simp)]
  by_cases hend : base.toList.getLast? = some '/'
  · rw [if_pos hend, if_pos (hends.2 hend), String.toList_append, splitOn_append hsplit,
      hends.2 hend, List.nil_append]
  · rw [if_neg hend, if_neg (mt hends.1 hend), String.append_assoc, String.toList_append,
      String.toList_append]
    show splitOn '/' (base.toList ++ '/' :: rest.toList) = _
    rw [splitOn_append_separator, hsplit]

/-- A name that a path goes on with is its last piece. -/
theorem splitOn_join {base name : String} {init : List (List Char)} {last : List Char}
    (hbase : base ≠ "") (hname : IsName name)
    (hsplit : splitOn '/' base.toList = init ++ [last]) :
    splitOn '/' (Path.join base name).toList =
      (if last = [] then init else init ++ [last]) ++ [name.toList] := by
  rw [splitOn_join_of_relative hbase (isAbsolute_of_isName hname) hsplit,
    splitOn_of_not_mem hname.no_slash]

/-- What is joined is put behind. -/
theorem exists_join_eq {base name : String} (hbase : base ≠ "") (hname : IsName name) :
    ∃ rest, Path.join base name = base ++ rest := by
  unfold Path.join
  rw [isAbsolute_of_isName hname]
  split
  · next h => exact absurd h (by simpa using hbase)
  · split
    · exact ⟨name, rfl⟩
    · exact ⟨"/" ++ name, by rw [String.append_assoc]⟩

/-- **A path goes on with a name.** -/
theorem pathNames_join {base name : String} (hbase : base ≠ "") (hname : IsName name) :
    pathNames (Path.join base name) = pathNames base ++ [name] := by
  have hpiece : name.toList ≠ [] := fun hnil => hname.nonempty (String.toList_eq_nil_iff.1 hnil)
  obtain ⟨init, last, hsplit⟩ := exists_splitOn_eq '/' base.toList
  rw [pathNames_eq_namesOf, splitOn_join hbase hname hsplit, pathNames_eq_namesOf, hsplit,
    namesOf_append, namesOf_singleton hpiece, String.ofList_toList]
  by_cases hlast : last = []
  · rw [if_pos hlast, hlast, namesOf_append]
    show _ = (namesOf init ++ []) ++ [name]
    rw [List.append_nil]
  · rw [if_neg hlast]

theorem isAbsolute_join {base name : String} (hbase : base ≠ "") (hname : IsName name) :
    Path.isAbsolute (Path.join base name) = Path.isAbsolute base := by
  have hchars : base.toList ≠ [] := fun hnil => hbase (String.toList_eq_nil_iff.1 hnil)
  obtain ⟨c, rest, hc⟩ := List.exists_cons_of_ne_nil hchars
  have hempty : base.isEmpty = false := by simpa using hbase
  unfold Path.join
  rw [isAbsolute_of_isName hname, hempty]
  unfold Path.isAbsolute
  split
  · next h => exact absurd h (by simp)
  · split
    · rw [String.toList_append, hc]
      rfl
    · rw [String.append_assoc, String.toList_append, hc]
      rfl

theorem join_ne_empty (base : String) {name : String} (hname : IsName name) :
    Path.join base name ≠ "" := by
  unfold Path.join
  have hne := hname.nonempty
  split
  · exact hne
  · split <;> simp [hne]

/-- A path goes on with several names. -/
theorem pathNames_foldl_join {root : String} {names : List String} (hroot : root ≠ "")
    (hnames : ∀ name ∈ names, IsName name) :
    names.foldl Path.join root ≠ "" ∧
      pathNames (names.foldl Path.join root) = pathNames root ++ names ∧
      Path.isAbsolute (names.foldl Path.join root) = Path.isAbsolute root := by
  induction names generalizing root with
  | nil => exact ⟨hroot, (List.append_nil _).symm, rfl⟩
  | cons name rest ih =>
    obtain ⟨hname, hrest⟩ := List.forall_mem_cons.1 hnames
    obtain ⟨hne, hall, habsolute⟩ := ih (join_ne_empty root hname) hrest
    refine ⟨hne, ?_, habsolute.trans (isAbsolute_join hroot hname)⟩
    rw [List.foldl_cons, hall, pathNames_join hroot hname, List.append_assoc]
    rfl

/-! ## The last component and the directory -/

theorem getLast?_components {path : String} {init : List (List Char)} {last : List Char}
    {component : Path.Component} (hsplit : splitOn '/' path.toList = init ++ [last])
    (h : Path.laterComponent? last = some component) :
    (Path.components path).getLast? = some component := by
  unfold Path.components
  rw [hsplit]
  cases init with
  | nil =>
    dsimp only [List.nil_append]
    split
    · cases h
    · cases h
    · rw [h]
      rfl
  | cons first rest =>
    dsimp only [List.cons_append]
    rw [List.filterMap_append, List.filterMap_cons_some h, ← List.append_assoc]
    simp

theorem fileName?_join {base name : String} (hbase : base ≠ "") (hname : IsName name) :
    Path.fileName? (Path.join base name) = some name := by
  obtain ⟨init, last, hsplit⟩ := exists_splitOn_eq '/' base.toList
  have hpieces := splitOn_join hbase hname hsplit
  unfold Path.fileName?
  rw [getLast?_components hpieces (Path.laterComponent?_of_isName hname)]

end FileTree
end SshTemplate
