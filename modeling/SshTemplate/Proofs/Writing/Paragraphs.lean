import SshTemplate.Proofs.Wellformed.LineBreaks
import SshTemplate.Proofs.Wellformed.Rendering

/-!
# `Proofs.Writing.Paragraphs` — the stanzas can be read off the written text

The written configuration is one text, and its reader sees neither stanzas nor lines: what it takes
for a line is what stands between line breaks, and what it takes for a stanza is what stands between
empty lines. The two views agree (`written_text_determines_stanzas`), and so nothing that a template
fills in — a value, an argument of an include, a gateway, the path of a key — ever shows up as a
line or as a stanza of its own.

There are two halves. Writing puts a line break behind every line and an empty line between
paragraphs, which can be undone if no line is empty or holds a line break (`paragraphs_textOf`).
And no line of a rendering does: it begins with an indentation or a fixed word, or has a keyword,
and what it is filled with holds no line break (`not_break_of_filled`).
-/

set_option autoImplicit false

namespace SshTemplate

open Template (Combination crossProduct)

/-! ## Lines and paragraphs of a text -/

namespace Text

/-- What stands between the empty lines of a text that ends each of its lines. -/
def paragraphs (text : String) : List (List String) :=
  if text = "" then [] else (lines text).dropLast.splitOn ""

/-- No empty line comes first, or last, or after another one. -/
structure WellSpaced (lines : List String) : Prop where
  first : lines.head? ≠ some ""
  last : lines.getLast? ≠ some ""
  apart : ¬ ["", ""] <:+: lines

/-- Lines that are well spaced are those without an empty paragraph. -/
theorem wellSpaced_of_splitOn {lines : List String} (h : [] ∉ lines.splitOn "") :
    WellSpaced lines := by
  have hsplit : ∀ before after : List String,
      (before ++ "" :: after).splitOn "" = before.splitOn "" ++ after.splitOn "" := by
    intro before after
    rw [List.splitOn_eq_splitOnP, List.splitOn_eq_splitOnP, List.splitOn_eq_splitOnP]
    exact List.splitOnP_append_cons before after (by simp)
  refine ⟨fun hfirst => h ?_, fun hlast => h ?_, fun hinfix => h ?_⟩
  · obtain ⟨after, rfl⟩ := List.head?_eq_some_iff.1 hfirst
    rw [← List.nil_append ("" :: after), hsplit]
    simp
  · obtain ⟨before, rfl⟩ := List.getLast?_eq_some_iff.1 hlast
    rw [hsplit]
    simp
  · obtain ⟨before, after, rfl⟩ := hinfix
    rw [List.append_assoc, List.cons_append, hsplit, List.singleton_append,
      ← List.nil_append ("" :: after), hsplit]
    simp

/-- Lines that are ended one by one are found again, and nothing stands behind the last. -/
theorem lines_terminated {written : List String} (h : ∀ line ∈ written, IsUnbroken line) :
    lines (String.join (written.map (· ++ "\n"))) = written ++ [""] := by
  have hchars : splitOn '\n' (String.join (written.map (· ++ "\n"))).toList =
      written.map String.toList ++ [[]] := by
    induction written with
    | nil => rfl
    | cons line rest ih =>
      obtain ⟨hline, hrest⟩ := List.forall_mem_cons.1 h
      rw [List.map_cons, String.join_cons, String.toList_append, String.toList_append,
        List.append_assoc]
      show splitOn '\n' (line.toList ++ '\n' :: (String.join (rest.map (· ++ "\n"))).toList) = _
      rw [splitOn_append_cons hline, ih hrest]
      rfl
  unfold lines
  rw [hchars, List.map_append, List.map_map]
  simp [Function.comp_def]

end Text

/-! ## The text of stanzas -/

namespace Stanza

/-- The lines of the stanzas that have any. -/
def paragraphs (stanzas : List Stanza) : List (List String) :=
  (stanzas.map Stanza.lines).filter fun lines => !lines.isEmpty

/-- The text is the paragraphs with an empty line between them, each line ended. -/
theorem textOf_eq_terminated (stanzas : List Stanza) :
    textOf stanzas =
      String.join (([""].intercalate (paragraphs stanzas)).map (· ++ "\n")) := by
  have hwritten : ∀ paragraphs : List (List String),
      "\n".intercalate (paragraphs.map fun lines => String.join (lines.map (· ++ "\n"))) =
        String.join (([""].intercalate paragraphs).map (· ++ "\n")) := by
    intro paragraphs
    induction paragraphs with
    | nil => rfl
    | cons first rest ih =>
      cases rest with
      | nil => simp
      | cons second others =>
        rw [List.map_cons] at ih
        rw [List.map_cons, List.map_cons, String.intercalate_cons_cons, ih,
          List.intercalate_cons_cons, List.map_append, List.map_append, String.join_append,
          String.join_append]
        rfl
  rw [← hwritten]
  unfold textOf paragraphs
  rw [List.filter_map, List.map_map]
  rfl

theorem mem_intercalate {paragraphs : List (List String)} {line : String}
    (h : line ∈ [""].intercalate paragraphs) :
    line = "" ∨ ∃ paragraph ∈ paragraphs, line ∈ paragraph := by
  induction paragraphs with
  | nil => exact absurd h (by simp)
  | cons first rest ih =>
    rw [List.exists_mem_cons_iff]
    cases rest with
    | nil =>
      rw [List.intercalate_singleton] at h
      exact Or.inr (Or.inl h)
    | cons second others =>
      rw [List.intercalate_cons_cons, List.append_assoc, List.mem_append, List.mem_append,
        List.mem_singleton] at h
      rcases h with h | h | h
      · exact Or.inr (Or.inl h)
      · exact Or.inl h
      · exact (ih h).imp_right Or.inr

/-- **Stanzas are read off their text**, if none of their lines is empty or holds a line break. -/
theorem paragraphs_textOf {stanzas : List Stanza}
    (h : ∀ stanza ∈ stanzas, ∀ line ∈ stanza.lines, line ≠ "" ∧ IsUnbroken line) :
    Text.lines (textOf stanzas) = [""].intercalate (paragraphs stanzas) ++ [""] ∧
      Text.paragraphs (textOf stanzas) = paragraphs stanzas ∧
      Text.WellSpaced (Text.lines (textOf stanzas)).dropLast := by
  have hlines : ∀ paragraph ∈ paragraphs stanzas, paragraph ≠ [] ∧
      ∀ line ∈ paragraph, line ≠ "" ∧ IsUnbroken line := by
    intro paragraph hparagraph
    obtain ⟨hmem, hne⟩ := List.mem_filter.1 hparagraph
    obtain ⟨stanza, hstanza, rfl⟩ := List.mem_map.1 hmem
    exact ⟨by simpa using hne, h stanza hstanza⟩
  have hunbroken : ∀ line ∈ [""].intercalate (paragraphs stanzas), IsUnbroken line := by
    intro line hline
    rcases mem_intercalate hline with rfl | ⟨paragraph, hparagraph, hline⟩
    · decide
    · exact ((hlines paragraph hparagraph).2 line hline).2
  have htext : Text.lines (textOf stanzas) = [""].intercalate (paragraphs stanzas) ++ [""] := by
    rw [textOf_eq_terminated]
    exact Text.lines_terminated hunbroken
  refine ⟨htext, ?_⟩
  unfold Text.paragraphs
  rw [htext, List.dropLast_concat]
  by_cases hnone : paragraphs stanzas = []
  · have hempty : textOf stanzas = "" := by
      rw [textOf_eq_terminated, hnone]
      rfl
    rw [if_pos hempty, hnone]
    exact ⟨rfl, by simp, by simp, by simp⟩
  · have hsplit : ([""].intercalate (paragraphs stanzas)).splitOn "" = paragraphs stanzas := by
      refine List.splitOn_intercalate "" (fun paragraph hp hempty => ?_) hnone
      exact ((hlines paragraph hp).2 "" hempty).1 rfl
    have hne : textOf stanzas ≠ "" := by
      intro hempty
      rw [hempty] at htext
      have hnil : [""].intercalate (paragraphs stanzas) = [] := by
        have hlength := congrArg List.length htext
        simpa [Text.lines, Text.splitOn] using hlength
      rw [hnil] at hsplit
      exact (hlines [] (hsplit ▸ by simp)).1 rfl
    rw [if_neg hne, hsplit]
    refine ⟨rfl, Text.wellSpaced_of_splitOn ?_⟩
    rw [hsplit]
    exact fun hmem => (hlines [] hmem).1 rfl

end Stanza

/-! ## The lines of a rendering -/

namespace Line

theorem WellFormed.written_ne_empty {line : Line} (h : line.WellFormed) (indent : String) :
    line.written indent ≠ "" := by
  unfold written
  split
  · simp
  · next hargs =>
    have hplain := h.plain fun hlength => by
      obtain ⟨arg, harg⟩ := List.length_eq_one_iff.1 hlength
      exact hargs arg harg
    simp [hplain.keyword]

theorem exists_written_eq (line : Line) (indent : String) :
    ∃ rest, line.written indent = indent ++ rest := by
  unfold written
  split
  · exact ⟨_, by rw [String.append_assoc, String.append_assoc]⟩
  · exact ⟨_, String.append_assoc ..⟩

end Line

/-- No path of the library holds a line break. -/
def KeyLibrary.IsUnbroken (keys : KeyLibrary) : Prop :=
  ∀ fingerprint path, keys.lookup fingerprint = some path → SshTemplate.IsUnbroken path

namespace Contents

variable {own : Contents} {keys : KeyLibrary} {place : Section × Nat} {combination : Combination}

theorem isUnbroken_identityLines {path : String} (h : SshTemplate.IsUnbroken path) :
    ∀ line ∈ identityLines path, line.IsUnbroken := by
  intro line hline
  rcases List.mem_cons.1 hline with rfl | hline
  · exact ⟨by decide, by decide⟩
  · rw [List.mem_singleton.1 hline]
    have hkeyword : SshTemplate.IsUnbroken "IdentityFile" := by decide
    exact ⟨hkeyword, fun arg harg => List.mem_singleton.1 harg ▸ h.quote⟩

theorem isUnbroken_inherited (hown : own.IsUnbroken) (hkeys : keys.IsUnbroken) {index : Nat}
    (hindex : index < own.sections.length) :
    ∀ line ∈ own.inherited keys index, line.IsUnbroken := by
  intro line hline
  rcases origin_of_mem_inherited hindex hline with ⟨s, hs, hmem⟩ | ⟨fingerprint, path, hpath, hmem⟩
  · exact hown.lines s hs line hmem
  · exact isUnbroken_identityLines (hkeys fingerprint path hpath) line hmem

theorem lines_globalStanza (hwell : own.WellFormed) (hown : own.IsUnbroken) :
    ∀ line ∈ own.globalStanza.lines, line ≠ "" ∧ SshTemplate.IsUnbroken line := by
  intro text htext
  obtain ⟨line, hline, rfl⟩ := List.mem_map.1 htext
  have hmem : line ∈ own.root.lines := (Order.sort_perm Line.le _).mem_iff.1 hline
  exact ⟨(hwell.root.lines line hmem).written_ne_empty "", (hown.root line hmem).written (by decide)⟩

/-- Filling a line of a host leaves its indentation. -/
theorem filled_written_ne_empty (line : Line) :
    own.filled combination (line.written indentation) ≠ "" := by
  intro hempty
  have hwritten : (line.filled (Template.bound combination own.bindings)).written indentation = "" :=
    (Line.substituteBound_written isBlank_of_mem_indentation line).symm.trans hempty
  obtain ⟨rest, hrest⟩ :=
    (line.filled (Template.bound combination own.bindings)).exists_written_eq indentation
  have hchars := congrArg String.toList (hrest.symm.trans hwritten)
  exact absurd hchars (by simp [indentation])

theorem lines_stanzaOf (hwell : own.WellFormed) (hown : own.IsUnbroken) (hkeys : keys.IsUnbroken)
    (hplace : place ∈ own.hostPlaces) (hc : combination ∈ crossProduct place.1.axes) :
    ∀ line ∈ (own.stanzaOf keys place combination).lines,
      line ≠ "" ∧ SshTemplate.IsUnbroken line := by
  have hfilled : ∀ text, SshTemplate.IsUnbroken text →
      SshTemplate.IsUnbroken (own.filled combination text) :=
    fun text htext => not_break_of_filled hwell hplace hc htext
  intro text htext
  rcases List.mem_cons.1 htext with rfl | htext
  · have hname : SshTemplate.IsUnbroken place.1.name :=
      hown.names _ (List.mem_of_getElem? (section_of_mem_hostPlaces hplace))
    have hfront : SshTemplate.IsUnbroken "Host = " := by decide
    exact ⟨by simp [headerOf], hfront.append (hfilled _ hname)⟩
  · obtain ⟨line, hline, rfl⟩ := List.mem_map.1 htext
    have hunbroken := isUnbroken_inherited hown hkeys (index_of_mem_hostPlaces hplace) line hline
    exact ⟨filled_written_ne_empty line, hfilled _ (hunbroken.written (by decide))⟩

end Contents

namespace Document

variable {out : Outside} {locator text : String} {document : Document}

theorem lines_of_rendering (hread : ReadAs out locator text document) {keys : KeyLibrary}
    (hkeys : keys.IsUnbroken) {rendering : Rendering} (h : document.render keys = .ok rendering) :
    ∀ stanza ∈ rendering.stanzas, ∀ line ∈ stanza.lines, line ≠ "" ∧ IsUnbroken line := by
  have hwell := wellFormed_of_readAs hread
  have hunbroken := isUnbroken_of_readAs hread
  rw [stanzas_of_marked (marked_of_readAs hread) h]
  intro stanza hstanza
  rcases List.mem_cons.1 hstanza with rfl | hstanza
  · have htop : document.contents ∈ document.preorder := by
      obtain ⟨own, includes⟩ := document
      simp [preorder]
    exact Contents.lines_globalStanza (hwell _ htop) (hunbroken _ htop)
  · obtain ⟨own, hown, hstanza⟩ := List.mem_flatMap.1 hstanza
    obtain ⟨place, hplace, hstanza⟩ := List.mem_flatMap.1 hstanza
    obtain ⟨combination, hc, rfl⟩ := List.mem_map.1 hstanza
    exact Contents.lines_stanzaOf (hwell own hown) (hunbroken own hown) hkeys hplace hc

/-- **The written text determines the stanzas.** Whatever is read, with whatever it includes, and
    rendered with a key library of which no path holds a line break: no line of a stanza is empty or
    holds a line break; the lines of the text are those of the stanzas that have any, with one empty
    line between two stanzas; and so these are read off the text again, and there is no empty line
    but those between them. -/
theorem written_text_determines_stanzas (hread : ReadAs out locator text document)
    {keys : KeyLibrary}
    (hkeys : ∀ fingerprint path, keys.lookup fingerprint = some path → '\n' ∉ path.toList)
    {rendering : Rendering} (h : document.render keys = .ok rendering) :
    (∀ stanza ∈ rendering.stanzas, ∀ line ∈ stanza.lines, line ≠ "" ∧ '\n' ∉ line.toList) ∧
      Text.lines rendering.text = [""].intercalate (Stanza.paragraphs rendering.stanzas) ++ [""] ∧
      Text.paragraphs rendering.text = Stanza.paragraphs rendering.stanzas ∧
      Text.WellSpaced (Text.lines rendering.text).dropLast := by
  have hlines := lines_of_rendering hread hkeys h
  exact ⟨hlines, Stanza.paragraphs_textOf hlines⟩

def pierText : String := "@key own AA\nHost near\n@identity own\nHost far"

/-- Two hosts, the first of which uses a key. -/
def pierDocument : Document :=
  ⟨{ Contents.start "pier" false .empty with
      sections := [⟨"near", .host [], [], [], ["own"]⟩, ⟨"far", .host [], [], [], []⟩]
      keys := Dictionary.empty.insert "own" ["AA"] }, []⟩

theorem readAs_pier : ReadAs harbour.outside "pier" pierText pierDocument := by
  have hlines : Text.lines pierText =
      ["@key own AA", "Host near", "@identity own", "Host far"] := by
    cbv
  refine ⟨1, ?_⟩
  unfold readWithin
  rw [hlines,
    readLines_of_obey (by cbv) (by cbv : _ = Except.ok (.key "own" ["AA"])) (by simp) rfl,
    readLines_of_obey (by cbv) (by cbv : _ = Except.ok (.host "near")) (by simp) rfl,
    readLines_of_obey (by cbv) (by cbv : _ = Except.ok (.identity "own")) (by simp) (by cbv),
    readLines_of_obey (by cbv) (by cbv : _ = Except.ok (.host "far")) (by simp) rfl]
  rfl

/-- Of the three stanzas the one of the globals has no lines, and an empty line is between the other
    two. -/
theorem pier_determines_stanzas :
    let keys := KeyLibrary.ofPairs [("AA", "/keys/a b")]
    ReadAs harbour.outside "pier" pierText pierDocument ∧
      (∀ fingerprint path, keys.lookup fingerprint = some path → '\n' ∉ path.toList) ∧
      ∃ rendering, pierDocument.render keys = .ok rendering ∧
        Text.lines rendering.text = ["Host = near", "    IdentitiesOnly = yes",
          "    IdentityFile = '/keys/a b'", "", "Host = far", ""] ∧
        Text.paragraphs rendering.text =
          [["Host = near", "    IdentitiesOnly = yes", "    IdentityFile = '/keys/a b'"],
            ["Host = far"]] := by
  intro keys
  have hkeys : ∀ fingerprint path, keys.lookup fingerprint = some path →
      '\n' ∉ path.toList := by
    intro fingerprint path h
    obtain rfl := List.mem_singleton.1 (Dictionary.mem_values_of_get? h)
    decide
  have hstanzas : (pierDocument.contents.allStanzas keys).outcome = .ok [⟨some "near",
      ["Host = near", "    IdentitiesOnly = yes", "    IdentityFile = '/keys/a b'"]⟩,
      ⟨some "far", ["Host = far"]⟩] := by
    decide +kernel
  have hexpands : pierDocument.contents.Expands keys :=
    Contents.expands_of_eq_ok (by cbv : _ = Except.ok []) hstanzas
  obtain ⟨rendering, hrender⟩ :=
    exists_renderAfter_eq_ok pierDocument ∅ (List.forall_mem_singleton.2 hexpands)
  obtain ⟨-, hlines, hparagraphs, -⟩ :=
    written_text_determines_stanzas readAs_pier hkeys hrender
  refine ⟨readAs_pier, hkeys, rendering, hrender, ?_, ?_⟩
  · rw [hlines, stanzas_of_marked (marked_of_readAs readAs_pier) hrender]
    decide +kernel
  · rw [hparagraphs, stanzas_of_marked (marked_of_readAs readAs_pier) hrender]
    decide +kernel

end Document
end SshTemplate
