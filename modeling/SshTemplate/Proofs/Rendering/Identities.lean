import SshTemplate.Proofs.Rendering.Warnings
import SshTemplate.Proofs.Shell.Gateway

/-!
# `Proofs.Rendering.Identities` — under which name an identity is looked up

A line `@identity <name>` is meant like a line `@via <gateway>`: what is bound before it is replaced
where it is read, and the other spans are filled when a host is written. For a gateway that is so,
because the gateway is part of a line of the section by then. An identity is not. It stays a name
until the host is resolved, once for all combinations, and there it is looked up as it is, with its
spans. What the name would be for a combination is never asked.

So the key file and the warning belong to the name that is left when the line has been read
(`identity_is_looked_up_unfilled`). They are those of the filled name only where the two names come
to the same: where no span is left that the host or the document binds, or where there is a key
under both. `skerryDocument` shows the difference, a host without the key file that it is to use.

The lines are followed from the text to the stanzas as in `Gateway.lean`. What is filled late here is
the path of the key file; a path without spans stays what it is.
-/

set_option autoImplicit false

namespace SshTemplate

open Template (Combination bound crossProduct Spanless)

namespace Contents

variable {own : Contents} {keys : KeyLibrary} {identity path : String} {combination : Combination}
variable {place : Section × ℕ} {index : ℕ} {s : Section}

/-! ## What a stanza is to carry -/

/-- The lines of a stanza that make ssh use a key file and no other. -/
def keyLines (word : String) : List String :=
  [indentation ++ "IdentitiesOnly = yes", indentation ++ "IdentityFile = " ++ word]

/-- The stanza has the lines of the identity's key file, that of the first of its fingerprints that
    is in the library; if there is none, a warning names the identity. -/
structure Carries (own : Contents) (keys : KeyLibrary) (identity : String) (stanza : Stanza)
    (warnings : List Warning) : Prop where
  found : ∀ fingerprints path, own.keys.get? identity = some fingerprints →
    fingerprints.findSome? keys.lookup = some path →
      keyLines (Shell.quote path) <:+: stanza.lines
  missing : (∀ fingerprints, own.keys.get? identity = some fingerprints →
      ∀ fingerprint ∈ fingerprints, keys.lookup fingerprint = none) →
    ∃ warning ∈ warnings, warning = .undefinedIdentity own.locator identity ∨
      ∃ fingerprints, warning = .identityNotFound own.locator identity fingerprints

theorem keyFile_eq_ok {fingerprints : List String}
    (hdefined : own.keys.get? identity = some fingerprints)
    (hknown : fingerprints.findSome? keys.lookup = some path) :
    own.keyFile keys identity = .ok path := by
  unfold keyFile
  rw [hdefined]
  dsimp only
  rw [hknown]

theorem exists_keyFile_eq_error
    (h : ∀ fingerprints, own.keys.get? identity = some fingerprints →
      ∀ fingerprint ∈ fingerprints, keys.lookup fingerprint = none) :
    ∃ warning, own.keyFile keys identity = .error warning ∧
      (warning = .undefinedIdentity own.locator identity ∨
        ∃ fingerprints, warning = .identityNotFound own.locator identity fingerprints) := by
  unfold keyFile
  cases hdefined : own.keys.get? identity with
  | none => exact ⟨_, rfl, Or.inl rfl⟩
  | some fingerprints =>
    dsimp only
    rw [List.findSome?_eq_none_iff.2 (h fingerprints hdefined)]
    exact ⟨_, rfl, Or.inr ⟨fingerprints, rfl⟩⟩

theorem carries_of_keyFile {stanza : Stanza} {warnings : List Warning}
    (hfound : ∀ path, own.keyFile keys identity = .ok path →
      keyLines (Shell.quote path) <:+: stanza.lines)
    (hmissing : ∀ warning, own.keyFile keys identity = .error warning → warning ∈ warnings) :
    own.Carries keys identity stanza warnings := by
  constructor
  · intro fingerprints path hdefined hknown
    exact hfound path (keyFile_eq_ok hdefined hknown)
  · intro hunknown
    obtain ⟨warning, hfile, hnames⟩ := exists_keyFile_eq_error hunknown
    exact ⟨warning, hmissing warning hfile, hnames⟩

/-! ## From the section to the stanza -/

theorem IdentityBlock.eq_of_keyFile {part : List Line}
    (h : own.IdentityBlock keys identity part) (hfile : own.keyFile keys identity = .ok path) :
    part = identityLines path := by
  cases h with
  | @found before after fingerprint path' defined earlier known =>
    have hfirst : (before ++ fingerprint :: after).findSome? keys.lookup = some path' :=
      List.findSome?_eq_some_iff.2 ⟨before, fingerprint, after, rfl, known, earlier⟩
    obtain rfl := Except.ok.inj ((keyFile_eq_ok defined hfirst).symm.trans hfile)
    rfl
  | missing unknown =>
    obtain ⟨warning, herror, -⟩ := exists_keyFile_eq_error unknown
    cases herror.symm.trans hfile

/-- Every host that the section is inherited by has the lines of an identity together. -/
theorem HostExpands.infix_inherited (h : own.HostExpands keys place)
    (hreaches : own.Reaches [] place.2 index) (hs : own.sections[index]? = some s)
    (hidentity : identity ∈ s.identities) (hfile : own.keyFile keys identity = .ok path) :
    identityLines path <:+: own.inherited keys place.2 := by
  obtain ⟨parts, hparts, hblock⟩ := h.exists_block hreaches hs
  obtain ⟨part, hpart, hpair⟩ := exists_of_mem_right hparts.flip hidentity
  obtain rfl := hpair.eq_of_keyFile hfile
  have hback : parts.flatten <:+: s.lines ++ parts.flatten := (List.suffix_append _ _).isInfix
  exact ((List.infix_of_mem_flatten hpart).trans hback).trans hblock

/-- Of the lines of an identity only the path of the key file is filled. -/
theorem map_filled_identityLines (own : Contents) (combination : Combination) (path : String) :
    (identityLines path).map (fun line => own.filled combination (line.written indentation)) =
      keyLines (own.filled combination (Shell.quote path)) := by
  have hline : ∀ line : Line, own.filled combination (line.written indentation) =
      (line.filled (bound combination own.bindings)).written indentation :=
    fun line => Line.substituteBound_written isBlank_of_mem_indentation line
  have honly : Spanless "IdentitiesOnly".toList := by decide
  have hyes : Spanless "yes".toList := by decide
  have hfile : Spanless "IdentityFile".toList := by decide
  unfold identityLines keyLines
  rw [List.map_cons, List.map_singleton, hline, hline]
  unfold Line.filled Line.written
  rw [List.map_singleton, List.map_singleton, honly.substituteBound, hyes.substituteBound,
    hfile.substituteBound]
  rfl

/-- A path without spans is written as it is. -/
theorem filled_quote (own : Contents) (combination : Combination) (h : Spanless path.toList) :
    own.filled combination (Shell.quote path) = Shell.quote path :=
  (Shell.spanless_quote h).substituteBound

/-- The stanza of every combination has the lines of the key file. -/
theorem HostExpands.infix_stanzaOf (h : own.HostExpands keys place)
    (hreaches : own.Reaches [] place.2 index) (hs : own.sections[index]? = some s)
    (hidentity : identity ∈ s.identities) (hfile : own.keyFile keys identity = .ok path)
    (combination : Combination) :
    keyLines (own.filled combination (Shell.quote path)) <:+:
      (own.stanzaOf keys place combination).lines := by
  have hlines := (h.infix_inherited hreaches hs hidentity hfile).map
    fun line => own.filled combination (line.written indentation)
  rw [map_filled_identityLines] at hlines
  exact List.infix_cons hlines

/-- The sections that a host inherits warn about their identities. -/
theorem HostWarns.mem_of_keyFile {warnings : List Warning} {warning : Warning}
    (h : own.HostWarns keys place.2 warnings) (hreaches : own.Reaches [] place.2 index)
    (hs : own.sections[index]? = some s) (hidentity : identity ∈ s.identities)
    (hfile : own.keyFile keys identity = .error warning) : warning ∈ warnings := by
  obtain ⟨order, horder, rfl⟩ := h
  have hindex : index ∈ order := horder.mem_iff.2 ⟨place.2, by simp, hreaches⟩
  refine List.mem_flatMap.2 ⟨index, hindex, ?_⟩
  unfold sectionWarnings
  rw [hs]
  refine List.mem_filterMap.2 ⟨identity, hidentity, ?_⟩
  rw [identityWarning?_eq, hfile]

end Contents

namespace Document

variable {out : Outside} {account : Account}

/-- What the identities of a document are warned about, the rendering warns about. -/
theorem mem_warnings_of_keyFile {document : Document} {keys : KeyLibrary} {rendering : Rendering}
    (hrender : document.render keys = .ok rendering) {own : Contents}
    (hown : own ∈ document.preorder) {place : Section × ℕ} (hplace : place ∈ own.hostPlaces)
    {index : ℕ} (hreaches : own.Reaches [] place.2 index) {s : Section}
    (hs : own.sections[index]? = some s) {identity : String} (hidentity : identity ∈ s.identities)
    {warning : Warning} (hfile : own.keyFile keys identity = .error warning) :
    warning ∈ rendering.warnings := by
  obtain ⟨parts, hparts, hall⟩ := warnAll_renderAfter document ∅ rendering hrender
  obtain ⟨part, hpart, hosts, hhosts, rfl⟩ := Contents.exists_of_mem_right hparts.flip hown
  obtain ⟨warnings, hwarnings, hhost⟩ :=
    Contents.exists_of_mem_right hhosts.flip (List.mem_map.2 ⟨place, hplace, rfl⟩)
  have hhost : own.HostWarns keys place.2 warnings := hhost
  have hmem := hhost.mem_of_keyFile hreaches hs hidentity hfile
  have hpart' : warning ∈ own.droppedGlobals ++ hosts.flatten :=
    List.mem_append_right _ (List.mem_flatten.2 ⟨warnings, hwarnings, hmem⟩)
  have hfiltered : warning ∈ rendering.warnings.filter fun w => !w.isDuplicateHosts := by
    rw [hall]
    exact List.mem_flatten.2 ⟨_, hpart, hpart'⟩
  exact (List.mem_filter.1 hfiltered).1

/-- **An identity is looked up under the name that is left when its line has been read**, and for no
    combination under another one. Wherever in a tree of documents a text says `@identity <name>`,
    what was bound before is replaced in the name. Where there is no key file under what is left,
    the rendering warns about that; where there is one, every stanza of every host that the section
    is inherited by has the two lines of it, the path with its spans filled. So a stanza carries
    what it is to carry under the filled name — the name with the combination's values in place of
    its spans, then those of the document's variables — if looking up that name comes to the same,
    and the path has no spans. -/
theorem identity_is_looked_up_unfilled {locator text : String} {document : Document}
    (hread : ReadAs out locator text document) {keys : KeyLibrary} {rendering : Rendering}
    (hrender : document.render keys = .ok rendering)
    (hinside : Inside out ⟨.start locator false .empty, none, text, document⟩ account)
    {earlier after : List Directive} {name : String} {index : ℕ}
    (htext : Directive.ofText account.text = earlier ++ .identity name :: after)
    (hindex : (earlier.filter Directive.opens).length = index + 1) :
    let own := account.document.contents
    ∃ here, account.start.obeyAll account.supplied earlier = .ok here ∧
      ∀ place ∈ own.hostPlaces, own.Reaches [] place.2 index →
        let left := here.resolve name
        (∀ warning, own.keyFile keys left = .error warning → warning ∈ rendering.warnings) ∧
        ∀ combination ∈ crossProduct place.1.axes,
          let stanza := own.stanzaOf keys place combination
          let filled := own.filled combination left
          stanza ∈ rendering.stanzas ∧
          (∀ path, own.keyFile keys left = .ok path →
            Contents.keyLines (own.filled combination (Shell.quote path)) <:+: stanza.lines) ∧
          ((∀ path, own.keyFile keys left = .ok path → '<' ∉ path.toList) →
            own.keyFile keys filled = own.keyFile keys left →
              own.Carries keys filled stanza rendering.warnings) := by
  obtain ⟨⟨_, _, _, hfresh⟩, -, chain, hread'⟩ := hinside.sound (sound_of_readAs hread)
  obtain ⟨-, hobey⟩ := obeyAll_of_readFrom hread'
  rw [htext] at hobey
  obtain ⟨here, s, body, hhere, hs⟩ :=
    Contents.exists_filed_of_obeyAll hobey rfl (by rw [hfresh]; rfl) hindex
  have hidentity : here.resolve name ∈
      (s.addAll ((Directive.identity name).resolved here.bindings :: body)).identities :=
    List.mem_append_right _ (List.mem_filterMap.2 ⟨_, List.mem_cons_self, rfl⟩)
  intro own
  refine ⟨here, hhere, fun place hplace hreaches => ?_⟩
  have hown := hinside.contents_mem_preorder
  have hexpands := ((stanzas_renderAfter document ∅ rendering hrender).2 _ hown).hosts place hplace
  have hwarned : ∀ warning, own.keyFile keys (here.resolve name) = .error warning →
      warning ∈ rendering.warnings := fun warning hfile =>
    mem_warnings_of_keyFile hrender hown hplace hreaches hs hidentity hfile
  have hcarried := fun path (hfile : own.keyFile keys (here.resolve name) = .ok path) =>
    hexpands.infix_stanzaOf hreaches hs hidentity hfile
  refine ⟨hwarned, fun combination hc => ⟨stanzaOf_mem_stanzas hread hrender hown hplace hc,
    fun path hfile => hcarried path hfile combination, fun hpath hsame => ?_⟩⟩
  refine Contents.carries_of_keyFile (fun path hfile => ?_) fun warning hfile => ?_
  · have hlines := hcarried path (hsame.symm.trans hfile) combination
    have hspanless : Spanless path.toList :=
      Shell.spanless_of_not_mem (hpath path (hsame.symm.trans hfile))
    rwa [own.filled_quote combination hspanless] at hlines
  · exact hwarned warning (hsame.symm.trans hfile)

/-- A document with one host, which uses the identity `k<n>` with `1` for `n`. -/
def mooring (defined : KeyDefinitions) : Document :=
  ⟨{ Contents.start "mooring" false .empty with
      sections := [⟨"h<n>", .host [⟨"n", ["1"]⟩], [], [], ["k<n>"]⟩]
      keys := defined }, []⟩

/-- A library with one key. -/
def oneKey : KeyLibrary := .ofPairs [("aa", "/k/one")]

def skiffText : String := "@key k<n> aa\n@key k1 aa\n@with n 1\nHost h<n>\n@identity k<n>"

/-- There is a key under the name as it is written, and one under the filled name. -/
def skiffDocument : Document :=
  mooring ((Dictionary.empty.insert "k<n>" ["aa"]).insert "k1" ["aa"])

/-- The lines of such a document that come after those that define keys. -/
theorem readLines_mooring {out : Outside} {readChild : ReadChild} {chain : Chain} {line : ℕ}
    (defined : KeyDefinitions) :
    readLines out readChild chain none line ["@with n 1", "Host h<n>", "@identity k<n>"]
        ⟨{ Contents.start "mooring" false .empty with keys := defined }, []⟩ =
      ⟨[], .ok (mooring defined)⟩ := by
  rw [readLines_of_obey (by cbv) (by cbv : _ = Except.ok (.withVariable ⟨"n", ["1"]⟩)) (by simp)
      rfl,
    readLines_of_obey (by cbv) (by cbv : _ = Except.ok (.host "h<n>")) (by simp) rfl,
    readLines_of_obey (by cbv) (by cbv : _ = Except.ok (.identity "k<n>")) (by simp) (by cbv)]
  rfl

theorem lines_skiff : Text.lines skiffText =
    ["@key k<n> aa", "@key k1 aa", "@with n 1", "Host h<n>", "@identity k<n>"] := by
  cbv

theorem readAs_skiff : ReadAs harbour.outside "mooring" skiffText skiffDocument := by
  refine ⟨1, ?_⟩
  unfold readWithin
  rw [lines_skiff,
    readLines_of_obey (by cbv) (by cbv : _ = Except.ok (.key "k<n>" ["aa"])) (by simp) rfl,
    readLines_of_obey (by cbv) (by cbv : _ = Except.ok (.key "k1" ["aa"])) (by simp) rfl]
  exact congrArg Logged.outcome (readLines_mooring _)

theorem ofText_skiff : Directive.ofText skiffText =
    [.key "k<n>" ["aa"], .key "k1" ["aa"], .withVariable ⟨"n", ["1"]⟩, .host "h<n>"] ++
      .identity "k<n>" :: [] := by
  have hleft : Directive.ofRaw? "@key k<n> aa" = some (.key "k<n>" ["aa"]) :=
    Directive.ofRaw?_eq_some_iff.2 ⟨by cbv, by cbv⟩
  have hfilled : Directive.ofRaw? "@key k1 aa" = some (.key "k1" ["aa"]) :=
    Directive.ofRaw?_eq_some_iff.2 ⟨by cbv, by cbv⟩
  have hwith : Directive.ofRaw? "@with n 1" = some (.withVariable ⟨"n", ["1"]⟩) :=
    Directive.ofRaw?_eq_some_iff.2 ⟨by cbv, by cbv⟩
  have hhost : Directive.ofRaw? "Host h<n>" = some (.host "h<n>") :=
    Directive.ofRaw?_eq_some_iff.2 ⟨by cbv, by cbv⟩
  have hidentity : Directive.ofRaw? "@identity k<n>" = some (.identity "k<n>") :=
    Directive.ofRaw?_eq_some_iff.2 ⟨by cbv, by cbv⟩
  unfold Directive.ofText
  rw [lines_skiff]
  simp only [List.filterMap_cons, List.filterMap_nil, hleft, hfilled, hwith, hhost, hidentity]
  rfl

theorem skiff_carries_its_key :
    ReadAs harbour.outside "mooring" skiffText skiffDocument ∧
      ∃ rendering, skiffDocument.render oneKey = .ok rendering ∧
        ∃ stanza ∈ rendering.stanzas, stanza.host = some "h1" ∧
          skiffDocument.contents.Carries oneKey "k1" stanza rendering.warnings := by
  let host : Section × ℕ := (⟨"h<n>", .host [⟨"n", ["1"]⟩], [], [], ["k<n>"]⟩, 0)
  have hstanzas : (skiffDocument.contents.allStanzas oneKey).outcome =
      .ok [⟨some "h1", ["Host = h1", "    IdentitiesOnly = yes", "    IdentityFile = /k/one"]⟩] := by
    decide +kernel
  have hglobals : skiffDocument.contents.globals = .ok [] := by
    decide +kernel
  have hexpands : skiffDocument.contents.Expands oneKey :=
    Contents.expands_of_eq_ok hglobals hstanzas
  obtain ⟨rendering, hrender⟩ :=
    exists_renderAfter_eq_ok skiffDocument ∅ (List.forall_mem_singleton.2 hexpands)
  obtain ⟨here, hhere, hall⟩ :=
    identity_is_looked_up_unfilled readAs_skiff hrender .whole ofText_skiff rfl
  have hplace : host ∈ skiffDocument.contents.hostPlaces := by decide
  have hc : [("n", "1")] ∈ crossProduct host.1.axes := by decide
  obtain ⟨-, hcombinations⟩ := hall host hplace (.here List.not_mem_nil)
  obtain ⟨hstanza, -, hcarries⟩ := hcombinations _ hc
  have hleft : here.resolve "k<n>" = "k<n>" := by
    obtain rfl := Except.ok.inj hhere
    decide +kernel
  have hfilled : skiffDocument.contents.filled [("n", "1")] "k<n>" = "k1" := by
    decide +kernel
  have hfile : skiffDocument.contents.keyFile oneKey "k<n>" = .ok "/k/one" := by
    decide +kernel
  rw [hleft, hfilled] at hcarries
  refine ⟨readAs_skiff, rendering, hrender, _, hstanza, by decide +kernel,
    hcarries (fun path hpath => ?_) (by decide +kernel)⟩
  obtain rfl := Except.ok.inj (hfile.symm.trans hpath)
  decide

def skerryText : String := "@key k1 aa\n@with n 1\nHost h<n>\n@identity k<n>"

/-- There is a key under the filled name only. -/
def skerryDocument : Document := mooring (Dictionary.empty.insert "k1" ["aa"])

theorem readAs_skerry : ReadAs harbour.outside "mooring" skerryText skerryDocument := by
  have hlines : Text.lines skerryText =
      ["@key k1 aa", "@with n 1", "Host h<n>", "@identity k<n>"] := by
    cbv
  refine ⟨1, ?_⟩
  unfold readWithin
  rw [hlines,
    readLines_of_obey (by cbv) (by cbv : _ = Except.ok (.key "k1" ["aa"])) (by simp) rfl]
  exact congrArg Logged.outcome (readLines_mooring _)

/-- **The identity of the combination is not used.** Its name is `k1`, and there is a key file for
    it; the stanza is without, and the warning is about `k<n>`. -/
theorem skerry_misses_its_key :
    let own := skerryDocument.contents
    let stanza : Stanza := ⟨some "h1", ["Host = h1"]⟩
    ReadAs harbour.outside "mooring" skerryText skerryDocument ∧
      ∃ rendering, skerryDocument.render oneKey = .ok rendering ∧
        rendering.stanzas = [⟨none, []⟩, stanza] ∧
        .undefinedIdentity "mooring" "k<n>" ∈ rendering.warnings ∧
        own.filled [("n", "1")] "k<n>" = "k1" ∧ own.keyFile oneKey "k1" = .ok "/k/one" ∧
        ¬ own.Carries oneKey "k1" stanza rendering.warnings := by
  intro own stanza
  have hstanzas : (own.allStanzas oneKey).outcome = .ok [⟨some "h1", ["Host = h1"]⟩] := by
    decide +kernel
  have hglobals : own.globals = .ok [] := by
    decide +kernel
  obtain ⟨rendering, hrender⟩ := exists_renderAfter_eq_ok skerryDocument ∅
    (List.forall_mem_singleton.2 (Contents.expands_of_eq_ok hglobals hstanzas))
  have hplace : (⟨"h<n>", .host [⟨"n", ["1"]⟩], [], [], ["k<n>"]⟩, 0) ∈ own.hostPlaces := by decide
  refine ⟨readAs_skerry, rendering, hrender, ?_, ?_, by decide +kernel, by decide +kernel, ?_⟩
  · rw [stanzas_of_marked (marked_of_readAs readAs_skerry) hrender]
    decide +kernel
  · exact mem_warnings_of_keyFile hrender (List.mem_singleton_self _) hplace
      (.here List.not_mem_nil) rfl (List.mem_singleton_self "k<n>") (by decide +kernel)
  · intro hcarries
    have hlines := hcarries.found ["aa"] "/k/one" (by decide +kernel) (by decide +kernel)
    have hmem : indentation ++ "IdentitiesOnly = yes" ∈ stanza.lines :=
      hlines.subset List.mem_cons_self
    exact absurd hmem (by decide)

end Document
end SshTemplate
