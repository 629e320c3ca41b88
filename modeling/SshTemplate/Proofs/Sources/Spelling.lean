import SshTemplate.Proofs.Reading.Asking
import SshTemplate.Proofs.Reading.Schemes
import SshTemplate.Proofs.Sources.Home

/-!
# `Proofs.Sources.Spelling` — one file under several locators

A file can be included by its path, by its `file` URL, and from the home directory. All that the
cycle check sees of a locator is the text of its source, so it works only as far as these texts
agree, and as far as naming a source by its text does not make another source of it.

Both come from one fact about texts that begin with a slash: they are no URLs and no tilde, so they
are classified as they stand (`classify_of_absolute`). The text of a file's source is such a text,
unless it is a locator that was classified as it stands already. The `file` URL of a plain path
(`Url.PlainPath`) has the names of the path for its segments, with nothing to decode in them.

The stack of a reading is named by these texts in every state (`Named`): what was pushed for an
include has the name of its locator, and no later line changes the locator. So a document is found
on the stack under every other spelling of the locator that it was entered through.
-/

set_option autoImplicit false

namespace SshTemplate

open Text

/-! ## Texts that stand for themselves -/

namespace Path

theorem exists_cons_of_isAbsolute {path : String} (h : isAbsolute path = true) :
    ∃ rest, path.toList = '/' :: rest := by
  unfold isAbsolute at h
  cases hchars : path.toList with
  | nil => simp [hchars] at h
  | cons c rest =>
    rw [hchars] at h
    obtain rfl : c = '/' := by simpa using h
    exact ⟨rest, rfl⟩

theorem isAbsolute_append {base : String} (h : isAbsolute base = true) (rest : String) :
    isAbsolute (base ++ rest) = true := by
  obtain ⟨chars, hchars⟩ := exists_cons_of_isAbsolute h
  unfold isAbsolute
  rw [String.toList_append, hchars]
  rfl

/-- What is joined to an absolute path is absolute, whether it goes on or starts over. -/
theorem isAbsolute_join {base : String} (h : isAbsolute base = true) (rest : String) :
    isAbsolute (join base rest) = true := by
  unfold join
  split
  · next hover =>
    cases Bool.or_eq_true_iff.1 hover with
    | inl hrest => exact hrest
    | inr hempty =>
      rw [String.isEmpty_iff.1 hempty] at h
      cases h
  · split
    · exact isAbsolute_append h rest
    · rw [String.append_assoc]
      exact isAbsolute_append h _

end Path

/-! ## Plain paths -/

namespace Url

open Address (decode isSegmentChar)

variable {name : List Char} {names : List (List Char)} {path : String}

/-- A name that says nothing but itself. -/
structure IsPlainName (name : List Char) : Prop where
  nonempty : name ≠ []
  unreserved : ∀ c ∈ name, isUnreserved c = true
  not_current : name ≠ ['.']
  not_parent : name ≠ ['.', '.']

/-- An absolute path of unreserved characters and slashes, without empty pieces, `.` and `..`. -/
inductive PlainPath : String → Prop where
  | root : PlainPath "/"
  | names {path : String} {names : List (List Char)} (nonempty : names ≠ [])
      (plain : ∀ name ∈ names, IsPlainName name)
      (text : path.toList = names.flatMap ('/' :: ·)) : PlainPath path

theorem PlainPath.isAbsolute (h : PlainPath path) : Path.isAbsolute path = true := by
  cases h with
  | root => decide
  | names nonempty plain text =>
    obtain ⟨first, more, hnames⟩ := List.exists_cons_of_ne_nil nonempty
    unfold Path.isAbsolute
    rw [text, hnames]
    simp

theorem isSegmentChar_of_isUnreserved {c : Char} (h : isUnreserved c = true) :
    isSegmentChar c = true := by
  unfold isSegmentChar
  rw [h]
  rfl

/-- An unreserved character is in ASCII, and it is no percent sign, colon or bar. -/
theorem toNat_of_isUnreserved {c : Char} (h : isUnreserved c = true) :
    c.toNat < 0x80 ∧ c ≠ '%' ∧ c.toNat ≠ 0x3A ∧ c.toNat ≠ 0x7C := by
  have hrange := Address.toNat_of_isSegmentChar (isSegmentChar_of_isUnreserved h)
  refine ⟨by omega, ?_, by omega, by omega⟩
  rintro rfl
  exact absurd h (by decide)

theorem IsPlainName.no_slash (h : IsPlainName name) : '/' ∉ name := fun hmem =>
  absurd (h.unreserved _ hmem) (by decide)

/-- Nothing is encoded in unreserved characters. -/
theorem decode_unreserved (h : ∀ c ∈ name, isUnreserved c = true) :
    decode name = name.map byteOf := by
  induction name with
  | nil => rfl
  | cons c rest ih =>
    obtain ⟨hc, hrest⟩ := List.forall_mem_cons.1 h
    obtain ⟨hascii, hpercent, -⟩ := toNat_of_isUnreserved hc
    unfold decode
    split
    · next heq => cases heq
    · next heq => exact absurd (List.cons.inj heq).1 hpercent
    · next heq =>
      obtain ⟨rfl, rfl⟩ := List.cons.inj heq
      rw [utf8EncodeChar_ascii hascii, ih hrest]
      rfl

theorem IsPlainName.isSegment (h : IsPlainName name) : IsSegment name := by
  have hbytes := decode_unreserved h.unreserved
  -- Bytes of ASCII characters are shown as these characters, so dots could not be read from others.
  have hshown : decodeLossy (decode name) = name := by
    rw [hbytes]
    exact decodeLossy_bytes fun c hc => (toNat_of_isUnreserved (h.unreserved c hc)).1
  refine ⟨h.nonempty, fun c hc => Or.inl (h.unreserved c hc), fun hdot => ?_, fun hdots => ?_⟩
  · rw [hdot] at hshown
    exact h.not_current hshown.symm
  · rw [hdots] at hshown
    exact h.not_parent hshown.symm

/-- The segments in which a plain path is written. -/
theorem PlainPath.exists_segments (h : PlainPath path) :
    ∃ segments : List (List Char), segments ≠ [] ∧
      ((∀ segment ∈ segments, IsSegment segment) ∨ segments = [[]]) ∧
      path.toList = segments.flatMap ('/' :: ·) ∧ pathBytes segments = path.toList.map byteOf := by
  cases h with
  | root => exact ⟨[[]], by simp, Or.inr rfl, rfl, rfl⟩
  | @names _ names nonempty plain text =>
    refine ⟨names, nonempty, Or.inl fun name hname => (plain name hname).isSegment, text, ?_⟩
    rw [text, List.map_flatMap]
    apply List.flatMap_congr
    intro name hname
    rw [decode_unreserved (plain name hname).unreserved]
    rfl

/-- The bytes of a plain path are in ASCII, and none of them is a colon or a bar. -/
theorem PlainPath.chars (h : PlainPath path) :
    ∀ c ∈ path.toList, c.toNat < 0x80 ∧ c.toNat ≠ 0x3A ∧ c.toNat ≠ 0x7C := by
  intro c hc
  cases h with
  | root =>
    obtain rfl : c = '/' := by simpa using hc
    decide
  | names nonempty plain text =>
    rw [text] at hc
    obtain ⟨name, hname, hmem⟩ := List.mem_flatMap.1 hc
    rcases List.mem_cons.1 hmem with rfl | hmem
    · decide
    · obtain ⟨hascii, -, hmarks⟩ := toNat_of_isUnreserved ((plain name hname).unreserved c hmem)
      exact ⟨hascii, hmarks⟩

/-- **The `file` URL of a plain path denotes that path.** -/
theorem PlainPath.denoted {read : UrlReader} (hread : DecodesPath read) (h : PlainPath path) :
    ∃ url, read ("file://" ++ path) = some url ∧ url.scheme = "file" ∧
      url.localPath = some (path.toList.map byteOf) := by
  obtain ⟨segments, hne, hsegments, htext, hbytes⟩ := h.exists_segments
  rw [← hbytes]
  refine hread _ segments hne hsegments (fun byte hbyte => ?_) (by rw [String.toList_append, htext])
  rw [hbytes] at hbyte
  obtain ⟨c, hc, rfl⟩ := List.mem_map.1 (List.mem_of_getLast? hbyte)
  obtain ⟨hascii, hcolon, hbar⟩ := h.chars c hc
  rw [← toNat_byteOf hascii] at hcolon hbar
  exact ⟨fun heq => hcolon (heq ▸ rfl), fun heq => hbar (heq ▸ rfl)⟩

/-- Two slashes in a row do not occur in a plain path. -/
theorem PlainPath.ne_append (h : PlainPath path) (before after : List Char) :
    path.toList ≠ before ++ '/' :: '/' :: after := by
  intro hchars
  cases h with
  | root =>
    have hlength := congrArg List.length hchars
    simp at hlength
    omega
  | @names _ names nonempty plain text =>
    have hpieces : [] :: names = splitOn '/' before ++ [] :: splitOn '/' after := by
      calc [] :: names
          = splitOn '/' path.toList := by
            rw [text, Address.splitOn_flatMap fun name hname => (plain name hname).no_slash]
        _ = splitOn '/' before ++ splitOn '/' ('/' :: after) := by
            rw [hchars, splitOn_append_separator]
        _ = splitOn '/' before ++ [] :: splitOn '/' after := by
            rw [splitOn, if_pos rfl]
    -- The empty piece between the slashes is not the first one, so it is a name.
    have hempty : [] ∈ names := by
      have htail := congrArg List.tail hpieces
      rw [List.tail_cons, List.tail_append_of_ne_nil (splitOn_ne_nil '/' before)] at htail
      rw [htail]
      simp
    exact (plain [] hempty).nonempty rfl

end Url

namespace Source

variable {read : UrlReader}

theorem classify_of_absolute (hread : Url.BeginsWithLetter read) {path : String}
    (h : Path.isAbsolute path = true) (home : Option String) :
    classify read home path = .ok (.path path) := by
  obtain ⟨rest, hchars⟩ := Path.exists_cons_of_isAbsolute h
  rw [classify_of_no_url (hread _ _ _ hchars (by decide) (by decide))]
  unfold resolveTilde
  rw [hchars]
  cases home <;> rfl

/-- The text of an absolute path of bytes is an absolute path. -/
theorem isAbsolute_text_file (bytes : List UInt8) :
    Path.isAbsolute (file (0x2F :: bytes)).text = true := by
  unfold Path.isAbsolute text decodeLossy
  rw [String.toList_ofList, decodeFrom]
  rfl

/-- A tilde stays a tilde only if it is a part of a name, or if no home directory is known. -/
theorem resolveTilde_cases {home : Option String}
    (h : ∀ path ∈ home, Path.isAbsolute path = true) (locator : String) :
    Path.isAbsolute (resolveTilde home locator) = true ∨ resolveTilde home locator = locator := by
  unfold resolveTilde
  split
  · exact Or.inl (Path.isAbsolute_join (h _ rfl) _)
  · exact Or.inl (Path.isAbsolute_join (h _ rfl) _)
  · exact Or.inr rfl

/-- **The text of a file's source is classified as itself.** -/
theorem classify_text (hread : Url.BeginsWithLetter read) (hfiles : Url.DenotesAbsolutePaths read)
    {home : Option String} (hhome : ∀ path ∈ home, Path.isAbsolute path = true)
    {locator : String} {s : Source} (h : classify read home locator = .ok s)
    (hfile : ∀ address, s ≠ .https address) :
    classify read home s.text = .ok (.path s.text) := by
  cases hurl : read locator with
  | none =>
    have hlocator := classify_of_no_url hurl home
    obtain rfl : s = .path (resolveTilde home locator) := Except.ok.inj (h.symm.trans hlocator)
    show classify read home (resolveTilde home locator) = .ok (.path (resolveTilde home locator))
    cases resolveTilde_cases hhome locator with
    | inl habsolute => exact classify_of_absolute hread habsolute home
    | inr hsame =>
      rw [hsame] at hlocator ⊢
      exact hlocator
  | some url =>
    unfold classify at h
    rw [hurl] at h
    dsimp only at h
    split at h
    · obtain rfl := Except.ok.inj h
      exact absurd rfl (hfile url.text)
    · split at h
      · split at h
        · next location hpath =>
          obtain rfl := Except.ok.inj h
          obtain ⟨bytes, rfl⟩ := hfiles locator url location hurl hpath
          exact classify_of_absolute hread (isAbsolute_text_file bytes) home
        · cases h
      · cases h

/-! ## Spellings -/

/-- The locators that spell the path of a file. -/
inductive Spells (home : Option String) (path : String) : String → Prop where
  | path : Spells home path path
  | address : Spells home path ("file://" ++ path)
  | tilde {base rest : String} (known : home = some base) (below : path = base ++ "/" ++ rest) :
      Spells home path ("~/" ++ rest)

/-- Going on from a directory is writing the rest behind it, where that makes a plain path. -/
theorem join_of_plainPath {base rest : String} (hbase : Path.isAbsolute base = true)
    (h : Url.PlainPath (base ++ "/" ++ rest)) : Path.join base rest = base ++ "/" ++ rest := by
  obtain ⟨first, hfirst⟩ := Path.exists_cons_of_isAbsolute hbase
  have hchars : (base ++ "/" ++ rest).toList = base.toList ++ '/' :: rest.toList := by simp
  have hrest : Path.isAbsolute rest = false := by
    by_contra habsolute
    obtain ⟨more, hmore⟩ := Path.exists_cons_of_isAbsolute (Bool.not_eq_false _ ▸ habsolute)
    rw [hmore] at hchars
    exact h.ne_append _ _ hchars
  have hnonempty : base.isEmpty = false := by
    rw [← Bool.not_eq_true, String.isEmpty_iff]
    intro hempty
    rw [hempty] at hbase
    cases hbase
  have hend : ¬ base.toList.getLast? = some '/' := by
    intro hlast
    obtain ⟨front, hfront⟩ := List.getLast?_eq_some_iff.1 hlast
    rw [hfront, List.append_assoc] at hchars
    exact h.ne_append _ _ hchars
  unfold Path.join
  rw [hrest, hnonempty, if_neg (by simp), if_neg hend]

/-- **Every spelling of a plain path is classified as that path.** -/
theorem text_of_spells (hread : Url.BeginsWithLetter read) (hdecodes : Url.DecodesPath read)
    {home : Option String} (hhome : ∀ path ∈ home, Path.isAbsolute path = true)
    {path locator : String} (hplain : Url.PlainPath path) (h : Spells home path locator) :
    ∃ s, classify read home locator = .ok s ∧ s.text = path := by
  cases h with
  | path => exact ⟨.path path, classify_of_absolute hread hplain.isAbsolute home, rfl⟩
  | address =>
    obtain ⟨url, hurl, hscheme, hpath⟩ := hplain.denoted hdecodes
    refine ⟨.file (path.toList.map Url.byteOf), ?_, ?_⟩
    · unfold classify
      rw [hurl]
      dsimp only
      rw [hscheme, hpath]
      rfl
    · show String.ofList (decodeLossy (path.toList.map Url.byteOf)) = path
      rw [Url.decodeLossy_bytes fun c hc => (hplain.chars c hc).1, String.ofList_toList]
  | @tilde base rest known below =>
    subst known below
    refine ⟨.path (Path.join base rest), classify_tilde hread base rest, ?_⟩
    exact join_of_plainPath (hhome base rfl) hplain

end Source

/-! ## The names on the stack -/

namespace Document

variable {out : Outside} {asked : List Source} {current : Frame} {outer : List Frame}

/-- The frame stands on the stack by the text of its locator's source. -/
def Frame.Named (out : Outside) (frame : Frame) : Prop :=
  frame.name = topText out frame.document.contents.locator

/-- Every document that is being read stands by the text of its locator's source. -/
def State.Named (out : Outside) : State → Prop
  | .reading _ current outer => ∀ frame ∈ current :: outer, frame.Named out
  | .ended _ _ => True

/-- **A step keeps the names of the documents that are being read.** -/
theorem named_next {state : State} (h : state.Named out) : (next out state).Named out := by
  cases state with
  | ended asked outcome => trivial
  | reading asked current outer =>
    obtain ⟨hcurrent, houter⟩ := List.forall_mem_cons.1 h
    have hmoves := moves_next out asked current outer
    generalize hnext : next out (.reading asked current outer) = after at hmoves ⊢
    cases hmoves with
    | finishes idle => trivial
    | fails silent => trivial
    | asksInVain asks => trivial
    | returns idle =>
      obtain ⟨hparent, hothers⟩ := List.forall_mem_cons.1 houter
      exact List.forall_mem_cons.2 ⟨hparent, hothers⟩
    | @goesOn _ rest document idle located includes =>
      refine List.forall_mem_cons.2 ⟨?_, houter⟩
      show current.name = topText out document.contents.locator
      rw [located]
      exact hcurrent
    | @opens _ s opening rest asks classified =>
      -- What is pushed is named by the source that its locator has just been classified as.
      have hname : opening.name = s.text := by
        obtain ⟨opened, below, hopened, -, heq⟩ | ⟨error, heq, -⟩ :=
          next_of_not_mem_names asks.1 asks.2
        · cases hnext.symm.trans heq
          exact hopened
        · cases hnext.symm.trans heq
      exact List.forall_mem_cons.2 ⟨hname.trans (topText_of_classify classified).symm,
        List.forall_mem_cons.2 ⟨hcurrent, houter⟩⟩

theorem named_iterate {state : State} (h : state.Named out) (n : Nat) :
    ((next out)^[n] state).Named out :=
  Function.Iterate.rec (State.Named out) h (fun _ hstate => named_next hstate) n

theorem named_firstState (locator text : String) : (firstState out locator text).Named out := by
  intro frame hframe
  obtain rfl := List.mem_singleton.1 hframe
  rfl

theorem mem_names {frame : Frame} (h : frame ∈ current :: outer) :
    frame.name ∈ names current outer := by
  unfold names
  cases List.mem_cons.1 h with
  | inl heq =>
    subst heq
    simp
  | inr hmem =>
    apply List.mem_append_left
    rw [List.mem_reverse]
    exact List.mem_map_of_mem hmem

/-! ## The result -/

/-- **A file has one name, however it is spelled.** The text of a file's source is classified as a
    source with that text again; and the path of a file, its URL and its place below the home
    directory have one text, which is the path. So a document that is being read is recognised under
    each of them, whichever it was entered through: the line that includes it again ends the
    reading with a cycle, and the file is not asked for. -/
theorem file_has_one_name {readUrl : UrlReader} (hletter : Url.BeginsWithLetter readUrl)
    (hdecodes : Url.DecodesPath readUrl) (hfiles : Url.DenotesAbsolutePaths readUrl)
    {home : Option String} (hhome : ∀ path ∈ home, Path.isAbsolute path = true) :
    (∀ locator s, Source.classify readUrl home locator = .ok s →
      (∀ address, s ≠ .https address) →
        ∃ again, Source.classify readUrl home s.text = .ok again ∧ again.text = s.text) ∧
    ∀ path, Url.PlainPath path →
      (∀ locator, Source.Spells home path locator →
        ∃ s, Source.classify readUrl home locator = .ok s ∧ s.text = path) ∧
      ∀ out top text n asked current outer frame locator,
        out.readUrl = readUrl → out.home = home →
        (next out)^[n] (firstState out top text) = .reading asked current outer →
        frame ∈ current :: outer →
        Source.Spells home path frame.document.contents.locator →
        NextIncludes current locator → Source.Spells home path locator →
          path ∈ names current outer ∧
          next out (.reading asked current outer) =
            .ended asked (.error (current.cycleError (names current outer ++ [path]))) ∧
          ∀ around, out = around.outside → read around top text =
            ⟨asked, .error (current.cycleError (names current outer ++ [path]))⟩ := by
  refine ⟨?_, ?_⟩
  · intro locator s hs hfile
    exact ⟨_, Source.classify_text hletter hfiles hhome hs hfile, rfl⟩
  intro path hplain
  have htext : ∀ locator, Source.Spells home path locator →
      ∃ s, Source.classify readUrl home locator = .ok s ∧ s.text = path :=
    fun locator hspells => Source.text_of_spells hletter hdecodes hhome hplain hspells
  refine ⟨htext, ?_⟩
  rintro out top text n asked current outer frame locator rfl rfl hstate hframe hentered hnext
    hagain
  have hnamed : (State.reading asked current outer).Named out := by
    rw [← hstate]
    exact named_iterate (named_firstState top text) n
  obtain ⟨entered, hclassified, hpath⟩ := htext _ hentered
  have hmem : path ∈ names current outer := by
    have hname : frame.name = path := by
      rw [hnamed frame hframe, ← hpath]
      exact topText_of_classify hclassified
    rw [← hname]
    exact mem_names hframe
  obtain ⟨s, hs, rfl⟩ := htext locator hagain
  have hat : AtInclude out current s := atInclude_of_classified hnext hs
  have hended : next out (.reading asked current outer) =
      .ended asked (.error (current.cycleError (names current outer ++ [s.text]))) :=
    next_of_mem_names hat hmem
  refine ⟨hmem, hended, ?_⟩
  rintro around rfl
  exact read_of_next_ended hstate hended

/-- A document in the home directory that includes itself by its URL. -/
def eddy : Surroundings where
  readUrl := Address.reader
  home := some "/home"
  fetcher := .ofDictionary ⟨[("/home/loop", .ok "@include file:///home/loop")], by simp⟩

/-- The document as it is entered from the home directory. -/
def eddyFrame : Frame :=
  ⟨"/home/loop", some [], ⟨.start "~/loop" true .empty, []⟩, 1, ["@include file:///home/loop"]⟩

theorem next_eddy :
    ∃ below, names eddyFrame [below] = ["top", "/home/loop"] ∧
      (next eddy.outside)^[1] (firstState eddy.outside "top" "@include ~/loop") =
        .reading [.path "/home/loop"] eddyFrame [below] := by
  have hlines : Text.lines "@include ~/loop" = ["@include ~/loop"] := by cbv
  have hremark : Line.isRemark "@include ~/loop" = false := by cbv
  have hline : Directive.read "@include ~/loop" = .ok (.includes "~/loop" []) := by cbv
  have htop : topText eddy.outside "top" = "top" := by cbv
  have hresolve : (Contents.start "top" false .empty).resolve "~/loop" = "~/loop" := by cbv
  have hs : eddy.outside.classify
      ((Contents.start "top" false .empty).resolve "~/loop") = .ok (.path "/home/loop") := by
    rw [hresolve]
    cbv
  have hopen : openInclude eddy.outside ["top"] (.start "top" false .empty) 1 "~/loop" [] =
      ⟨[.path "/home/loop"], .ok ⟨"/home/loop", .start "~/loop" true .empty, [],
        "@include file:///home/loop"⟩⟩ := by
    rw [openInclude_of_answer hs (by decide) rfl, hresolve]
    rfl
  have hincluded : Text.lines "@include file:///home/loop" = ["@include file:///home/loop"] := by
    cbv
  have htops : names ⟨"top", none, ⟨.start "top" false .empty, []⟩, 1, ["@include ~/loop"]⟩ [] =
      ["top"] := rfl
  refine ⟨⟨"top", none, ⟨.start "top" false .empty, []⟩, 2, []⟩, rfl, ?_⟩
  show next eddy.outside (firstState eddy.outside "top" "@include ~/loop") = _
  unfold firstState
  rw [htop, hlines, next_of_line rfl (by simp [hremark]), stepLine_of_include hline]
  dsimp only
  rw [htops, hopen]
  unfold eddyFrame Opening.frame
  dsimp only
  rw [hincluded]
  rfl

/-- Entered from the home directory, the document is recognised by its URL. -/
theorem read_eddy :
    (∀ path ∈ some "/home", Path.isAbsolute path = true) ∧
      read eddy "top" "@include ~/loop" = ⟨[.path "/home/loop"],
        .error (.parse "~/loop" 1 (.includeCycle ["top", "/home/loop", "/home/loop"]))⟩ := by
  have hhome : ∀ path ∈ some "/home", Path.isAbsolute path = true := by decide
  have hplain : Url.PlainPath "/home/loop" := by
    have hchars : "/home/loop".toList =
        [['h', 'o', 'm', 'e'], ['l', 'o', 'o', 'p']].flatMap ('/' :: ·) := rfl
    refine .names (by simp) ?_ hchars
    intro name hname
    have hletters : [['h', 'o', 'm', 'e'], ['l', 'o', 'o', 'p']].all
        (·.all Url.isUnreserved) = true := rfl
    have hunreserved := List.all_eq_true.1 (List.all_eq_true.1 hletters name hname)
    have hnames := List.mem_pair.1 hname
    exact ⟨by rintro rfl; simp at hnames, hunreserved, by rintro rfl; simp at hnames,
      by rintro rfl; simp at hnames⟩
  have hentered : Source.Spells (some "/home") "/home/loop" ("~/" ++ "loop") := .tilde rfl rfl
  have hremark : Line.isRemark "@include file:///home/loop" = false := by cbv
  have hline : Directive.read "@include file:///home/loop" =
      .ok (.includes "file:///home/loop" []) := by
    cbv
  have hresolve : (Contents.start "~/loop" true .empty).resolve "file:///home/loop" =
      "file:///home/loop" := by
    cbv
  have hnext : NextIncludes eddyFrame "file:///home/loop" :=
    ⟨_, [], "file:///home/loop", [], rfl, by simp [hremark], hline, hresolve⟩
  obtain ⟨-, hpaths⟩ := file_has_one_name Address.beginsWithLetter_reader Address.decodesPath_reader
    Address.denotesAbsolutePaths_reader hhome
  obtain ⟨-, hstates⟩ := hpaths "/home/loop" hplain
  obtain ⟨below, hnames, hstate⟩ := next_eddy
  obtain ⟨-, -, hread⟩ := hstates eddy.outside "top" "@include ~/loop" 1 _ eddyFrame [below] eddyFrame
    "file:///home/loop" rfl rfl hstate List.mem_cons_self hentered hnext .address
  have hcycle := hread eddy rfl
  rw [hnames] at hcycle
  exact ⟨hhome, hcycle⟩

end Document
end SshTemplate
