import Mathlib
import SshTemplate.Address
import SshTemplate.Document.Reading

/-!
# `Proofs.Reading.Steps` — what one line does to a document that is being read

Everything that is proved about reading goes by induction over lines, and over documents inside
documents. The two inductions meet a line in the same four ways — it is a remark, it cannot be read,
it includes a document, it changes the contents — so the ways are told apart once, here, and no
later proof opens `readLine` or `openInclude` again.

The bound of `readWithin` is the program's own safety net and not part of what a template means. So
what a text is read as is stated with the bound left open (`ReadFrom`): then a source of texts may
answer for endlessly many sources, as long as this text needs only finitely many of them.
-/

set_option autoImplicit false

namespace SshTemplate

theorem Directive.includes_or_not (directive : Directive) :
    (∃ source args, directive = .includes source args) ∨
      ∀ source args, directive ≠ .includes source args := by
  cases directive with
  | includes source args => exact Or.inl ⟨source, args, rfl⟩
  | _ => exact Or.inr fun _ _ h => by cases h

namespace Contents

theorem locator_amend (own : Contents) (change : Section → Section) :
    (own.amend change).locator = own.locator ∧ (own.amend change).included = own.included := by
  unfold amend
  split <;> exact ⟨rfl, rfl⟩

/-- No directive changes what a document is called, nor whether it was included. -/
theorem locator_of_obey {supplied : Option (List String)} {own later : Contents}
    {directive : Directive} (h : own.obey supplied directive = .ok later) :
    later.locator = own.locator ∧ later.included = own.included := by
  cases directive with
  | hostAttrs name =>
    dsimp only [obey] at h
    by_cases hp : own.pending.isEmpty = true
    · rw [if_pos hp] at h; cases h; exact ⟨rfl, rfl⟩
    · rw [if_neg hp] at h; cases h
  | inherits name =>
    dsimp only [obey] at h
    by_cases hs : own.sections.isEmpty = true
    · rw [if_pos hs] at h; cases h
    · rw [if_neg hs] at h; cases h; exact own.locator_amend _
  | via gateway => cases h; exact own.locator_amend _
  | identity name => cases h; exact own.locator_amend _
  | literal line => cases h; exact own.locator_amend _
  | args names =>
    dsimp only [obey, bindArguments] at h
    cases supplied with
    | none => cases h; exact ⟨rfl, rfl⟩
    | some values =>
      dsimp only at h
      by_cases hlen : values.length = names.length
      · rw [if_pos hlen] at h; cases h; exact ⟨rfl, rfl⟩
      · rw [if_neg hlen] at h; cases h
  | _ => cases h; exact ⟨rfl, rfl⟩

end Contents

namespace Document

variable {out : Outside} {readChild : ReadChild} {chain : Chain} {supplied : Option (List String)}
variable {own : Contents} {document after : Document} {line : Nat} {raw source : String}
variable {args : List String} {s : Source}

/-- The text is read as the document, within some bound, while the documents of the chain are being
    read. -/
def ReadFrom (out : Outside) (chain : Chain) (start : Contents) (supplied : Option (List String))
    (text : String) (document : Document) : Prop :=
  ∃ depth, (readWithin out depth chain start supplied text).outcome = .ok document

/-- The same for a document that nothing includes. -/
def ReadAs (out : Outside) (locator text : String) (document : Document) : Prop :=
  ReadFrom out [topText out locator] (.start locator false .empty) none text document

theorem nodup_push {name : String} (h : chain.Nodup) (hfresh : name ∉ chain) :
    (chain ++ [name]).Nodup := by
  refine List.nodup_append.2 ⟨h, by simp, fun a ha b hb hab => ?_⟩
  obtain rfl : b = name := by simpa using hb
  exact hfresh (hab ▸ ha)

theorem readAs_of_read {around : Surroundings} {locator text : String}
    (h : (read around locator text).outcome = .ok document) :
    ReadAs around.outside locator text document := ⟨_, h⟩

/-! ## Opening an included document -/

theorem openInclude_of_refused {refusal : Refusal}
    (hs : out.classify (own.resolve source) = .error refusal) :
    openInclude out chain own line source args =
      .fail (.security own.locator (own.resolve source) refusal) := by
  unfold openInclude
  dsimp only
  rw [hs]

theorem openInclude_of_mem (hs : out.classify (own.resolve source) = .ok s)
    (hc : s.text ∈ chain) :
    openInclude out chain own line source args =
      .fail (.parse own.locator line (.includeCycle (chain ++ [s.text]))) := by
  unfold openInclude
  dsimp only
  rw [hs]
  dsimp only
  rw [if_pos hc]

theorem openInclude_of_answer {text : String}
    (hs : out.classify (own.resolve source) = .ok s) (hc : s.text ∉ chain)
    (hf : out.fetch s = .ok text) :
    openInclude out chain own line source args =
      ⟨[s], .ok
        ⟨s.text, .start (own.resolve source) true own.keys, args.map own.resolve, text⟩⟩ := by
  unfold openInclude
  dsimp only
  rw [hs]
  dsimp only
  rw [if_neg hc, hf]
  rfl

/-- A source without an answer has been asked for, and the error is none of the text's own. -/
theorem openInclude_of_failure {failure : FetchFailure}
    (hs : out.classify (own.resolve source) = .ok s) (hc : s.text ∉ chain)
    (hf : out.fetch s = .error failure) :
    ∃ error, openInclude out chain own line source args = ⟨[s], .error error⟩ ∧
      ∀ locator n issue, error ≠ .parse locator n issue := by
  unfold openInclude
  dsimp only
  rw [hs]
  dsimp only
  rw [if_neg hc, hf]
  cases failure with
  | refused status =>
    exact ⟨.security own.locator (own.resolve source) (.httpStatus status), rfl,
      fun _ _ _ h => by cases h⟩
  | file fault =>
    exact ⟨.fetch own.locator (own.resolve source) (.file fault), rfl, fun _ _ _ h => by cases h⟩
  | request causes =>
    exact ⟨.fetch own.locator (own.resolve source) (.request causes), rfl,
      fun _ _ _ h => by cases h⟩

/-- What is opened is an answer to a source that is not being read, and it starts from nothing but
    the keys of the including document and the arguments of the line. -/
theorem exists_of_openInclude_eq_ok {opening : Opening}
    (h : (openInclude out chain own line source args).outcome = .ok opening) :
    ∃ s text, out.classify (own.resolve source) = .ok s ∧ s.text ∉ chain ∧
      out.fetch s = .ok text ∧ opening =
        ⟨s.text, .start (own.resolve source) true own.keys, args.map own.resolve, text⟩ := by
  cases hs : out.classify (own.resolve source) with
  | error refusal => rw [openInclude_of_refused hs] at h; cases h
  | ok s =>
    by_cases hc : s.text ∈ chain
    · rw [openInclude_of_mem hs hc] at h
      cases h
    · cases hf : out.fetch s with
      | error failure =>
        obtain ⟨error, heq, -⟩ : ∃ error,
            openInclude out chain own line source args = ⟨[s], .error error⟩ ∧ _ :=
          openInclude_of_failure hs hc hf
        rw [heq] at h
        cases h
      | ok text =>
        rw [openInclude_of_answer hs hc hf] at h
        exact ⟨s, text, rfl, hc, hf, (Except.ok.inj h).symm⟩

/-! ## One line -/

theorem readLine_of_error {issue : Issue} (h : Directive.read raw = .error issue) :
    readLine out readChild chain supplied line raw document =
      .fail (.parse document.contents.locator line issue) := by
  unfold readLine
  rw [h]

theorem readLine_of_include (h : Directive.read raw = .ok (.includes source args)) :
    readLine out readChild chain supplied line raw document =
      (openInclude out chain document.contents line source args).bind fun opening =>
        (readChild (chain ++ [opening.name]) opening).bind fun child =>
          .pure (document.addInclude child) := by
  unfold readLine
  rw [h]

theorem readLine_of_directive {directive : Directive} (h : Directive.read raw = .ok directive)
    (hne : ∀ source args, directive ≠ .includes source args) :
    readLine out readChild chain supplied line raw document =
      match document.contents.obey supplied directive with
      | .error issue => .fail (.parse document.contents.locator line issue)
      | .ok own => .pure { document with contents := own } := by
  unfold readLine
  rw [h]
  cases directive with
  | includes source args => exact absurd rfl (hne source args)
  | _ => rfl

theorem exists_of_readLine_eq_ok
    (h : (readLine out readChild chain supplied line raw document).outcome = .ok after) :
    (∃ source args opening child, Directive.read raw = .ok (.includes source args) ∧
      (openInclude out chain document.contents line source args).outcome = .ok opening ∧
      (readChild (chain ++ [opening.name]) opening).outcome = .ok child ∧
      after = document.addInclude child) ∨
    ∃ directive own, Directive.read raw = .ok directive ∧
      (∀ source args, directive ≠ .includes source args) ∧
      document.contents.obey supplied directive = .ok own ∧
      after = { document with contents := own } := by
  cases hread : Directive.read raw with
  | error issue => rw [readLine_of_error hread] at h; cases h
  | ok directive =>
    rcases directive.includes_or_not with ⟨source, args, rfl⟩ | hne
    · rw [readLine_of_include hread] at h
      obtain ⟨opening, hopening, hmore⟩ := Logged.exists_of_bind_eq_ok h
      obtain ⟨child, hchild, hafter⟩ := Logged.exists_of_bind_eq_ok hmore
      exact Or.inl ⟨source, args, opening, child, rfl, hopening, hchild,
        (Except.ok.inj hafter).symm⟩
    · rw [readLine_of_directive hread hne] at h
      cases hobey : document.contents.obey supplied directive with
      | error issue => rw [hobey] at h; cases h
      | ok own =>
        rw [hobey] at h
        exact Or.inr ⟨directive, own, rfl, hne, hobey, (Except.ok.inj h).symm⟩

/-! ## Lines -/

theorem readLines_of_remark {rest : List String} (h : Line.isRemark raw = true) :
    readLines out readChild chain supplied line (raw :: rest) document =
      readLines out readChild chain supplied (line + 1) rest document := by
  rw [readLines, if_pos h]

theorem readLines_of_directive {rest : List String} (h : ¬ Line.isRemark raw = true) :
    readLines out readChild chain supplied line (raw :: rest) document =
      (readLine out readChild chain supplied line raw document).bind
        (readLines out readChild chain supplied (line + 1) rest) := by
  rw [readLines, if_neg h]

section Ways

variable {includes : List Document} {rest : List String} {later : Contents} {opening : Opening}
variable {child : Document} {error : Error} {issue : Issue} {directive : Directive}
variable {opened asked : List Source}

theorem readLines_of_unread (hr : Line.isRemark raw = false)
    (hread : Directive.read raw = .error issue) :
    readLines out readChild chain supplied line (raw :: rest) ⟨own, includes⟩ =
      .fail (.parse own.locator line issue) := by
  rw [readLines_of_directive (by simp [hr]), readLine_of_error hread]
  rfl

theorem readLines_of_disobey (hr : Line.isRemark raw = false)
    (hread : Directive.read raw = .ok directive)
    (hne : ∀ source args, directive ≠ .includes source args)
    (hobey : own.obey supplied directive = .error issue) :
    readLines out readChild chain supplied line (raw :: rest) ⟨own, includes⟩ =
      .fail (.parse own.locator line issue) := by
  rw [readLines_of_directive (by simp [hr]), readLine_of_directive hread hne]
  dsimp only
  rw [hobey]
  rfl

theorem readLines_of_obey (hr : Line.isRemark raw = false)
    (hread : Directive.read raw = .ok directive)
    (hne : ∀ source args, directive ≠ .includes source args)
    (hobey : own.obey supplied directive = .ok later) :
    readLines out readChild chain supplied line (raw :: rest) ⟨own, includes⟩ =
      readLines out readChild chain supplied (line + 1) rest ⟨later, includes⟩ := by
  rw [readLines_of_directive (by simp [hr]), readLine_of_directive hread hne]
  dsimp only
  rw [hobey]
  rfl

variable (hr : Line.isRemark raw = false) (hread : Directive.read raw = .ok (.includes source args))

include hr hread

theorem readLines_of_unopened
    (hopen : openInclude out chain own line source args = ⟨opened, .error error⟩) :
    readLines out readChild chain supplied line (raw :: rest) ⟨own, includes⟩ =
      ⟨opened, .error error⟩ := by
  rw [readLines_of_directive (by simp [hr]), readLine_of_include hread, hopen]
  rfl

theorem readLines_of_childError
    (hopen : openInclude out chain own line source args = ⟨opened, .ok opening⟩)
    (hchild : readChild (chain ++ [opening.name]) opening = ⟨asked, .error error⟩) :
    readLines out readChild chain supplied line (raw :: rest) ⟨own, includes⟩ =
      ⟨opened ++ asked, .error error⟩ := by
  rw [readLines_of_directive (by simp [hr]), readLine_of_include hread, hopen]
  dsimp only [Logged.bind]
  rw [hchild]

theorem readLines_of_include
    (hopen : openInclude out chain own line source args = ⟨opened, .ok opening⟩)
    (hchild : readChild (chain ++ [opening.name]) opening = ⟨asked, .ok child⟩) :
    readLines out readChild chain supplied line (raw :: rest) ⟨own, includes⟩ =
      let more := readLines out readChild chain supplied (line + 1) rest ⟨own, includes ++ [child]⟩
      ⟨opened ++ asked ++ more.log, more.outcome⟩ := by
  rw [readLines_of_directive (by simp [hr]), readLine_of_include hread, hopen]
  dsimp only [Logged.bind]
  rw [hchild]
  simp [Logged.pure, addInclude]

end Ways

/-- **What every line keeps, a text keeps.** `P` holds of the document when the last line has been
    read if it holds before the first, and if no line that can be read takes it away. -/
theorem readLines_invariant {P : Document → Prop} {lines : List String}
    (step : ∀ raw line document after,
      (readLine out readChild chain supplied line raw document).outcome = .ok after →
        P document → P after)
    (h : (readLines out readChild chain supplied line lines document).outcome = .ok after)
    (start : P document) : P after := by
  induction lines generalizing line document with
  | nil => exact Except.ok.inj h ▸ start
  | cons raw rest ih =>
    by_cases hr : Line.isRemark raw = true
    · rw [readLines_of_remark hr] at h
      exact ih h start
    · rw [readLines_of_directive hr] at h
      obtain ⟨next, hnext, hrest⟩ := Logged.exists_of_bind_eq_ok h
      exact ih hrest (step raw line document next hnext start)

/-- **Every included document was opened by a line and read by itself.** The opening is an answer to
    the source that the document's own locator means, and that source was not being read. -/
theorem opening_of_mem_includes {out : Outside} {depth : Nat} {chain : Chain} {start : Contents}
    {supplied : Option (List String)} {text : String} {document : Document}
    (h : (readWithin out (depth + 1) chain start supplied text).outcome = .ok document) :
    document.contents.locator = start.locator ∧ document.contents.included = start.included ∧
    ∀ child ∈ document.includes, ∃ s locator keys args reply,
      out.classify locator = .ok s ∧ s.text ∉ chain ∧ out.fetch s = .ok reply ∧
      (readWithin out depth (chain ++ [s.text]) (.start locator true keys) (some args)
        reply).outcome = .ok child := by
  unfold readWithin at h
  refine readLines_invariant (P := fun document =>
    document.contents.locator = start.locator ∧ document.contents.included = start.included ∧
    ∀ child ∈ document.includes, ∃ s locator keys args reply,
      out.classify locator = .ok s ∧ s.text ∉ chain ∧ out.fetch s = .ok reply ∧
      (readWithin out depth (chain ++ [s.text]) (.start locator true keys) (some args)
        reply).outcome = .ok child) ?_ h ⟨rfl, rfl, fun child hc => absurd hc (by simp)⟩
  intro raw line before after hline ⟨hlocator, hincluded, hchildren⟩
  rcases exists_of_readLine_eq_ok hline with
    ⟨source, args, opening, child, -, hopening, hchild, rfl⟩ | ⟨directive, own, -, -, hobey, rfl⟩
  · refine ⟨hlocator, hincluded, fun other hother => ?_⟩
    rcases List.mem_append.1 hother with hother | hother
    · exact hchildren other hother
    · obtain rfl : other = child := by simpa using hother
      obtain ⟨s, reply, hs, hfresh, hreply, rfl⟩ := exists_of_openInclude_eq_ok hopening
      exact ⟨s, _, _, _, reply, hs, hfresh, hreply, hchild⟩
  · obtain ⟨hl, hi⟩ := Contents.locator_of_obey hobey
    exact ⟨hl.trans hlocator, hi.trans hincluded, hchildren⟩

/-! ## A small tree -/

/-- Where the document `/more` can be included. -/
def harbour : Surroundings :=
  { readUrl := Address.reader
    home := some "/home"
    fetcher := .ofDictionary ⟨[("/more", .ok "@args name\nHost <name>\nPort 1")], by simp⟩ }

def harbourText : String :=
  "Zone b\nArea a\n@set where far\n@include /more <where>\n@with n 1 2\nHost near<n>"

def harbourChild : Document :=
  ⟨{ Contents.start "/more" true .empty with
      bindings := Dictionary.empty.insert "name" "far"
      sections := [⟨"<name>", .host [], [⟨"Port", ["1"]⟩], [], []⟩] }, []⟩

/-- What the document says before it includes the other one. -/
def harbourStart : Contents :=
  { Contents.start "top" false .empty with
    root := ⟨"Root", .root, [⟨"Zone", ["b"]⟩, ⟨"Area", ["a"]⟩], [], []⟩
    bindings := Dictionary.empty.insert "where" "far" }

def harbourDocument : Document :=
  ⟨{ harbourStart with sections := [⟨"near<n>", .host [⟨"n", ["1", "2"]⟩], [], [], []⟩] },
    [harbourChild]⟩

theorem readWithin_harbour (depth : Nat) (chain : Chain) :
    readWithin harbour.outside (depth + 1) chain (.start "/more" true .empty) (some ["far"])
      "@args name\nHost <name>\nPort 1" = ⟨[], .ok harbourChild⟩ := by
  have hlines : Text.lines "@args name\nHost <name>\nPort 1" =
      ["@args name", "Host <name>", "Port 1"] := by
    cbv
  unfold readWithin
  rw [hlines,
    readLines_of_obey (by cbv) (by cbv : _ = Except.ok (.args ["name"])) (by simp) rfl,
    readLines_of_obey (by cbv) (by cbv : _ = Except.ok (.host "<name>")) (by simp) rfl,
    readLines_of_obey (by cbv) (by cbv : _ = Except.ok (.literal ⟨"Port", ["1"]⟩)) (by simp) rfl]
  rfl

theorem read_harbour :
    read harbour "top" harbourText = ⟨[.path "/more"], .ok harbourDocument⟩ := by
  have hlines : Text.lines harbourText =
      ["Zone b", "Area a", "@set where far", "@include /more <where>", "@with n 1 2",
        "Host near<n>"] := by
    cbv
  have hopen : openInclude harbour.outside ["top"] harbourStart 4 "/more" ["<where>"] =
      ⟨[.path "/more"], .ok ⟨"/more", .start "/more" true .empty, ["far"],
        "@args name\nHost <name>\nPort 1"⟩⟩ := by
    have hresolve : harbourStart.resolve "/more" = "/more" := by cbv
    have hargs : ["<where>"].map harbourStart.resolve = ["far"] := by cbv
    have hs : harbour.outside.classify (harbourStart.resolve "/more") =
        .ok (.path "/more") := by
      rw [hresolve]
      cbv
    rw [openInclude_of_answer hs (by decide) rfl, hresolve, hargs]
    rfl
  have htop : topText harbour.outside "top" = "top" := by cbv
  unfold read readWithin
  rw [htop, hlines,
    readLines_of_obey (by cbv) (by cbv : _ = Except.ok (.literal ⟨"Zone", ["b"]⟩)) (by simp) rfl,
    readLines_of_obey (by cbv) (by cbv : _ = Except.ok (.literal ⟨"Area", ["a"]⟩)) (by simp) rfl,
    readLines_of_obey (by cbv) (by cbv : _ = Except.ok (.assign "where" "far")) (by simp)
      (by cbv : _ = Except.ok harbourStart),
    readLines_of_include (by cbv)
      (by cbv : _ = Except.ok (Directive.includes "/more" ["<where>"])) hopen
      (readWithin_harbour 0 _),
    readLines_of_obey (by cbv) (by cbv : _ = Except.ok (.withVariable ⟨"n", ["1", "2"]⟩)) (by simp)
      rfl,
    readLines_of_obey (by cbv) (by cbv : _ = Except.ok (.host "near<n>")) (by simp) rfl]
  rfl
end Document
end SshTemplate
