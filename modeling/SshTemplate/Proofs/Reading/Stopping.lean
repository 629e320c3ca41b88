import SshTemplate.Proofs.Reading.Cycles

/-!
# `Proofs.Reading.Stopping` — the first error ends the reading, and says where it is

A text is read from its first line to its last, so what stands behind the first line that is at
fault is never looked at. With the lines cut off behind it the text fails as it does in full, and
with the lines cut off before it, it is read. That is `readLines_append`: reading lines is reading
the first of them and then the others.

Whose error it is takes another induction, over documents inside documents. An error is made by one
line of one document, which puts its own locator in front of it, and no document around that one
touches it. `Stops` says it for the whole way down: the line at which each document stands, and at
the end of the way the line that is at fault.

How deep documents are nested is limited by `readWithin`, and its limit must not be taken for a
fault. What counts is `ReadTo`, the reading that no larger bound changes. A reading that breaks off
at its bound says so by an error in line zero, in which no line is at fault; and any other reading is
not changed by a larger bound (`readTo_of_whole`). Every nested document has been asked for, so a
bound larger than the number of sources asked for is never reached (`readTo_of_lt`), whatever the
fetcher would answer to others.
-/

set_option autoImplicit false

namespace SshTemplate

/-! ## The first lines of a text -/

namespace Text

/-- The text up to the end of its `k`-th line. -/
def firstLines (k : ℕ) (text : String) : String := "\n".intercalate ((lines text).take k)

theorem lines_ne_nil (text : String) : lines text ≠ [] := by
  intro h
  exact splitOn_ne_nil '\n' text.toList (List.map_eq_nil_iff.1 h)

theorem lines_firstLines {k : ℕ} (hk : k ≠ 0) (text : String) :
    lines (firstLines k text) = (lines text).take k := by
  refine lines_intercalate (List.take_sublist k _) fun h => ?_
  rcases List.take_eq_nil_iff.1 h with h | h
  · exact hk h
  · exact lines_ne_nil text h

end Text

namespace Document

variable {out : Outside} {readChild readChild' : ReadChild} {chain : Chain}
variable {supplied : Option (List String)} {start own : Contents} {document : Document}
variable {line k depth : ℕ} {raw text source : String} {lines args : List String}
variable {asked more : List Source} {error : Error} {s : Source}

/-! ## The lines before, and the lines behind -/

/-- **Reading lines is reading the first of them, and then the others.** -/
theorem readLines_append (before rest : List String) (line : ℕ) (document : Document) :
    readLines out readChild chain supplied line (before ++ rest) document =
      (readLines out readChild chain supplied line before document).bind
        (readLines out readChild chain supplied (line + before.length) rest) := by
  induction before generalizing line document with
  | nil => rfl
  | cons raw more ih =>
    rw [List.cons_append, List.length_cons, ← Nat.add_assoc, Nat.add_right_comm]
    by_cases hr : Line.isRemark raw = true
    · rw [readLines_of_remark hr, readLines_of_remark hr, ih]
    · rw [readLines_of_directive hr, readLines_of_directive hr, Logged.bind_assoc]
      exact congrArg _ (funext fun document => ih (line + 1) document)

/-- What fails, fails in the same way with more lines behind it. -/
theorem readLines_of_shorter {before : List String} (hlines : before <+: lines)
    (h : readLines out readChild chain supplied line before document = ⟨asked, .error error⟩) :
    readLines out readChild chain supplied line lines document = ⟨asked, .error error⟩ := by
  obtain ⟨rest, rfl⟩ := hlines
  rw [readLines_append, h]
  rfl

section First

variable {rest : List String} {first : List Source} {next : Document}

theorem readLines_of_read (hr : ¬ Line.isRemark raw = true)
    (h : readLine out readChild chain supplied line raw document = ⟨first, .ok next⟩) :
    readLines out readChild chain supplied line (raw :: rest) document =
      let more := readLines out readChild chain supplied (line + 1) rest next
      ⟨first ++ more.log, more.outcome⟩ := by
  rw [readLines_of_directive hr, h]
  rfl

theorem readLines_of_fault (hr : ¬ Line.isRemark raw = true)
    (h : readLine out readChild chain supplied line raw document = ⟨first, .error error⟩) :
    readLines out readChild chain supplied line (raw :: rest) document = ⟨first, .error error⟩ := by
  rw [readLines_of_directive hr, h]
  rfl

end First

/-- **Lines that fail, fail at one of them**: those before it are read. -/
theorem exists_first_fault
    (h : readLines out readChild chain supplied line lines document = ⟨asked, .error error⟩) :
    ∃ k raw before after more, lines[k]? = some raw ∧ Line.isRemark raw = false ∧
      readLines out readChild chain supplied line (lines.take k) document = ⟨before, .ok after⟩ ∧
      readLine out readChild chain supplied (line + k) raw after = ⟨more, .error error⟩ ∧
      readLines out readChild chain supplied line (lines.take (k + 1)) document =
        ⟨asked, .error error⟩ ∧ asked = before ++ more := by
  induction lines generalizing line document asked with
  | nil => cases h
  | cons raw rest ih =>
    by_cases hr : Line.isRemark raw = true
    · rw [readLines_of_remark hr] at h
      obtain ⟨k, other, before, after, more, hk, hother, hbefore, hline, hbehind, rfl⟩ := ih h
      refine ⟨k + 1, other, before, after, more, hk, hother, ?_, ?_, ?_, rfl⟩
      · rw [List.take_succ_cons, readLines_of_remark hr, hbefore]
      · rw [← hline, Nat.add_assoc, Nat.add_comm 1 k]
      · rw [List.take_succ_cons, readLines_of_remark hr, hbehind]
    · rcases hfirst : readLine out readChild chain supplied line raw document
        with ⟨first, issue | next⟩
      · rw [readLines_of_fault hr hfirst] at h
        cases h
        refine ⟨0, raw, [], document, asked, rfl, by simpa using hr, rfl, hfirst, ?_, rfl⟩
        rw [List.take_succ_cons, readLines_of_fault hr hfirst]
      · rcases hrest : readLines out readChild chain supplied (line + 1) rest next
          with ⟨others, outcome⟩
        rw [readLines_of_read hr hfirst, hrest] at h
        cases h
        obtain ⟨k, other, before, after, more, hk, hother, hbefore, hline, hbehind, rfl⟩ := ih hrest
        refine ⟨k + 1, other, first ++ before, after, more, hk, hother, ?_, ?_, ?_,
          (List.append_assoc ..).symm⟩
        · rw [List.take_succ_cons, readLines_of_read hr hfirst, hbefore]
        · rw [← hline, Nat.add_assoc, Nat.add_comm 1 k]
        · rw [List.take_succ_cons, readLines_of_read hr hfirst, hbehind]

/-! ## The fault of a line -/

/-- What is wrong with a line by itself, and what has been asked for by then: it cannot be read, it
    cannot stand where it stands, or what it includes is refused, being read, or not to be had. The
    error names the document by its locator, and the line by its number or by what it includes. -/
inductive LineFault (out : Outside) (chain : Chain) (supplied : Option (List String))
    (own : Contents) (line : ℕ) (raw : String) : List Source → Error → Prop where
  | unread {issue : Issue} (read : Directive.read raw = .error issue) :
      LineFault out chain supplied own line raw [] (.parse own.locator line issue)
  | misplaced {directive : Directive} {issue : Issue} (read : Directive.read raw = .ok directive)
      (disobeyed : own.obey supplied directive = .error issue) :
      LineFault out chain supplied own line raw [] (.parse own.locator line issue)
  | refused {source : String} {args : List String} {refusal : Refusal}
      (read : Directive.read raw = .ok (.includes source args))
      (classified : out.classify (own.resolve source) = .error refusal) :
      LineFault out chain supplied own line raw []
        (.security own.locator (own.resolve source) refusal)
  | cycle {source : String} {args : List String} {s : Source}
      (read : Directive.read raw = .ok (.includes source args))
      (classified : out.classify (own.resolve source) = .ok s)
      (beingRead : s.text ∈ chain) :
      LineFault out chain supplied own line raw []
        (.parse own.locator line (.includeCycle (chain ++ [s.text])))
  | turnedDown {source : String} {args : List String} {s : Source} {status : ℕ}
      (read : Directive.read raw = .ok (.includes source args))
      (classified : out.classify (own.resolve source) = .ok s) (fresh : s.text ∉ chain)
      (answer : out.fetch s = .error (.refused status)) :
      LineFault out chain supplied own line raw [s]
        (.security own.locator (own.resolve source) (.httpStatus status))
  | unanswered {source : String} {args : List String} {s : Source} {failure : FetchFailure}
      (read : Directive.read raw = .ok (.includes source args))
      (classified : out.classify (own.resolve source) = .ok s) (fresh : s.text ∉ chain)
      (answer : out.fetch s = .error failure) (notRefused : ∀ status, failure ≠ .refused status) :
      LineFault out chain supplied own line raw [s]
        (.fetch own.locator (own.resolve source) failure)

/-- The error of a line names its document, and the line's number or the include as it is
    resolved. -/
theorem LineFault.names (h : LineFault out chain supplied own line raw more error) :
    (∃ issue, error = .parse own.locator line issue) ∨
    ∃ source, (∃ refusal, error = .security own.locator (own.resolve source) refusal) ∨
      ∃ failure, error = .fetch own.locator (own.resolve source) failure := by
  cases h with
  | unread read => exact Or.inl ⟨_, rfl⟩
  | misplaced read disobeyed => exact Or.inl ⟨_, rfl⟩
  | cycle read classified beingRead => exact Or.inl ⟨_, rfl⟩
  | refused read classified => exact Or.inr ⟨_, Or.inl ⟨_, rfl⟩⟩
  | turnedDown read classified fresh answer => exact Or.inr ⟨_, Or.inl ⟨_, rfl⟩⟩
  | unanswered read classified fresh answer notRefused => exact Or.inr ⟨_, Or.inr ⟨_, rfl⟩⟩

theorem openInclude_log {opening : Opening}
    (h : (openInclude out chain own line source args).outcome = .ok opening) :
    ∃ s, openInclude out chain own line source args = ⟨[s], .ok opening⟩ := by
  obtain ⟨s, reply, hs, hfresh, hreply, rfl⟩ := exists_of_openInclude_eq_ok h
  exact ⟨s, openInclude_of_answer hs hfresh hreply⟩

theorem lineFault_of_openInclude (hread : Directive.read raw = .ok (.includes source args))
    (h : openInclude out chain own line source args = ⟨more, .error error⟩) :
    LineFault out chain supplied own line raw more error := by
  cases hs : out.classify (own.resolve source) with
  | error refusal =>
    rw [openInclude_of_refused hs] at h
    cases h
    exact .refused hread hs
  | ok s =>
    by_cases hmem : s.text ∈ chain
    · rw [openInclude_of_mem hs hmem] at h
      cases h
      exact .cycle hread hs hmem
    · unfold openInclude at h
      dsimp only at h
      rw [hs] at h
      dsimp only at h
      rw [if_neg hmem] at h
      cases hf : out.fetch s with
      | ok reply => rw [hf] at h; cases h
      | error failure =>
        rw [hf] at h
        cases failure with
        | refused status => cases h; exact .turnedDown hread hs hmem hf
        | file fault => cases h; exact .unanswered hread hs hmem hf (by simp)
        | request causes => cases h; exact .unanswered hread hs hmem hf (by simp)

/-- **A line that fails is at fault, or includes a document that fails**, with that document's
    error. -/
theorem exists_of_readLine_eq_error
    (h : readLine out readChild chain supplied line raw document = ⟨more, .error error⟩) :
    LineFault out chain supplied document.contents line raw more error ∨
    ∃ source args s opening others, Directive.read raw = .ok (.includes source args) ∧
      openInclude out chain document.contents line source args = ⟨[s], .ok opening⟩ ∧
      readChild (chain ++ [opening.name]) opening = ⟨others, .error error⟩ ∧
      more = s :: others := by
  cases hread : Directive.read raw with
  | error issue =>
    rw [readLine_of_error hread] at h
    cases h
    exact Or.inl (.unread hread)
  | ok directive =>
    rcases directive.includes_or_not with ⟨source, args, rfl⟩ | hne
    · rw [readLine_of_include hread] at h
      rcases hopen : openInclude out chain document.contents line source args
        with ⟨opened, issue | opening⟩
      · rw [hopen] at h
        cases h
        exact Or.inl (lineFault_of_openInclude hread hopen)
      · obtain ⟨s, hasked⟩ := openInclude_log (congrArg Logged.outcome hopen)
        cases hopen.symm.trans hasked
        rcases hchild : readChild (chain ++ [opening.name]) opening with ⟨others, issue | child⟩
        · rw [hopen] at h
          dsimp only [Logged.bind] at h
          rw [hchild] at h
          cases h
          exact Or.inr ⟨source, args, s, opening, others, rfl, hopen, hchild, rfl⟩
        · rw [hopen] at h
          dsimp only [Logged.bind] at h
          rw [hchild] at h
          cases h
    · rw [readLine_of_directive hread hne] at h
      cases hobey : document.contents.obey supplied directive with
      | error issue =>
        rw [hobey] at h
        cases h
        exact Or.inl (.misplaced hread hobey)
      | ok own => rw [hobey] at h; cases h

/-! ## A bound that is not felt -/

/-- What a text is read to when nothing bounds how deep includes nest: no larger bound changes
    it. -/
def ReadTo (out : Outside) (chain : Chain) (start : Contents) (supplied : Option (List String))
    (text : String) (reading : Reading Document) : Prop :=
  ∃ bound, ∀ depth, bound ≤ depth → readWithin out depth chain start supplied text = reading

/-- The same for a document that nothing includes. -/
def TopReadTo (out : Outside) (locator text : String) (reading : Reading Document) : Prop :=
  ReadTo out [topText out locator] (.start locator false .empty) none text reading

theorem ReadTo.unique {reading reading' : Reading Document}
    (h : ReadTo out chain start supplied text reading)
    (h' : ReadTo out chain start supplied text reading') : reading = reading' := by
  obtain ⟨bound, h⟩ := h
  obtain ⟨bound', h'⟩ := h'
  rw [← h _ (Nat.le_max_left bound bound'), ← h' _ (Nat.le_max_right bound bound')]

/-- How the documents that a text includes are read within a bound. -/
def readInside (out : Outside) (depth : ℕ) : ReadChild := fun chain opening =>
  readWithin out depth chain opening.start (some opening.supplied) opening.text

theorem readWithin_succ :
    readWithin out (depth + 1) chain start supplied text =
      readLines out (readInside out depth) chain supplied 1 (Text.lines text) ⟨start, []⟩ := by
  rw [readWithin]
  rfl

section Whole

variable {α β : Type} {x x' : Reading α} {f f' : α → Reading β}

theorem brokeOff_of_bind (h : brokeOff (x.bind f) = false) : brokeOff x = false := by
  cases houtcome : x.outcome with
  | error error =>
    rw [Logged.bind_of_error houtcome] at h
    unfold brokeOff
    rw [houtcome]
    rcases error with ⟨name, _ | n, issue⟩ | _ | _
    · cases h
    all_goals rfl
  | ok a =>
    unfold brokeOff
    rw [houtcome]

/-- Two compositions are the same if their parts are wherever they do not break off. -/
theorem bind_congr_of_whole (hx : brokeOff x = false → x' = x)
    (hf : ∀ a, brokeOff (f a) = false → f' a = f a) (h : brokeOff (x.bind f) = false) :
    x'.bind f' = x.bind f := by
  rw [hx (brokeOff_of_bind h)]
  cases houtcome : x.outcome with
  | error error => rw [Logged.bind_of_error houtcome, Logged.bind_of_error houtcome]
  | ok a =>
    rw [Logged.bind_of_ok houtcome] at h ⊢
    rw [Logged.bind_of_ok houtcome, hf a h]

end Whole

section Children

variable (hchild : ∀ chain opening, brokeOff (readChild chain opening) = false →
  readChild' chain opening = readChild chain opening)

include hchild

theorem readLine_of_whole
    (h : brokeOff (readLine out readChild chain supplied line raw document) = false) :
    readLine out readChild' chain supplied line raw document =
      readLine out readChild chain supplied line raw document := by
  cases hread : Directive.read raw with
  | error issue => rw [readLine_of_error hread, readLine_of_error hread]
  | ok directive =>
    rcases directive.includes_or_not with ⟨source, args, rfl⟩ | hne
    · rw [readLine_of_include hread] at h ⊢
      rw [readLine_of_include hread]
      exact bind_congr_of_whole (fun _ => rfl)
        (fun opening => bind_congr_of_whole (hchild _ opening) fun _ _ => rfl) h
    · rw [readLine_of_directive hread hne, readLine_of_directive hread hne]

theorem readLines_of_whole
    (h : brokeOff (readLines out readChild chain supplied line lines document) = false) :
    readLines out readChild' chain supplied line lines document =
      readLines out readChild chain supplied line lines document := by
  induction lines generalizing line document with
  | nil => rfl
  | cons raw rest ih =>
    by_cases hr : Line.isRemark raw = true
    · rw [readLines_of_remark hr] at h ⊢
      rw [readLines_of_remark hr, ih h]
    · rw [readLines_of_directive hr] at h ⊢
      rw [readLines_of_directive hr]
      exact bind_congr_of_whole (readLine_of_whole hchild) (fun _ => ih) h

end Children

/-- **A larger bound changes nothing where reading did not break off.** -/
theorem readWithin_of_whole {depth' : ℕ} (hle : depth ≤ depth')
    (h : brokeOff (readWithin out depth chain start supplied text) = false) :
    readWithin out depth' chain start supplied text =
      readWithin out depth chain start supplied text := by
  induction depth generalizing depth' chain start supplied text with
  | zero => cases h
  | succ depth ih =>
    obtain ⟨depth', rfl⟩ : ∃ n, depth' = n + 1 := ⟨depth' - 1, by omega⟩
    rw [readWithin_succ] at h ⊢
    rw [readWithin_succ]
    exact readLines_of_whole (fun chain opening => ih (Nat.le_of_succ_le_succ hle)) h

theorem readTo_of_whole (h : brokeOff (readWithin out depth chain start supplied text) = false) :
    ReadTo out chain start supplied text (readWithin out depth chain start supplied text) :=
  ⟨depth, fun _ hle => readWithin_of_whole hle h⟩

/-- **Reading breaks off only below as many documents as the bound allows**, and each of them has
    been asked for. No line fails with this error, since lines count from one. -/
theorem le_length_of_brokeOff
    (h : brokeOff (readWithin out depth chain start supplied text) = true) :
    depth ≤ (readWithin out depth chain start supplied text).log.length := by
  have herror : ∃ asked name issue,
      readWithin out depth chain start supplied text = ⟨asked, .error (.parse name 0 issue)⟩ := by
    unfold brokeOff at h
    rcases hreading : readWithin out depth chain start supplied text with ⟨asked, outcome⟩
    rw [hreading] at h
    dsimp only at h
    split at h
    · exact ⟨_, _, _, rfl⟩
    · cases h
  obtain ⟨asked, name, issue, hreading⟩ := herror
  rw [hreading]
  clear h
  induction depth generalizing chain start supplied text asked with
  | zero => exact Nat.zero_le _
  | succ depth ih =>
    rw [readWithin_succ] at hreading
    obtain ⟨k, raw, before, document, more, -, -, -, hline, -, rfl⟩ := exists_first_fault hreading
    rcases exists_of_readLine_eq_error hline with
      hfault | ⟨source, args, s, opening, others, -, -, hchild, rfl⟩
    · rcases hfault.names with ⟨issue, herror⟩ | ⟨source, ⟨refusal, herror⟩ | ⟨failure, herror⟩⟩
      · have hzero : 0 = 1 + k := (Error.parse.inj herror).2.1
        omega
      · cases herror
      · cases herror
    · have hless := ih others hchild
      simp only [List.length_append, List.length_cons] at hless ⊢
      omega

/-- **A bound that exceeds the number of sources asked for is not felt.** -/
theorem readTo_of_lt {reading : Reading Document}
    (h : readWithin out depth chain start supplied text = reading)
    (hlt : reading.log.length < depth) : ReadTo out chain start supplied text reading := by
  subst h
  refine readTo_of_whole ?_
  by_contra hbroke
  exact absurd (le_length_of_brokeOff (Bool.eq_true_of_not_eq_false hbroke)) (Nat.not_le.2 hlt)

/-- A bound can be taken that is not felt. -/
theorem ReadTo.exists_lt {reading : Reading Document}
    (h : ReadTo out chain start supplied text reading) :
    ∃ depth, reading.log.length < depth + 1 ∧
      readWithin out (depth + 1) chain start supplied text = reading := by
  obtain ⟨bound, h⟩ := h
  exact ⟨bound + reading.log.length, by omega, h _ (by omega)⟩

/-- **`read` answers what the text is read to.** Its bound may be smaller than the number of sources
    asked for, but there are no more names that could come into the chain. -/
theorem topReadTo_read (around : Surroundings) (locator text : String) :
    TopReadTo around.outside locator text (read around locator text) := by
  refine ⟨around.fetcher.limit + 1, fun depth hle => ?_⟩
  have henough : Enough around.outside [topText around.outside locator] depth :=
    (enough_limit around _).mono hle
  have hleads : Leads around.outside (firstState around.outside locator text) (.ended _ _) :=
    leads_readWithin henough
  obtain ⟨hlog, houtcome⟩ := ended_unique hleads (leads_read around locator text)
  exact (Logged.mk.injEq ..).mpr ⟨hlog, houtcome⟩

/-! ## Reading up to a depth -/

theorem ReadTo.whole {reading : Reading Document}
    (h : ReadTo out chain start supplied text reading) : brokeOff reading = false := by
  obtain ⟨depth, hlt, rfl⟩ := h.exists_lt
  by_contra hbroke
  exact absurd (le_length_of_brokeOff (Bool.eq_true_of_not_eq_false hbroke)) (Nat.not_le.2 hlt)

theorem readUpTo_eq_some_iff {locator : String} {reading : Reading Document} :
    readUpTo out depth locator text = some reading ↔
      readWithin out depth [topText out locator] (.start locator false .empty) none text = reading ∧
        brokeOff reading = false := by
  unfold readUpTo
  dsimp only
  split
  · next hbroke =>
    refine ⟨fun h => (by cases h), ?_⟩
    rintro ⟨rfl, hwhole⟩
    rw [hbroke] at hwhole
    cases hwhole
  · next hwhole =>
    rw [Option.some.injEq]
    constructor
    · rintro rfl
      exact ⟨rfl, Bool.eq_false_of_not_eq_true hwhole⟩
    · exact fun h => h.1

/-- **What is read up to some depth is what the text is read to**, and nothing else is. -/
theorem topReadTo_iff {locator : String} {reading : Reading Document} :
    TopReadTo out locator text reading ↔ ∃ depth, readUpTo out depth locator text = some reading := by
  constructor
  · intro h
    obtain ⟨depth, -, hread⟩ := ReadTo.exists_lt h
    exact ⟨depth + 1, readUpTo_eq_some_iff.2 ⟨hread, h.whole⟩⟩
  · rintro ⟨depth, h⟩
    obtain ⟨rfl, hwhole⟩ := readUpTo_eq_some_iff.1 h
    exact readTo_of_whole hwhole

/-- A depth that exceeds the number of answers is always enough. -/
theorem readUpTo_of_lt {around : Surroundings} (h : around.fetcher.limit < depth)
    (locator text : String) :
    readUpTo around.outside depth locator text = some (read around locator text) := by
  have hread := topReadTo_read around locator text
  have hwhole : brokeOff (read around locator text) = false := ReadTo.whole hread
  exact readUpTo_eq_some_iff.2 ⟨readWithin_of_whole h hwhole, hwhole⟩

/-! ## The first lines of a text that is read -/

theorem readWithin_firstLines :
    readWithin out (depth + 1) chain start supplied (Text.firstLines k text) =
      readLines out (readInside out depth) chain supplied 1 ((Text.lines text).take k)
        ⟨start, []⟩ := by
  rw [readWithin_succ]
  cases k with
  | zero =>
    -- Without lines a text is one empty line.
    have hempty : Text.lines (Text.firstLines 0 text) = [""] := rfl
    rw [hempty, readLines_of_remark (by decide)]
    rfl
  | succ k => rw [Text.lines_firstLines (Nat.succ_ne_zero k)]

/-- **What fails is not saved by what follows.** -/
theorem readWithin_of_firstLines
    (h : readWithin out depth chain start supplied (Text.firstLines k text) =
      ⟨asked, .error error⟩) :
    readWithin out depth chain start supplied text = ⟨asked, .error error⟩ := by
  cases depth with
  | zero => exact h
  | succ depth =>
    rw [readWithin_firstLines] at h
    rw [readWithin_succ]
    exact readLines_of_shorter (List.take_prefix k _) h

theorem firstLines_succeed {j : ℕ} {before : List Source} (hle : j ≤ k)
    (h : ReadTo out chain start supplied (Text.firstLines k text) ⟨before, .ok document⟩) :
    ∃ earlier document', ReadTo out chain start supplied (Text.firstLines j text)
      ⟨earlier, .ok document'⟩ := by
  obtain ⟨depth, hlt, h⟩ := h.exists_lt
  rw [readWithin_firstLines] at h
  rcases hj : readWithin out (depth + 1) chain start supplied (Text.firstLines j text)
    with ⟨earlier, error | document'⟩
  · rw [readWithin_firstLines] at hj
    rw [readLines_of_shorter (List.take_prefix_take_left hle) hj] at h
    cases h
  · refine ⟨earlier, document', readTo_of_lt hj ?_⟩
    rw [readWithin_firstLines] at hj
    rw [← Nat.add_sub_cancel' hle, List.take_add, readLines_append, hj] at h
    have hlog := congrArg (fun reading => reading.log.length) h
    dsimp only [Logged.bind] at hlog hlt ⊢
    rw [List.length_append] at hlog
    omega

/-! ## Where reading stops -/

/-- Reading comes to the `k`-th line, counted from zero, and not to a remark: the lines before it
    are read as the document, with `before` asked for. -/
structure ComesTo (out : Outside) (chain : Chain) (start : Contents)
    (supplied : Option (List String)) (text : String) (k : ℕ) (raw : String)
    (before : List Source) (document : Document) : Prop where
  line : (Text.lines text)[k]? = some raw
  counts : Line.isRemark raw = false
  read : ReadTo out chain start supplied (Text.firstLines k text) ⟨before, .ok document⟩
  located : document.contents.locator = start.locator

/-- Reading the text stops with the error, after `asked`: at a line of its own that is at fault, or
    inside a document that a line includes. -/
inductive Stops (out : Outside) : Chain → Contents → Option (List String) → String → List Source →
    Error → Prop where
  | here {chain : Chain} {start : Contents} {supplied : Option (List String)} {text : String}
      {k : ℕ} {raw : String} {before more : List Source} {document : Document} {error : Error}
      (place : ComesTo out chain start supplied text k raw before document)
      (fault : LineFault out chain supplied document.contents (k + 1) raw more error) :
      Stops out chain start supplied text (before ++ more) error
  | inside {chain : Chain} {start : Contents} {supplied : Option (List String)} {text : String}
      {k : ℕ} {raw source : String} {args : List String} {before more : List Source} {s : Source}
      {document : Document} {opening : Opening} {error : Error}
      (place : ComesTo out chain start supplied text k raw before document)
      (read : Directive.read raw = .ok (.includes source args))
      (opened : openInclude out chain document.contents (k + 1) source args = ⟨[s], .ok opening⟩)
      (child : ReadTo out (chain ++ [opening.name]) opening.start (some opening.supplied)
        opening.text ⟨more, .error error⟩)
      (below : Stops out (chain ++ [opening.name]) opening.start (some opening.supplied)
        opening.text more error) :
      Stops out chain start supplied text (before ++ s :: more) error

/-- The line at which a text fails, and what is left to say of that line. -/
theorem exists_place
    (h : readWithin out (depth + 1) chain start supplied text = ⟨asked, .error error⟩)
    (hlt : asked.length < depth + 1) :
    ∃ k raw before document more,
      ComesTo out chain start supplied text k raw before document ∧
      readLine out (readInside out depth) chain supplied (k + 1) raw document =
        ⟨more, .error error⟩ ∧ asked = before ++ more ∧
      ∀ j, k < j →
        ReadTo out chain start supplied (Text.firstLines j text) ⟨asked, .error error⟩ := by
  rw [readWithin_succ] at h
  obtain ⟨k, raw, before, document, more, hk, hr, hbefore, hline, hbehind, rfl⟩ :=
    exists_first_fault h
  rw [← readWithin_firstLines] at hbefore
  rw [List.length_append] at hlt
  refine ⟨k, raw, before, document, more, ⟨hk, hr, readTo_of_lt hbefore (by dsimp only; omega), ?_⟩,
    ?_, rfl, fun j hj => ?_⟩
  · exact (opening_of_mem_includes (congrArg Logged.outcome hbefore)).1
  · rw [Nat.add_comm k 1]
    exact hline
  · have hj := readLines_of_shorter (List.take_prefix_take_left hj) hbehind
    rw [← readWithin_firstLines] at hj
    exact readTo_of_lt hj (by rw [List.length_append]; omega)

/-- **Reading that fails stops somewhere.** The induction is on the bound: a document that fails
    inside has been asked for, so that the smaller bound is not felt by it either. -/
theorem stops_of_readWithin
    (h : readWithin out depth chain start supplied text = ⟨asked, .error error⟩)
    (hlt : asked.length < depth) : Stops out chain start supplied text asked error := by
  induction depth generalizing chain start supplied text asked with
  | zero => exact absurd hlt (Nat.not_lt_zero _)
  | succ depth ih =>
    obtain ⟨k, raw, before, document, more, hplace, hline, rfl, -⟩ := exists_place h hlt
    rcases exists_of_readLine_eq_error hline with
      hfault | ⟨source, args, s, opening, others, hread, hopen, hchild, rfl⟩
    · exact .here hplace hfault
    · have hless : others.length < depth := by
        rw [List.length_append, List.length_cons] at hlt
        omega
      exact .inside hplace hread hopen (readTo_of_lt hchild hless) (ih hchild hless)

/-- **The first error wins, and says where it is.** What the program answers is what the text is
    read to without a bound. If the first lines of a text fail, the text fails with the same error,
    after asking for the same sources. And a text that fails has a line at which it does: with fewer
    lines it is read, and with that line it fails as it does in full, whatever follows. Either the
    line itself is at fault, and the error names the document and the line's number among all lines,
    or what it includes as the resolved locator reads; or a document that it includes fails, and
    then the error is that document's own, made by a line somewhere inside it. -/
theorem first_error_wins (out : Outside) (locator text : String) :
    (∀ around text reading, around.outside = out →
      (TopReadTo out locator text reading ↔ read around locator text = reading)) ∧
    (∀ k asked error,
      TopReadTo out locator (Text.firstLines k text) ⟨asked, .error error⟩ →
        TopReadTo out locator text ⟨asked, .error error⟩) ∧
    ∀ asked error, TopReadTo out locator text ⟨asked, .error error⟩ →
      ∃ k raw before document,
        ComesTo out [topText out locator] (.start locator false .empty) none text k raw before
          document ∧
        (∀ j ≤ k, ∃ earlier document',
          TopReadTo out locator (Text.firstLines j text) ⟨earlier, .ok document'⟩) ∧
        (∀ j, k < j → TopReadTo out locator (Text.firstLines j text) ⟨asked, .error error⟩) ∧
        ((∃ more, asked = before ++ more ∧
          LineFault out [topText out locator] none document.contents (k + 1) raw more error) ∨
        ∃ source args s opening more, asked = before ++ s :: more ∧
          Directive.read raw = .ok (.includes source args) ∧
          openInclude out [topText out locator] document.contents (k + 1) source args =
            ⟨[s], .ok opening⟩ ∧
          ReadTo out [topText out locator, opening.name] opening.start
            (some opening.supplied) opening.text ⟨more, .error error⟩ ∧
          Stops out [topText out locator, opening.name] opening.start
            (some opening.supplied) opening.text more error) := by
  refine ⟨?_, ?_, ?_⟩
  · rintro around text reading rfl
    constructor
    · intro h
      exact (topReadTo_read around locator text).unique h
    · rintro rfl
      exact topReadTo_read around locator text
  · rintro k asked error ⟨bound, h⟩
    exact ⟨bound, fun depth hle => readWithin_of_firstLines (h depth hle)⟩
  · intro asked error h
    obtain ⟨depth, hlt, hread⟩ := h.exists_lt
    obtain ⟨k, raw, before, document, more, hplace, hline, rfl, hbehind⟩ := exists_place hread hlt
    refine ⟨k, raw, before, document, hplace, fun j hj => firstLines_succeed hj hplace.read,
      hbehind, ?_⟩
    rcases exists_of_readLine_eq_error hline with
      hfault | ⟨source, args, s, opening, others, hraw, hopen, hchild, rfl⟩
    · exact Or.inl ⟨more, rfl, hfault⟩
    · have hless : others.length < depth := by
        dsimp only at hlt
        rw [List.length_append, List.length_cons] at hlt
        omega
      exact Or.inr ⟨source, args, s, opening, others, rfl, hraw, hopen,
        readTo_of_lt hchild hless, stops_of_readWithin hchild hless⟩

/-- The cycle is found inside the included document, and it is that document that the error
    names. -/
theorem whirlpool_error_wins :
    let error := Error.parse "/loop" 1 (.includeCycle ["top", "/loop", "/loop"])
    read whirlpool "top" (Text.firstLines 1 "@include /loop\nHost b") =
        ⟨[.path "/loop"], .error error⟩ ∧
      read whirlpool "top" "@include /loop\nHost b" = ⟨[.path "/loop"], .error error⟩ ∧
      ∃ (opening : Opening) (more : List Source),
        ReadTo whirlpool.outside ["top", opening.name] opening.start (some opening.supplied)
          opening.text ⟨more, .error error⟩ := by
  intro error
  obtain ⟨hread, hshorter, hplace⟩ :=
    first_error_wins whirlpool.outside "top" "@include /loop\nHost b"
  have hfirst : Text.firstLines 1 "@include /loop\nHost b" = "@include /loop" := by cbv
  have htop : topText whirlpool.outside "top" = "top" := by cbv
  have hbefore : read whirlpool "top" (Text.firstLines 1 "@include /loop\nHost b") =
      ⟨[.path "/loop"], .error error⟩ := by
    rw [hfirst]
    exact read_whirlpool
  have hwhole := hshorter 1 _ _ ((hread whirlpool _ _ rfl).2 hbefore)
  refine ⟨hbefore, (hread whirlpool _ _ rfl).1 hwhole, ?_⟩
  rw [htop] at hplace
  obtain ⟨k, raw, before, document, hcomes, -, -, ⟨more, -, hfault⟩ | hinside⟩ := hplace _ _ hwhole
  · -- An error of the top document's own line would name the top document.
    rcases hfault.names with ⟨issue, herror⟩ | ⟨source, ⟨refusal, herror⟩ | ⟨failure, herror⟩⟩
    · have hlocator : "/loop" = document.contents.locator := (Error.parse.inj herror).1
      rw [hcomes.located] at hlocator
      exact absurd hlocator (by decide)
    · exact absurd herror (by simp [error])
    · exact absurd herror (by simp [error])
  · obtain ⟨source, args, s, opening, more, -, -, -, hchild, -⟩ := hinside
    exact ⟨opening, more, hchild⟩

end Document
end SshTemplate
