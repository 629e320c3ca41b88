import SshTemplate.Proofs.Reading.Stopping
import SshTemplate.Proofs.Writing.Lines

/-!
# `Proofs.Reading.Layout` — what of a text's layout is read

Nothing but its line numbers. Blanks at the ends of a line, a carriage return among them, are taken
off before anything else is looked at, and lines without a directive are left out. So two texts that
come of each other by such edits have the same lines that count, up to blanks at their ends
(`bareLines_eq`), and reading a text is going through these with their numbers
(`readLines_eq_foldlM`).

That makes two runs that are at the same document all along. They look at the same line, which may
have another number; they ask for the same source, and are answered with texts that again differ in
layout only. What can come out differently is an error of the text itself, which has the number in
it. It is the number of the same line, and how much the two numbers differ is a matter of the
remarks before (`Shifted`).

The induction is on the depth to which includes nest. At the bound both runs break off, with an error
that no line has (`SameEnd`), so the two agree up to any depth, whatever is answered. What a text is
read to does not break off, and the number of the line is all that is left to differ.
-/

set_option autoImplicit false

namespace SshTemplate

/-! ## Two runs -/

namespace Logged

variable {ω ε α β : Type} {R : ε → ε → Prop}

/-- Two runs that note the same and come to the same, or to errors that are related. -/
inductive Agree (R : ε → ε → Prop) : Logged ω ε α → Logged ω ε α → Prop where
  | ok (log : List ω) (a : α) : Agree R ⟨log, .ok a⟩ ⟨log, .ok a⟩
  | error (log : List ω) {e e' : ε} (related : R e e') : Agree R ⟨log, .error e⟩ ⟨log, .error e'⟩

/-- The same has been noted before. -/
theorem Agree.after {x x' : Logged ω ε α} (h : Agree R x x') (log : List ω) :
    Agree R ⟨log ++ x.log, x.outcome⟩ ⟨log ++ x'.log, x'.outcome⟩ := by
  cases h with
  | ok more a => exact .ok (log ++ more) a
  | error more related => exact .error (log ++ more) related

theorem Agree.bind {x x' : Logged ω ε α} {f f' : α → Logged ω ε β} (h : Agree R x x')
    (hf : ∀ a, x.outcome = .ok a → Agree R (f a) (f' a)) : Agree R (x.bind f) (x'.bind f') := by
  cases h with
  | ok log a => exact (hf a rfl).after log
  | error log related => exact .error log related

/-- **Runs that agree at every step agree**, where `P` is what the steps of the first run keep. -/
theorem Agree.foldlM {P : β → Prop} {f f' : β → α → Logged ω ε β} {l l' : List α}
    (h : List.Forall₂ (fun a a' => ∀ b, P b →
      Agree R (f b a) (f' b a') ∧ ∀ c, (f b a).outcome = .ok c → P c) l l')
    {b : β} (hb : P b) : Agree R (l.foldlM f b) (l'.foldlM f' b) := by
  induction h generalizing b with
  | nil => exact .ok [] b
  | cons hfirst _ ih =>
    obtain ⟨hagree, hkeeps⟩ := hfirst b hb
    rw [List.foldlM_cons, List.foldlM_cons]
    exact hagree.bind fun c hc => ih (hkeeps c hc)

end Logged

/-! ## Edits of the layout -/

namespace Text

variable {text text' : String} {raw raw' : String}

/-- The second line is the first with more blanks at its ends. -/
def Padded (raw raw' : String) : Prop :=
  ∃ front back : List Char, (∀ c ∈ front, isBlank c = true) ∧ (∀ c ∈ back, isBlank c = true) ∧
    raw'.toList = front ++ raw.toList ++ back

/-- An edit of the layout: blanks are put around lines, or lines without a directive are put between
    others. -/
inductive LayoutEdit (text text' : String) : Prop where
  | padded (each : List.Forall₂ Padded (lines text) (lines text'))
  | inserted {before remarks after : List String} (first : lines text = before ++ after)
      (second : lines text' = before ++ remarks ++ after)
      (remarked : ∀ raw ∈ remarks, Line.isRemark raw = true)

/-- One text comes of the other by edits of the layout and their reversals. -/
def SameLayout : String → String → Prop := Relation.EqvGen LayoutEdit

/-- The text with a carriage return before every line break. -/
def withReturns (text : String) : String :=
  String.ofList (text.toList.flatMap fun c => if c = '\n' then ['\r', '\n'] else [c])

theorem Padded.trim_eq (h : Padded raw raw') : trim raw'.toList = trim raw.toList := by
  obtain ⟨front, back, hfront, hback, hraw⟩ := h
  rw [hraw, trim_append_blanks hback, trim_blanks_append hfront]

theorem splitOn_withReturns (s : List Char) :
    List.Forall₂ (fun piece piece' => piece' = piece ∨ piece' = piece ++ ['\r']) (splitOn '\n' s)
      (splitOn '\n' (s.flatMap fun c => if c = '\n' then ['\r', '\n'] else [c])) := by
  induction s with
  | nil => exact .cons (Or.inl rfl) .nil
  | cons c rest ih =>
    rw [List.flatMap_cons]
    by_cases hc : c = '\n'
    · subst hc
      exact .cons (Or.inr rfl) ih
    · rw [if_neg hc, List.singleton_append, splitOn, splitOn, if_neg hc, if_neg hc]
      generalize splitOn '\n' rest = pieces, splitOn '\n' (rest.flatMap _) = pieces' at ih
      cases ih with
      | nil => exact .cons (Or.inl rfl) .nil
      | cons hpiece hpieces =>
        refine .cons ?_ hpieces
        rcases hpiece with rfl | rfl
        · exact Or.inl rfl
        · exact Or.inr rfl

/-- Line breaks with a carriage return before them are blanks at the ends of lines. -/
theorem sameLayout_withReturns (text : String) : SameLayout text (withReturns text) := by
  refine .rel _ _ (.padded ?_)
  unfold lines withReturns
  rw [String.toList_ofList, List.forall₂_map_left_iff, List.forall₂_map_right_iff]
  refine (splitOn_withReturns text.toList).imp fun piece piece' h => ?_
  rcases h with rfl | rfl
  · exact ⟨[], [], by simp, by simp, by simp⟩
  · exact ⟨[], ['\r'], by simp, List.forall_mem_singleton.2 (by decide), by simp⟩

/-! ## The lines that count -/

/-- The lines of a text that count, with their numbers. -/
def counted (text : String) : List (String × ℕ) :=
  ((lines text).zipIdx 1).filter fun line => !Line.isRemark line.1

/-- The same without their numbers and without blanks at their ends. -/
def bareLines (text : String) : List (List Char) :=
  (counted text).map fun line => trim line.1.toList

theorem bareLines_eq_map (text : String) :
    bareLines text =
      ((lines text).filter fun raw => !Line.isRemark raw).map fun raw => trim raw.toList := by
  unfold bareLines counted
  conv_rhs => rw [← List.zipIdx_map_fst 1 (lines text), List.filter_map, List.map_map]
  rfl

theorem isRemark_congr (h : trim raw'.toList = trim raw.toList) :
    Line.isRemark raw' = Line.isRemark raw := by
  unfold Line.isRemark
  rw [h]

theorem LayoutEdit.bareLines_eq (h : LayoutEdit text text') : bareLines text' = bareLines text := by
  rw [bareLines_eq_map, bareLines_eq_map]
  cases h with
  | padded each =>
    generalize lines text = l, lines text' = l' at each
    induction each with
    | nil => rfl
    | cons hraw _ ih =>
      rw [List.filter_cons, List.filter_cons, isRemark_congr hraw.trim_eq]
      split
      · rw [List.map_cons, List.map_cons, hraw.trim_eq, ih]
      · exact ih
  | @inserted before remarks after first second remarked =>
    have hnone : remarks.filter (fun raw => !Line.isRemark raw) = [] :=
      List.filter_eq_nil_iff.2 fun raw hraw => by simp [remarked raw hraw]
    rw [first, second, List.filter_append, List.filter_append, List.filter_append, hnone,
      List.append_nil]

/-- **Edits of the layout leave the lines that count**, up to blanks at their ends. -/
theorem SameLayout.bareLines_eq (h : SameLayout text text') : bareLines text' = bareLines text := by
  induction h with
  | rel _ _ edit => exact edit.bareLines_eq
  | refl _ => rfl
  | symm _ _ _ ih => exact ih.symm
  | trans _ _ _ _ _ first second => exact second.trans first

/-- Line `n` of the one text is line `n'` of the other. Both count, and they read the same; and the
    one number exceeds the other by as many lines as there are more remarks before it. -/
inductive Shifted (text text' : String) : ℕ → ℕ → Prop where
  | intro {k k' : ℕ} {raw raw' : String} (line : (lines text)[k]? = some raw)
      (line' : (lines text')[k']? = some raw') (counts : Line.isRemark raw = false)
      (counts' : Line.isRemark raw' = false) (same : trim raw'.toList = trim raw.toList)
      (shift : k' + ((lines text).take k).countP Line.isRemark =
        k + ((lines text').take k').countP Line.isRemark) :
      Shifted text text' (k + 1) (k' + 1)

/-- Before a line are the remarks before it, and as many of those that count as its place says. -/
theorem exists_of_getElem?_counted {l : List String} {start i : ℕ} {line : String × ℕ}
    (h : ((l.zipIdx start).filter fun line => !Line.isRemark line.1)[i]? = some line) :
    ∃ k, line.2 = start + k ∧ l[k]? = some line.1 ∧ Line.isRemark line.1 = false ∧
      (l.take k).countP Line.isRemark + i = k := by
  induction l generalizing start i with
  | nil => simp at h
  | cons first rest ih =>
    rw [List.zipIdx_cons, List.filter_cons] at h
    by_cases hfirst : Line.isRemark first = true
    · rw [if_neg (by simp [hfirst])] at h
      obtain ⟨k, hn, hk, hraw, hcount⟩ := ih h
      refine ⟨k + 1, by omega, hk, hraw, ?_⟩
      rw [List.take_succ_cons, List.countP_cons_of_pos hfirst]
      omega
    · rw [if_pos (by simp [hfirst])] at h
      cases i with
      | zero =>
        obtain rfl := Option.some.inj h
        exact ⟨0, rfl, rfl, by simpa using hfirst, rfl⟩
      | succ i =>
        obtain ⟨k, hn, hk, hraw, hcount⟩ := ih h
        refine ⟨k + 1, by omega, hk, hraw, ?_⟩
        rw [List.take_succ_cons, List.countP_cons_of_neg hfirst]
        omega

/-- **The lines that count correspond**, each to one that reads the same and is shifted by the
    remarks before it. -/
theorem SameLayout.forall₂_counted (h : SameLayout text text') :
    List.Forall₂ (fun line line' => trim line'.1.toList = trim line.1.toList ∧
      Shifted text text' line.2 line'.2) (counted text) (counted text') := by
  have hbare := h.bareLines_eq
  unfold bareLines at hbare
  have hlength : (counted text).length = (counted text').length := by
    simpa using (congrArg List.length hbare).symm
  refine List.forall₂_iff_get.2 ⟨hlength, fun i hi hi' => ?_⟩
  have hline := List.getElem?_eq_getElem hi
  have hline' := List.getElem?_eq_getElem hi'
  have hsame : trim ((counted text').get ⟨i, hi'⟩).1.toList =
      trim ((counted text).get ⟨i, hi⟩).1.toList := by
    have hplace : ((counted text').map fun line => trim line.1.toList)[i]? =
        ((counted text).map fun line => trim line.1.toList)[i]? := by
      rw [hbare]
    rw [List.getElem?_map, List.getElem?_map, hline, hline'] at hplace
    exact Option.some.inj hplace
  obtain ⟨k, hn, hk, hraw, hcount⟩ := exists_of_getElem?_counted hline
  obtain ⟨k', hn', hk', hraw', hcount'⟩ := exists_of_getElem?_counted hline'
  refine ⟨hsame, ?_⟩
  show Shifted text text' (counted text)[i].2 (counted text')[i].2
  rw [hn, hn', Nat.add_comm 1 k, Nat.add_comm 1 k']
  exact .intro hk hk' hraw hraw' hsame (by omega)

/-- Of the lines before a later one, one more counts. -/
theorem countP_take_lt {l : List String} {k k' : ℕ} (hlt : k < k') (hk : l[k]? = some raw)
    (hraw : Line.isRemark raw = false) :
    (l.take k').countP Line.isRemark + k < k' + (l.take k).countP Line.isRemark := by
  obtain ⟨more, rfl⟩ := Nat.exists_eq_add_of_lt hlt
  obtain ⟨hlength, rfl⟩ := List.getElem?_eq_some_iff.1 hk
  have hle := List.countP_le_length (p := Line.isRemark) (l := (l.drop (k + 1)).take more)
  rw [Nat.add_assoc, List.take_add, List.drop_eq_getElem_cons hlength, List.take_succ_cons,
    List.countP_append, List.countP_cons_of_neg (by simp [hraw])]
  have hmore := List.length_take_le more (l.drop (k + 1))
  omega

/-- A line is one line of the other text. -/
theorem Shifted.unique {n m m' : ℕ} (h : Shifted text text' n m) (h' : Shifted text text' n m') :
    m = m' := by
  cases h with
  | @intro k j _ _ _ line _ counts _ shift =>
    cases h' with
    | @intro _ j' _ _ _ line' _ counts' _ shift' =>
      rcases Nat.lt_trichotomy j j' with hlt | rfl | hlt
      · have hless := countP_take_lt hlt line counts
        omega
      · rfl
      · have hless := countP_take_lt hlt line' counts'
        omega

/-- Where nothing has been edited, a line is itself. -/
theorem Shifted.eq {n n' : ℕ} (h : Shifted text text n n') : n' = n := by
  cases h with
  | intro line line' counts counts' same shift =>
    exact (Shifted.intro line line' counts counts' same shift).unique
      (.intro line line counts counts rfl rfl)

end Text

theorem Directive.read_congr {raw raw' : String}
    (h : Text.trim raw'.toList = Text.trim raw.toList) :
    Directive.read raw' = Directive.read raw := by
  unfold Directive.read Line.read
  rw [h]

/-! ## Reading -/

namespace Document

open Text (SameLayout Shifted isBlank)
open Logged (Agree)

variable {out out' : Outside} {readChild readChild' : ReadChild} {chain : Chain}
variable {supplied : Option (List String)} {document after : Document} {n n' depth : ℕ}
variable {raw raw' locator text text' : String}

/-- For every source there is the same failure, or there are texts of the same layout; and URLs and
    `~` mean the same. -/
structure Outside.AnswersAlike (out out' : Outside) : Prop where
  readUrl : out'.readUrl = out.readUrl
  home : out'.home = out.home
  failure : ∀ s failure, out.fetch s = .error failure → out'.fetch s = .error failure
  answer : ∀ s reply, out.fetch s = .ok reply →
    ∃ reply', out'.fetch s = .ok reply' ∧ SameLayout reply reply'

theorem Outside.AnswersAlike.refl (out : Outside) : out.AnswersAlike out :=
  ⟨rfl, rfl, fun _ _ h => h, fun _ reply h => ⟨reply, h, .refl reply⟩⟩

theorem Outside.AnswersAlike.classify (hout : out.AnswersAlike out') (locator : String) :
    out'.classify locator = out.classify locator := by
  unfold Outside.classify
  rw [hout.readUrl, hout.home]

/-- What the document of the name is read from, in the one run and in the other: the top document
    from the texts, an included one from what its source is answered with. No document includes the
    top one, so there are no two ways to be read. -/
inductive HasTexts (out out' : Outside) (locator text text' : String) :
    String → String → String → Prop where
  | top : HasTexts out out' locator text text' locator text text'
  | included {name reply reply' : String} {s : Source}
      (classified : out.classify name = .ok s)
      (notTop : s.text ≠ topText out locator) (answer : out.fetch s = .ok reply)
      (answer' : out'.fetch s = .ok reply') :
      HasTexts out out' locator text text' name reply reply'

/-- The errors of the two runs are the same, but for the number of the line in an error of a text
    itself. This is the number of the same line in each of the texts that the document is read
    from. -/
inductive SameError (out out' : Outside) (locator text text' : String) : Error → Error → Prop where
  | other {error : Error} (notParse : ∀ name n issue, error ≠ .parse name n issue) :
      SameError out out' locator text text' error error
  | shifted {name reply reply' : String} {n n' : ℕ} {issue : Issue}
      (texts : HasTexts out out' locator text text' name reply reply')
      (line : Shifted reply reply' n n') :
      SameError out out' locator text text' (.parse name n issue) (.parse name n' issue)

/-- The same where the two runs may have reached the bound, where they break off together. -/
def SameEnd (out out' : Outside) (locator text text' : String) (error error' : Error) : Prop :=
  SameError out out' locator text text' error error' ∨
    ∃ name issue, error = .parse name 0 issue ∧ error' = error

/-- Where one of two readings does not break off, their errors are no ends at a bound. -/
theorem agree_of_sameEnd {reading reading' : Reading Document}
    (h : Agree (SameEnd out out' locator text text') reading reading') :
    brokeOff reading' = brokeOff reading ∧ (brokeOff reading = false →
      Agree (SameError out out' locator text text') reading reading') := by
  cases h with
  | ok log document => exact ⟨rfl, fun _ => .ok log document⟩
  | error log related =>
    rcases related with hsame | ⟨name, issue, rfl, rfl⟩
    · refine ⟨?_, fun _ => .error log hsame⟩
      cases hsame with
      | other notParse => rfl
      | shifted texts line =>
        cases line
        rfl
    · exact ⟨rfl, fun hwhole => by cases hwhole⟩

/-- Reading lines is going through those that count. -/
theorem readLines_eq_foldlM (lines : List String) (start : ℕ) (document : Document) :
    readLines out readChild chain supplied start lines document =
      ((lines.zipIdx start).filter fun line => !Line.isRemark line.1).foldlM
        (fun document line => readLine out readChild chain supplied line.2 line.1 document)
        document := by
  induction lines generalizing start document with
  | nil => rfl
  | cons raw rest ih =>
    rw [List.zipIdx_cons, List.filter_cons]
    by_cases hr : Line.isRemark raw = true
    · rw [readLines_of_remark hr, if_neg (by simp [hr]), ih]
    · rw [readLines_of_directive hr, if_pos (by simp [hr]), List.foldlM_cons]
      exact congrArg _ (funext (ih (start + 1)))

theorem locator_of_readLine
    (h : (readLine out readChild chain supplied n raw document).outcome = .ok after) :
    after.contents.locator = document.contents.locator := by
  rcases exists_of_readLine_eq_ok h with
    ⟨source, args, opening, child, -, -, -, rfl⟩ | ⟨directive, own, -, -, hobey, rfl⟩
  · rfl
  · exact (Contents.locator_of_obey hobey).1

section Line

-- What an error may become, and that two runs which include a document agree on it.
variable {R : Error → Error → Prop} (hout : out.AnswersAlike out')
variable (hother : ∀ error, (∀ name n issue, error ≠ Error.parse name n issue) → R error error)
variable (hshifted : ∀ issue, R (.parse document.contents.locator n issue)
  (.parse document.contents.locator n' issue))
variable (hchild : ∀ s name args reply reply', out.classify name = .ok s →
  s.text ∉ chain → out.fetch s = .ok reply → out'.fetch s = .ok reply' → SameLayout reply reply' →
    Agree R
      (readChild (chain ++ [s.text])
        ⟨s.text, .start name true document.contents.keys, args, reply⟩)
      (readChild' (chain ++ [s.text])
        ⟨s.text, .start name true document.contents.keys, args, reply'⟩))

include hout hother hshifted hchild

theorem agree_include (source : String) (args : List String) :
    Agree R
      ((openInclude out chain document.contents n source args).bind fun opening =>
        (readChild (chain ++ [opening.name]) opening).bind fun child =>
          .pure (document.addInclude child))
      ((openInclude out' chain document.contents n' source args).bind fun opening =>
        (readChild' (chain ++ [opening.name]) opening).bind fun child =>
          .pure (document.addInclude child)) := by
  have hclassify := hout.classify (document.contents.resolve source)
  cases hs : out.classify (document.contents.resolve source) with
  | error refusal =>
    rw [openInclude_of_refused hs, openInclude_of_refused (hclassify.trans hs)]
    exact .error [] (hother _ fun _ _ _ h => by cases h)
  | ok s =>
    have hs' := hclassify.trans hs
    by_cases hmem : s.text ∈ chain
    · rw [openInclude_of_mem hs hmem, openInclude_of_mem hs' hmem]
      exact .error [] (hshifted _)
    · cases hf : out.fetch s with
      | error failure =>
        have hsame : openInclude out' chain document.contents n' source args =
            openInclude out chain document.contents n source args := by
          unfold openInclude
          dsimp only
          rw [hs, hs']
          dsimp only
          rw [if_neg hmem, if_neg hmem, hf, hout.failure s failure hf]
        obtain ⟨error, hopen, hnot⟩ := openInclude_of_failure hs hmem hf
        rw [hsame, hopen]
        exact .error [s] (hother error hnot)
      | ok reply =>
        obtain ⟨reply', hf', hlayout⟩ := hout.answer s reply hf
        rw [openInclude_of_answer hs hmem hf, openInclude_of_answer hs' hmem hf']
        have hread := hchild s (document.contents.resolve source)
          (args.map document.contents.resolve) reply reply' hs hmem hf hf' hlayout
        exact (hread.bind fun child _ => .ok [] (document.addInclude child)).after [s]

/-- **At one line the two runs agree**, if they do in the documents that it includes. -/
theorem agree_readLine (hraw : Text.trim raw'.toList = Text.trim raw.toList) :
    Agree R (readLine out readChild chain supplied n raw document)
      (readLine out' readChild' chain supplied n' raw' document) := by
  have hsame := Directive.read_congr hraw
  cases hread : Directive.read raw with
  | error issue =>
    rw [readLine_of_error hread, readLine_of_error (hsame.trans hread)]
    exact .error [] (hshifted issue)
  | ok directive =>
    rcases directive.includes_or_not with ⟨source, args, rfl⟩ | hne
    · rw [readLine_of_include hread, readLine_of_include (hsame.trans hread)]
      exact agree_include hout hother hshifted hchild source args
    · rw [readLine_of_directive hread hne, readLine_of_directive (hsame.trans hread) hne]
      cases document.contents.obey supplied directive with
      | error issue => exact .error [] (hshifted issue)
      | ok own => exact .ok [] _

end Line

/-- **Two runs that are answered alike read alike**, up to any depth. -/
theorem agree_readWithin (hout : out.AnswersAlike out') {start : Contents} {reply reply' : String}
    (htop : topText out locator ∈ chain)
    (htexts : HasTexts out out' locator text text' start.locator reply reply')
    (hsame : SameLayout reply reply') :
    Agree (SameEnd out out' locator text text')
      (readWithin out depth chain start supplied reply)
      (readWithin out' depth chain start supplied reply') := by
  induction depth generalizing chain start supplied reply reply' with
  | zero => exact .error [] (Or.inr ⟨_, _, rfl, rfl⟩)
  | succ depth ih =>
    rw [readWithin_succ, readWithin_succ, readLines_eq_foldlM, readLines_eq_foldlM]
    refine Agree.foldlM (P := fun document => document.contents.locator = start.locator) ?_ rfl
    refine hsame.forall₂_counted.imp fun line line' hline document hlocator =>
      ⟨?_, fun next hnext => ?_⟩
    · refine agree_readLine hout (fun _ hnot => Or.inl (.other hnot)) (fun issue => ?_) ?_ hline.1
      · rw [hlocator]
        exact Or.inl (.shifted htexts hline.2)
      · intro s name args answer answer' hs hmem hf hf' hlayout
        have hnot : s.text ≠ topText out locator := fun heq => hmem (heq ▸ htop)
        exact ih (List.mem_append_left _ htop) (.included hs hnot hf hf') hlayout
    · exact (locator_of_readLine hnext).trans hlocator

/-- Up to a depth both texts are read alike, or neither is read. -/
theorem agree_readUpTo (hout : out.AnswersAlike out') (hsame : SameLayout text text')
    (depth : ℕ) (locator : String) :
    Option.Rel (Agree (SameError out out' locator text text'))
      (readUpTo out depth locator text) (readUpTo out' depth locator text') := by
  have htop : topText out' locator = topText out locator := by
    unfold topText
    rw [hout.classify]
  have hagree : Agree (SameEnd out out' locator text text')
      (readWithin out depth [topText out locator] (.start locator false .empty) none text)
      (readWithin out' depth [topText out locator] (.start locator false .empty) none text') :=
    agree_readWithin hout (by simp) .top hsame
  obtain ⟨hbroke, hwhole⟩ := agree_of_sameEnd hagree
  unfold readUpTo
  dsimp only
  rw [htop, hbroke]
  split
  · exact .none
  · next hnot => exact .some (hwhole (Bool.eq_false_of_not_eq_true hnot))

/-- **Layout does not matter.** Take two texts that come of each other by edits of the layout:
    blanks put or taken away at the ends of lines, carriage returns before line breaks among them,
    and lines put or taken away that are blank or comments. Read them where sources are answered in
    the same way, or with the same failures and with texts of which the same is true. If one of them
    is read to something, so is the other. Then the same sources are asked for, in the same order,
    and both texts are read as the same document or neither is read; and the errors are the same,
    but for the number of the line in an error of a text itself. That line reads the same in the
    other text, it is the only one it can be, and its number is larger or smaller by as many as there
    are more or fewer lines without a directive before it in that document. So it is the same number
    where this document has not been edited. -/
theorem layout_is_irrelevant (hout : out.AnswersAlike out') (hsame : SameLayout text text')
    (locator : String) :
    (∀ reading, TopReadTo out locator text reading → ∃ reading',
      TopReadTo out' locator text' reading' ∧
        Agree (SameError out out' locator text text') reading reading') ∧
    (∀ reading', TopReadTo out' locator text' reading' → ∃ reading,
      TopReadTo out locator text reading ∧
        Agree (SameError out out' locator text text') reading reading') ∧
    (∀ around around', around.outside = out → around'.outside = out' →
      Agree (SameError out out' locator text text') (read around locator text)
        (read around' locator text')) ∧
    (∀ text, SameLayout text (Text.withReturns text)) ∧ (∀ out : Outside, out.AnswersAlike out) ∧
    (∀ text text' n m m', Shifted text text' n m → Shifted text text' n m' → m = m') ∧
    ∀ text n n', Shifted text text n n' → n' = n := by
  have hforth : ∀ reading, TopReadTo out locator text reading → ∃ reading',
      TopReadTo out' locator text' reading' ∧
        Agree (SameError out out' locator text text') reading reading' := by
    intro reading hread
    obtain ⟨depth, hdepth⟩ := topReadTo_iff.1 hread
    have hrel := agree_readUpTo hout hsame depth locator
    rw [hdepth] at hrel
    generalize hother : readUpTo out' depth locator text' = other at hrel
    cases hrel with
    | some hagree => exact ⟨_, topReadTo_iff.2 ⟨depth, hother⟩, hagree⟩
  refine ⟨hforth, fun reading' hread => ?_, ?_, Text.sameLayout_withReturns,
    Outside.AnswersAlike.refl, fun _ _ _ _ _ => Shifted.unique, fun _ _ _ => Shifted.eq⟩
  · obtain ⟨depth, hdepth⟩ := topReadTo_iff.1 hread
    have hrel := agree_readUpTo hout hsame depth locator
    rw [hdepth] at hrel
    generalize hother : readUpTo out depth locator text = other at hrel
    cases hrel with
    | some hagree => exact ⟨_, topReadTo_iff.2 ⟨depth, hother⟩, hagree⟩
  · rintro around around' rfl rfl
    obtain ⟨reading', hread', hagree⟩ := hforth _ (topReadTo_read around locator text)
    rwa [hread'.unique (topReadTo_read around' locator text')] at hagree

/-- Where the document `/more` can be included. -/
def estuary (reply : String) : Surroundings :=
  { readUrl := Address.reader
    home := some "/home"
    fetcher := .ofDictionary ⟨[("/more", .ok reply)], by simp⟩ }

theorem fetch_estuary (reply : String) (s : Source) :
    (estuary reply).outside.fetch s =
      if "/more" = s.text then .ok reply else (Fetcher.ofDictionary .empty).fetch s := by
  unfold estuary Surroundings.outside Fetcher.ofDictionary Dictionary.get?
  dsimp only
  by_cases hs : "/more" = s.text
  · rw [if_pos hs, List.find?_cons_of_pos (by simpa using hs)]
    rfl
  · rw [if_neg hs, List.find?_cons_of_neg (by simpa using hs)]
    rfl

theorem answersAlike_estuary {reply reply' : String} (h : SameLayout reply reply') :
    (estuary reply).outside.AnswersAlike (estuary reply').outside where
  readUrl := rfl
  home := rfl
  failure s failure hfailure := by
    rw [fetch_estuary] at hfailure ⊢
    split at hfailure
    · cases hfailure
    · next hs => rw [if_neg hs, hfailure]
  answer s answer hanswer := by
    rw [fetch_estuary] at hanswer
    rw [fetch_estuary]
    split at hanswer
    · next hs =>
      obtain rfl := Except.ok.inj hanswer
      exact ⟨reply', by rw [if_pos hs], h⟩
    · next hs => exact ⟨answer, by rw [if_neg hs, hanswer], .refl _⟩

theorem read_estuary :
    read (estuary "@bogus") "top" "@include /more" =
      ⟨[.path "/more"], .error (.parse "/more" 1 (.unknownDirective "@bogus"))⟩ := by
  have hlines : Text.lines "@include /more" = ["@include /more"] := by cbv
  have hreply : Text.lines "@bogus" = ["@bogus"] := by cbv
  have htop : topText (estuary "@bogus").outside "top" = "top" := by cbv
  have hresolve : (Contents.start "top" false .empty).resolve "/more" = "/more" := by cbv
  have hs : (estuary "@bogus").outside.classify
      ((Contents.start "top" false .empty).resolve "/more") = .ok (.path "/more") := by
    rw [hresolve]
    cbv
  have hopen : openInclude (estuary "@bogus").outside ["top"] (.start "top" false .empty) 1 "/more"
      [] = ⟨[.path "/more"], .ok ⟨"/more", .start "/more" true .empty, [], "@bogus"⟩⟩ := by
    rw [openInclude_of_answer hs (by decide) rfl, hresolve]
    rfl
  have hchild : readWithin (estuary "@bogus").outside 1 ["top", "/more"]
      (.start "/more" true .empty) (some []) "@bogus" =
        ⟨[], .error (.parse "/more" 1 (.unknownDirective "@bogus"))⟩ := by
    unfold readWithin
    rw [hreply]
    exact readLines_of_unread (by cbv) (by cbv)
  unfold read readWithin
  rw [htop, hlines]
  exact readLines_of_childError (by cbv) (by cbv : _ = Except.ok (Directive.includes "/more" []))
    hopen hchild

/-- A comment is put before the line at fault, a carriage return at its end and blanks around the
    line: the error is the same, now in line 2. -/
theorem layout_of_estuary_is_irrelevant :
    let edited := "# a comment\r\n  @bogus "
    SameLayout "@bogus" edited ∧ SameLayout "@include /more" "\n@include /more" ∧
      (estuary "@bogus").outside.AnswersAlike (estuary edited).outside ∧
      read (estuary "@bogus") "top" "@include /more" =
        ⟨[.path "/more"], .error (.parse "/more" 1 (.unknownDirective "@bogus"))⟩ ∧
      read (estuary edited) "top" "\n@include /more" =
        ⟨[.path "/more"], .error (.parse "/more" 2 (.unknownDirective "@bogus"))⟩ := by
  intro edited
  have hreply : Text.lines "@bogus" = ["@bogus"] := by cbv
  have hblanks : Text.lines "  @bogus " = ["  @bogus "] := by cbv
  have hlines : Text.lines edited = ["# a comment\r", "  @bogus "] := by cbv
  have hpadded : Text.LayoutEdit "@bogus" "  @bogus " := by
    refine .padded ?_
    rw [hreply, hblanks]
    exact .cons ⟨[' ', ' '], [' '], by simp [isBlank], by simp [isBlank], by rfl⟩ .nil
  have hinserted : Text.LayoutEdit "  @bogus " edited :=
    .inserted (by rw [hblanks]; exact (List.nil_append _).symm) hlines
      (List.forall_mem_singleton.2 (by cbv))
  have hedited : SameLayout "@bogus" edited := .trans _ _ _ (.rel _ _ hpadded) (.rel _ _ hinserted)
  have htop : SameLayout "@include /more" "\n@include /more" := by
    have hbefore : Text.lines "@include /more" = [] ++ ["@include /more"] := by cbv
    have hafter : Text.lines "\n@include /more" = [] ++ [""] ++ ["@include /more"] := by cbv
    exact .rel _ _ (.inserted hbefore hafter (List.forall_mem_singleton.2 (by cbv)))
  have hsecond : Shifted "@bogus" edited (0 + 1) (1 + 1) :=
    .intro (by rw [hreply]; rfl) (by rw [hlines]; rfl) (by cbv) (by cbv) (by cbv)
      (by rw [hlines]; cbv)
  have hout := answersAlike_estuary hedited
  obtain ⟨-, -, hread, -, -, hunique, -⟩ := layout_is_irrelevant hout htop "top"
  have hagree := hread _ _ rfl rfl
  rw [read_estuary] at hagree
  refine ⟨hedited, htop, hout, read_estuary, ?_⟩
  generalize read (estuary edited) "top" "\n@include /more" = reading at hagree
  cases hagree with
  | @error _ _ error' hsame =>
    cases hsame with
    | other notParse => exact absurd rfl (notParse _ _ _)
    | shifted texts line =>
      generalize hname : "/more" = name at texts
      cases texts with
      | top => exact absurd hname (by decide)
      | included classified notTop answer answer' =>
        subst hname
        have hs : (estuary "@bogus").outside.classify "/more" =
            .ok (.path "/more") := by
          cbv
        obtain rfl := Except.ok.inj (hs.symm.trans classified)
        obtain rfl := Except.ok.inj ((fetch_estuary _ _).symm.trans answer)
        obtain rfl := Except.ok.inj ((fetch_estuary _ _).symm.trans answer')
        rw [hunique _ _ _ _ _ line hsecond]

end Document
end SshTemplate
