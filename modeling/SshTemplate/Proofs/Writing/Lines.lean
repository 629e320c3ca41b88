import SshTemplate.Proofs.Rendering.Flattening
import SshTemplate.Proofs.Wellformed.Lines

/-!
# `Proofs.Writing.Lines` — a line is read back from what is written of it

Reading and writing know the same two forms, `Keyword = value` and `Keyword a b`, and go by different
signs: the writer counts the arguments, the reader looks for an equals sign. They agree on lines in
normal form (`Line.Normal`): either there is one argument and no equals sign before the one that is
written, or every part is a word of its own. Such a line is read from what is written of it,
whatever blanks stand before it (`read_written`).

Whatever is read is nearly in normal form. Blanks around a sole argument, and blanks in one of
several, are all that can be wrong, and only quotes can bring them (`normal_of_read`).
-/

set_option autoImplicit false

namespace SshTemplate

open Text

/-! ## Trimming -/

namespace Text

theorem dropWhile_append_cons {c : Char} (hc : isBlank c = false) (front back : List Char) :
    (front ++ c :: back).dropWhile isBlank = front.dropWhile isBlank ++ c :: back := by
  induction front with
  | nil => simp [hc]
  | cons d rest ih =>
    rw [List.cons_append, List.dropWhile_cons, List.dropWhile_cons, ih]
    split <;> rfl

theorem trimEnd_append_cons {c : Char} (hc : isBlank c = false) (front back : List Char) :
    trimEnd (front ++ c :: back) = front ++ c :: trimEnd back := by
  unfold trimEnd
  rw [List.reverse_append, List.reverse_cons, List.append_assoc, List.singleton_append,
    dropWhile_append_cons hc]
  simp

/-- What is no blank stays, and so each side of it is trimmed by itself. -/
theorem trim_append_cons {c : Char} (hc : isBlank c = false) (front back : List Char) :
    trim (front ++ c :: back) = trimStart front ++ c :: trimEnd back := by
  unfold trim trimStart
  rw [dropWhile_append_cons hc, trimEnd_append_cons hc]

theorem blank_or_split (text : List Char) :
    (∀ c ∈ text, isBlank c = true) ∨
      ∃ front c back, text = front ++ c :: back ∧ isBlank c = false := by
  by_cases h : ∀ c ∈ text, isBlank c = true
  · exact Or.inl h
  · push Not at h
    obtain ⟨c, hc, hblank⟩ := h
    obtain ⟨front, back, rfl⟩ := List.append_of_mem hc
    exact Or.inr ⟨front, c, back, rfl, Bool.eq_false_iff.2 hblank⟩

theorem trimStart_of_blanks {blanks : List Char} (h : ∀ c ∈ blanks, isBlank c = true) :
    trimStart blanks = [] := List.dropWhile_eq_nil_iff.2 h

theorem trimEnd_of_blanks {blanks : List Char} (h : ∀ c ∈ blanks, isBlank c = true) :
    trimEnd blanks = [] := by
  have hback : ∀ c ∈ blanks.reverse, isBlank c = true := fun c hc => h c (List.mem_reverse.1 hc)
  unfold trimEnd
  rw [List.dropWhile_eq_nil_iff.2 hback]
  rfl

/-- It does not matter which end is trimmed first. -/
theorem trimStart_trimEnd (text : List Char) : trimStart (trimEnd text) = trim text := by
  rcases blank_or_split text with h | ⟨front, c, back, rfl, hc⟩
  · unfold trim
    rw [trimEnd_of_blanks h, trimStart_of_blanks h]
    rfl
  · rw [trim_append_cons hc, trimEnd_append_cons hc]
    exact dropWhile_append_cons hc front _

theorem trim_blanks_append {blanks : List Char} (h : ∀ c ∈ blanks, isBlank c = true)
    (text : List Char) : trim (blanks ++ text) = trim text := by
  unfold trim trimStart
  rw [List.dropWhile_append_of_pos h]

theorem trim_append_blanks {blanks : List Char} (h : ∀ c ∈ blanks, isBlank c = true)
    (text : List Char) : trim (text ++ blanks) = trim text := by
  have hback : ∀ c ∈ blanks.reverse, isBlank c = true := fun c hc => h c (List.mem_reverse.1 hc)
  rw [← trimStart_trimEnd, ← trimStart_trimEnd]
  unfold trimEnd
  rw [List.reverse_append, List.dropWhile_append_of_pos hback]

theorem trimEnd_trimEnd (text : List Char) : trimEnd (trimEnd text) = trimEnd text := by
  unfold trimEnd
  rw [List.reverse_reverse, List.dropWhile_idempotent]

end Text

/-- A text without blanks around it. -/
def IsTrimmed (text : String) : Prop := trim text.toList = text.toList

instance (text : String) : Decidable (IsTrimmed text) :=
  inferInstanceAs (Decidable (trim text.toList = text.toList))

/-- A text that is one word wherever it stands. -/
structure IsWord (text : String) : Prop where
  nonempty : text ≠ ""
  noBlank : ∀ c ∈ text.toList, isBlank c = false
  noEquals : '=' ∉ text.toList

theorem IsWord.exists_cons {text : String} (h : IsWord text) :
    ∃ c rest, text.toList = c :: rest ∧ isBlank c = false := by
  obtain ⟨c, rest, hsplit⟩ := List.exists_cons_of_ne_nil (mt String.toList_eq_nil_iff.1 h.nonempty)
  exact ⟨c, rest, hsplit, h.noBlank c (by simp [hsplit])⟩

theorem IsWord.exists_concat {text : String} (h : IsWord text) :
    ∃ front c, text.toList = front ++ [c] ∧ isBlank c = false := by
  obtain ⟨front, c, hsplit⟩ :=
    (List.eq_nil_or_concat' text.toList).resolve_left (mt String.toList_eq_nil_iff.1 h.nonempty)
  exact ⟨front, c, hsplit, h.noBlank c (by simp [hsplit])⟩

/-- Words with a blank between them have none around them. -/
theorem trim_words {first : String} {others : List String} (hfirst : IsWord first)
    (hothers : ∀ word ∈ others, IsWord word) :
    trim (first.toList ++ others.flatMap fun word => ' ' :: word.toList) =
      first.toList ++ others.flatMap fun word => ' ' :: word.toList := by
  obtain ⟨c, more, hc, hblank⟩ := hfirst.exists_cons
  have hend : ∃ front d, (first.toList ++ others.flatMap fun word => ' ' :: word.toList) =
      front ++ [d] ∧ isBlank d = false := by
    rcases List.eq_nil_or_concat' others with rfl | ⟨before, last, rfl⟩
    · simpa using hfirst.exists_concat
    · obtain ⟨front, d, hd, hblank'⟩ := (hothers last (by simp)).exists_concat
      refine ⟨first.toList ++ before.flatMap (fun word => ' ' :: word.toList) ++ ' ' :: front, d,
        ?_, hblank'⟩
      simp [hd]
  obtain ⟨front, d, hd, hblank'⟩ := hend
  rw [← trimStart_trimEnd]
  have htrimEnd : trimEnd (first.toList ++ others.flatMap fun word => ' ' :: word.toList) =
      first.toList ++ others.flatMap fun word => ' ' :: word.toList := by
    rw [hd]
    exact trimEnd_append_cons hblank' front []
  rw [htrimEnd, hc]
  exact List.dropWhile_cons_of_neg (by simp [hblank])

theorem IsWord.isTrimmed {text : String} (h : IsWord text) : IsTrimmed text := by
  have hothers : ∀ word ∈ ([] : List String), IsWord word := by simp
  unfold IsTrimmed
  simpa using trim_words h hothers

/-! ## Normal forms -/

namespace Line

/-- **Lines that are read as what they were written from.** -/
inductive Normal : Line → Prop where
  /-- One argument, that may hold anything, -/
  | sole {keyword arg : String} (trimmed : IsTrimmed keyword) (noEquals : '=' ∉ keyword.toList)
      (argument : IsTrimmed arg) : Normal ⟨keyword, [arg]⟩
  /-- or another number of them, that are words without quotation marks. -/
  | several {line : Line} (length : line.args.length ≠ 1) (keyword : IsWord line.keyword)
      (args : ∀ arg ∈ line.args, IsWord arg ∧ '"' ∉ arg.toList) : Normal line

section Reading

variable {raw indent : String} {line : Line}

theorem toList_written_sole (indent keyword arg : String) :
    (written indent ⟨keyword, [arg]⟩).toList =
      (indent.toList ++ keyword.toList ++ [' ']) ++ '=' :: (' ' :: arg.toList) := by
  unfold written
  simp

theorem toList_written_several (indent : String) (hlength : line.args.length ≠ 1) :
    (line.written indent).toList =
      indent.toList ++ (line.keyword.toList ++ line.args.flatMap fun arg => ' ' :: arg.toList) := by
  rw [written_of_length_ne_one indent hlength]
  simp [String.toList_join, List.flatMap_map]

/-! ### Arguments -/

/-- Characters of a word are read into the word begun. -/
theorem readArguments_append {chars : List Char} (hblank : ∀ c ∈ chars, isBlank c = false)
    (hquote : '"' ∉ chars) (word rest : List Char) :
    readArguments false word (chars ++ rest) = readArguments false (chars.reverse ++ word) rest := by
  induction chars generalizing word with
  | nil => rfl
  | cons c more ih =>
    obtain ⟨hc, hmore⟩ := List.forall_mem_cons.1 hblank
    obtain ⟨hne, hquote⟩ := not_or.1 (mt List.mem_cons.2 hquote)
    rw [List.cons_append, readArguments]
    simp [Ne.symm hne, hc, ih hmore hquote]

theorem finished_word {arg : String} (h : arg ≠ "") : finished (arg.toList.reverse ++ []) = [arg] := by
  unfold finished
  rw [List.append_nil, List.reverse_reverse, String.ofList_toList, if_neg (by simpa using h)]

/-- Words with a blank between them are the arguments. -/
theorem readArguments_words {first : String} {others : List String}
    (h : ∀ arg ∈ first :: others, IsWord arg ∧ '"' ∉ arg.toList) :
    readArguments false [] (first.toList ++ others.flatMap fun arg => ' ' :: arg.toList) =
      .ok (first :: others) := by
  induction others generalizing first with
  | nil =>
    obtain ⟨hword, hquote⟩ := h first (by simp)
    rw [readArguments_append hword.noBlank hquote, List.flatMap_nil, readArguments,
      finished_word hword.nonempty]
    rfl
  | cons second rest ih =>
    obtain ⟨hfirst, hothers⟩ := List.forall_mem_cons.1 h
    have hspace : isBlank ' ' = true := by decide
    rw [readArguments_append hfirst.1.noBlank hfirst.2, List.flatMap_cons, List.cons_append,
      readArguments, finished_word hfirst.1.nonempty]
    simp only [Bool.false_eq_true, if_false, hspace, if_true, ih hothers]
    rfl

/-! ### Lines -/

theorem read_written_sole {keyword arg : String} (hindent : ∀ c ∈ indent.toList, isBlank c = true)
    (hkeyword : IsTrimmed keyword) (hequals : '=' ∉ keyword.toList) (harg : IsTrimmed arg) :
    read (written indent ⟨keyword, [arg]⟩) = .ok ⟨keyword, [arg]⟩ := by
  have hspace : ∀ c ∈ [' '], isBlank c = true := List.forall_mem_singleton.2 (by decide)
  have hsplit := toList_written_sole indent keyword arg
  have hfront : trimEnd (trimStart (indent.toList ++ keyword.toList ++ [' '])) = keyword.toList := by
    show trim _ = _
    rw [trim_append_blanks hspace, trim_blanks_append hindent]
    exact hkeyword
  have hback : trimStart (trimEnd (' ' :: arg.toList)) = arg.toList := by
    rw [trimStart_trimEnd, ← List.singleton_append, trim_blanks_append hspace]
    exact harg
  have hnone : ∀ c ∈ trimStart (indent.toList ++ keyword.toList ++ [' ']),
      decide (c = '=') = false := by
    intro c hc
    have hmem := mem_of_mem_trimStart hc
    simp only [List.mem_append, List.mem_singleton] at hmem
    rw [decide_eq_false_iff_not]
    rintro rfl
    rcases hmem with (hmem | hmem) | hmem
    · exact absurd (hindent '=' hmem) (by decide)
    · exact hequals hmem
    · exact absurd hmem (by decide)
  unfold read
  dsimp only
  rw [hsplit, trim_append_cons (by decide), cutFirst?_append_cons hnone (by decide)]
  dsimp only
  rw [hfront, hback, String.ofList_toList, String.ofList_toList]

theorem read_written_several (hindent : ∀ c ∈ indent.toList, isBlank c = true)
    (hlength : line.args.length ≠ 1) (hkeyword : IsWord line.keyword)
    (hargs : ∀ arg ∈ line.args, IsWord arg ∧ '"' ∉ arg.toList) :
    read (line.written indent) = .ok line := by
  obtain ⟨keyword, args⟩ := line
  have hword : ∀ c ∈ keyword.toList, isBlank c = false := hkeyword.noBlank
  have hspace : isBlank ' ' = true := by decide
  have hnone : cutFirst? (· = '=') (keyword.toList ++ args.flatMap fun arg => ' ' :: arg.toList) =
      none := by
    refine cutFirst?_eq_none_iff.2 fun c hc => ?_
    rw [decide_eq_false_iff_not]
    rintro rfl
    rcases List.mem_append.1 hc with hc | hc
    · exact hkeyword.noEquals hc
    · obtain ⟨arg, harg, hmem⟩ := List.mem_flatMap.1 hc
      rcases List.mem_cons.1 hmem with hmem | hmem
      · exact absurd hmem (by decide)
      · exact (hargs arg harg).1.noEquals hmem
  unfold read
  dsimp only
  rw [toList_written_several indent hlength, trim_blanks_append hindent]
  rw [trim_words hkeyword fun arg harg => (hargs arg harg).1]
  dsimp only
  rw [hnone]
  dsimp only
  cases args with
  | nil =>
    have hcut : cutFirst? isBlank keyword.toList = none := cutFirst?_eq_none_iff.2 hword
    rw [List.flatMap_nil, List.append_nil, hcut, Option.getD_none, String.ofList_toList]
    rfl
  | cons first others =>
    obtain ⟨hfirst, hothers⟩ := List.forall_mem_cons.1 hargs
    rw [List.flatMap_cons, List.cons_append, cutFirst?_append_cons hword hspace, Option.getD_some]
    dsimp only
    rw [trim_words hfirst.1 fun arg harg => (hothers arg harg).1, readArguments_words hargs,
      String.ofList_toList]
    rfl

/-- **A line in normal form is read back**, whatever blanks stand before it. -/
theorem Normal.read_written (h : line.Normal) (hindent : ∀ c ∈ indent.toList, isBlank c = true) :
    read (line.written indent) = .ok line := by
  cases h with
  | sole trimmed noEquals argument => exact read_written_sole hindent trimmed noEquals argument
  | several length keyword args => exact read_written_several hindent length keyword args

/-! ### What is read is nearly in normal form -/

/-- The first character of the line is that of the keyword, unless there is no keyword. -/
theorem head?_keyword_of_read (h : read raw = .ok line) {c : Char} {rest : List Char}
    (htrim : trim raw.toList = c :: rest) :
    line.keyword.toList.head? = if c = '=' then none else some c := by
  have hc := not_isBlank_of_trim_eq_cons htrim
  have hform := form_of_read h
  rw [htrim] at hform
  cases hform with
  | @sole keyword value cut first =>
    rw [String.toList_ofList]
    rcases keyword with _ | ⟨d, more⟩
    · obtain ⟨rfl, -⟩ := List.cons.inj cut
      rfl
    · obtain ⟨rfl, -⟩ := List.cons.inj cut
      have hne : c ≠ '=' := fun heq => first (heq ▸ List.mem_cons_self)
      rw [if_neg hne]
      exact congrArg List.head? (trimEnd_append_cons hc [] more)
  | @several keyword arguments args noEquals word hread =>
    have hne : c ≠ '=' := fun heq => noEquals (heq ▸ List.mem_cons_self)
    have hword : ((cutFirst? isBlank (c :: rest)).getD (c :: rest, [])).1.head? = some c := by
      rw [cutFirst?, if_neg (by simp [hc])]
      cases cutFirst? isBlank rest <;> rfl
    rw [word] at hword
    rw [if_neg hne, String.toList_ofList]
    exact hword

theorem isRemark_eq_false_iff :
    isRemark raw = false ↔ ∃ c rest, trim raw.toList = c :: rest ∧ c ≠ '#' := by
  unfold isRemark
  split
  · next hnil => simp [hnil]
  · next c rest hcons => simp [hcons]

/-- No keyword makes a comment of its line. -/
theorem noComment_of_read (h : read raw = .ok line) (hremark : isRemark raw = false) :
    line.keyword.toList.head? ≠ some '#' := by
  obtain ⟨c, rest, htrim, hne⟩ := isRemark_eq_false_iff.1 hremark
  rw [head?_keyword_of_read h htrim]
  split
  · simp
  · simpa using hne

/-- The keyword of a line that is read is trimmed and holds no equals sign, unless the line is
    blank. -/
theorem keyword_of_read_of_trim (h : read raw = .ok line) {c : Char} {rest : List Char}
    (htrim : trim raw.toList = c :: rest) :
    IsTrimmed line.keyword ∧ '=' ∉ line.keyword.toList := by
  have hc := not_isBlank_of_trim_eq_cons htrim
  have hform := form_of_read h
  rw [htrim] at hform
  cases hform with
  | @sole keyword value cut first =>
    unfold IsTrimmed
    rw [String.toList_ofList]
    refine ⟨?_, fun hmem => first (mem_of_mem_trimEnd hmem)⟩
    rcases keyword with _ | ⟨d, more⟩
    · rfl
    · obtain ⟨rfl, -⟩ := List.cons.inj cut
      have hstart : trimStart (trimEnd (c :: more)) = trimEnd (c :: more) := by
        have hend : trimEnd (c :: more) = c :: trimEnd more := trimEnd_append_cons hc [] more
        rw [hend]
        exact List.dropWhile_cons_of_neg (by simp [hc])
      unfold trim
      rw [hstart, trimEnd_trimEnd]
  | several noEquals word hread =>
    obtain ⟨keyword, arguments, hword, hne, hblank, hkeyword, -⟩ := firstWord_of_cons rest hc
    obtain ⟨rfl, rfl⟩ := Prod.mk.inj (hword.symm.trans word)
    have hisWord : IsWord (String.ofList keyword) := by
      refine ⟨fun hempty => hne (by simpa using congrArg String.toList hempty), ?_, ?_⟩
      · rwa [String.toList_ofList]
      · rw [String.toList_ofList]
        exact fun hmem => noEquals (hkeyword _ hmem)
    exact ⟨hisWord.isTrimmed, hisWord.noEquals⟩

theorem keyword_of_read (h : read raw = .ok line) (hremark : isRemark raw = false) :
    IsTrimmed line.keyword ∧ '=' ∉ line.keyword.toList := by
  obtain ⟨c, rest, htrim, -⟩ := isRemark_eq_false_iff.1 hremark
  exact keyword_of_read_of_trim h htrim

/-- No quotes were needed for blanks: a sole argument has none around it, and others have none. -/
structure Tight (line : Line) : Prop where
  sole : ∀ arg, line.args = [arg] → IsTrimmed arg
  several : line.args.length ≠ 1 → ∀ arg ∈ line.args, ∀ c ∈ arg.toList, isBlank c = false

/-- **A line that is read and needs no quotes is in normal form.** -/
theorem normal_of_read (h : read raw = .ok line) (hremark : isRemark raw = false)
    (hbreak : '\n' ∉ raw.toList) (htight : line.Tight) : line.Normal := by
  obtain ⟨htrimmed, hequals⟩ := keyword_of_read h hremark
  by_cases hlength : line.args.length = 1
  · obtain ⟨arg, harg⟩ := List.length_eq_one_iff.1 hlength
    obtain ⟨keyword, args⟩ := line
    obtain rfl : args = [arg] := harg
    exact .sole htrimmed hequals (htight.sole arg rfl)
  · have hplain := isPlain_of_read h hremark hbreak hlength
    refine .several hlength ⟨hplain.keyword, hplain.noBlank, hplain.noEquals⟩ fun arg harg => ?_
    have hvalue := hplain.args arg harg
    exact ⟨⟨hvalue.nonempty, htight.several hlength arg harg, hvalue.noEquals⟩, hvalue.noQuote⟩

/-- What is written of a line is no remark, unless its keyword begins a comment. -/
theorem Normal.isRemark_written (h : line.Normal) (hcomment : line.keyword.toList.head? ≠ some '#')
    (hindent : ∀ c ∈ indent.toList, isBlank c = true) : isRemark (line.written indent) = false := by
  have hread := h.read_written hindent
  refine isRemark_eq_false_iff.2 ?_
  cases htrim : trim (line.written indent).toList with
  | nil =>
    -- A blank line would be read as one without keyword and arguments.
    have hblank : line = ⟨"", []⟩ := by
      unfold read at hread
      dsimp only at hread
      rw [htrim] at hread
      exact (Except.ok.inj hread).symm
    rw [hblank] at h
    cases h with
    | several _ keyword _ => exact absurd rfl keyword.nonempty
  | cons c rest =>
    refine ⟨c, rest, rfl, ?_⟩
    rintro rfl
    exact hcomment (head?_keyword_of_read hread htrim)

end Reading
end Line
end SshTemplate
