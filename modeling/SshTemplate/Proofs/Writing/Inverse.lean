import SshTemplate.Proofs.Writing.Arguments

/-!
# `Proofs.Writing.Inverse` — reading undoes writing, and nearly the other way round

The writer of lines goes by the number of arguments and the reader by the first equals sign, and
each trims or quotes by rules of its own. On lines in normal form they are inverse all the same
(`Normal.read_written`), and the writer never refuses such a line.

The other direction asks what the reader can return at all. Of every text that is not blank it
returns a line in normal form, up to one thing: quotes may have kept blanks together that the
writer, which writes no quotes, would leave in the open. `NormalIn raw` says this of one text, and
it names the arguments that may have such blanks: they are the quoted pieces of the text, as its
grammar cuts it (`LaidOut`). A text without quotation marks has none, so it can be read, written and
read again as often as one likes.
-/

set_option autoImplicit false

namespace SshTemplate

open Text

namespace Text

variable {text : List Char} {c : Char}

/-- Trimming takes nothing but blanks. -/
theorem mem_trim_of_not_blank (hmem : c ∈ text) (hc : isBlank c = false) : c ∈ trim text := by
  obtain ⟨front, back, rfl⟩ := List.append_of_mem hmem
  rw [trim_append_cons hc]
  simp

theorem trimEnd_trim (text : List Char) : trimEnd (trim text) = trim text :=
  trimEnd_trimEnd (trimStart text)

theorem trim_trimStart_of_trimEnd (h : trimEnd text = text) :
    trim (trimStart text) = trimStart text := by
  have hstart : trimStart (trimStart text) = trimStart text :=
    List.dropWhile_idempotent isBlank text
  calc trim (trimStart text) = trimEnd (trimStart text) := by rw [trim, hstart]
    _ = trimStart (trimEnd text) := (trimStart_trimEnd text).symm
    _ = trimStart text := by rw [h]

end Text

namespace Line

/-! ## Where the arguments stand -/

section Chunks

variable {text rest : List Char} {chunk : Chunk} {chunks : List Chunk}
variable {open? : Option (List Char)}

theorem FirstChunk.exists_append (h : FirstChunk text chunk rest) :
    ∃ spelled, text = spelled ++ rest := by
  cases h with
  | gap => exact ⟨_, rfl⟩
  | @quoted content => exact ⟨'"' :: (content ++ ['"']), by simp⟩
  | bare => exact ⟨_, rfl⟩

/-- Every chunk of a text stands somewhere in it. -/
theorem Chunked.exists_firstChunk (h : Chunked text chunks open?) (hmem : chunk ∈ chunks) :
    ∃ front here behind, text = front ++ here ∧ FirstChunk here chunk behind := by
  induction h with
  | done => simp at hmem
  | unclosed => simp at hmem
  | cons first behind ih =>
    cases List.mem_cons.1 hmem with
    | inl heq =>
      subst heq
      exact ⟨[], _, _, rfl, first⟩
    | inr hlater =>
      obtain ⟨spelled, hspelled⟩ := first.exists_append
      obtain ⟨front, here, behind, hsplit, hfirst⟩ := ih hlater
      refine ⟨spelled ++ front, here, behind, ?_, hfirst⟩
      rw [hspelled, hsplit, List.append_assoc]

/-- What a chunk of the text passes: its characters are in the text, none is a quotation mark, and
    only quotes can bring a blank. -/
theorem Chunked.argument_of_mem (h : Chunked text chunks open?) (hmem : chunk ∈ chunks)
    {arg : String} (harg : chunk.argument? = some arg) :
    arg ≠ "" ∧ '"' ∉ arg.toList ∧ (∀ c ∈ arg.toList, c ∈ text) ∧
      ((∀ c ∈ arg.toList, isBlank c = false) ∨ chunk = .quoted arg.toList) := by
  obtain ⟨front, here, behind, hsplit, hfirst⟩ := h.exists_firstChunk hmem
  subst hsplit
  cases hfirst with
  | gap => simp [Chunk.argument?] at harg
  | @quoted content rest noQuote =>
    simp only [Chunk.argument?] at harg
    split at harg
    · simp at harg
    · next hne =>
      obtain rfl := Option.some.inj harg
      refine ⟨?_, ?_, ?_, Or.inr ?_⟩
      · intro hempty
        apply hne
        simpa using congrArg String.toList hempty
      · simpa using noQuote
      · intro c hc
        simp at hc
        simp [hc]
      · simp
  | @bare word rest nonempty plain maximal =>
    obtain rfl := Option.some.inj harg
    have hbare : ∀ c ∈ (String.ofList word).toList, isBlank c = false ∧ c ≠ '"' := by
      intro c hc
      apply isBare_iff.1
      apply plain
      simpa using hc
    refine ⟨?_, fun hquote => (hbare _ hquote).2 rfl, ?_, Or.inl fun c hc => (hbare c hc).1⟩
    · intro hempty
      apply nonempty
      simpa using congrArg String.toList hempty
    · intro c hc
      simp at hc
      simp [hc]

/-- Without quotation marks nothing can be wrong. -/
theorem Chunked.faultless (h : Chunked text chunks open?) (hquote : '"' ∉ text) :
    Faultless chunks open? := by
  induction h with
  | done => exact ⟨rfl, not_misplaced_nil⟩
  | unclosed => simp at hquote
  | cons first behind ih =>
    obtain ⟨spelled, hspelled⟩ := first.exists_append
    subst hspelled
    have hrest : '"' ∉ _ := fun hmem => hquote (List.mem_append_right spelled hmem)
    obtain ⟨hclosed, hplaced⟩ := ih hrest
    refine ⟨hclosed, ?_⟩
    intro hmisplaced
    cases misplaced_cons.1 hmisplaced with
    | inl hhere =>
      obtain ⟨word, -, hnext⟩ := hhere
      apply hrest
      exact List.mem_of_mem_head? (behind.quoteNext_iff.1 hnext)
    | inr hlater => exact hplaced hlater

end Chunks

/-! ## What is read is nearly in normal form -/

/-- The argument is a quoted piece of the text. -/
def StandsQuoted (raw arg : String) : Prop :=
  ∃ keyword chunks, LaidOut raw keyword chunks none ∧ Chunk.quoted arg.toList ∈ chunks

/-- **In normal form but for blanks that are quoted in the text.** -/
inductive NormalIn (raw : String) : Line → Prop where
  | sole {keyword arg : String} (trimmed : IsTrimmed keyword) (noEquals : '=' ∉ keyword.toList)
      (argument : IsTrimmed arg ∨ StandsQuoted raw arg) : NormalIn raw ⟨keyword, [arg]⟩
  | several {line : Line} (length : line.args.length ≠ 1) (keyword : IsWord line.keyword)
      (args : ∀ arg ∈ line.args, arg ≠ "" ∧ '=' ∉ arg.toList ∧ '"' ∉ arg.toList ∧
        ((∀ c ∈ arg.toList, isBlank c = false) ∨ StandsQuoted raw arg)) : NormalIn raw line

section Reading

variable {raw : String} {line : Line}

theorem StandsQuoted.mem {arg : String} (h : StandsQuoted raw arg) : '"' ∈ raw.toList := by
  obtain ⟨keyword, chunks, ⟨remainder, hheaded, hchunked⟩, hmem⟩ := h
  obtain ⟨front, here, behind, hsplit, hfirst⟩ := hchunked.exists_firstChunk hmem
  obtain ⟨blanks, -, hraw⟩ := hheaded.split
  rw [hraw, hsplit]
  cases hfirst with
  | quoted => simp

/-- Without quotation marks in the text, what is read is in normal form. -/
theorem NormalIn.normal (h : line.NormalIn raw) (hquote : '"' ∉ raw.toList) : line.Normal := by
  cases h with
  | sole trimmed noEquals argument =>
    apply Normal.sole trimmed noEquals
    exact argument.resolve_right fun hquoted => hquote hquoted.mem
  | several length keyword args =>
    apply Normal.several length keyword
    intro arg harg
    obtain ⟨hne, hequals, hclean, hblank⟩ := args arg harg
    exact ⟨⟨hne, hblank.resolve_right fun hquoted => hquote hquoted.mem, hequals⟩, hclean⟩

/-- A line with an equals sign has one argument, and it is trimmed like the keyword. -/
theorem normalIn_of_read_equals (h : read raw = .ok line) (hequals : '=' ∈ raw.toList) :
    line.NormalIn raw := by
  have hmem : '=' ∈ trim raw.toList := mem_trim_of_not_blank hequals (by decide)
  obtain ⟨c, rest, htrim⟩ := List.exists_cons_of_ne_nil (List.ne_nil_of_mem hmem)
  obtain ⟨htrimmed, hfirst⟩ := keyword_of_read_of_trim h htrim
  have hform := form_of_read h
  have hend : trimEnd (trim raw.toList) = trim raw.toList := trimEnd_trim _
  generalize trim raw.toList = text at hform hmem hend
  cases hform with
  | @sole keyword value cut first =>
    apply NormalIn.sole htrimmed hfirst
    apply Or.inl
    -- The end of the line is the end of the value.
    have hvalue : trimEnd value = value := by
      rw [cut, trimEnd_append_cons (by decide)] at hend
      simpa using hend
    show trim (String.ofList (trimStart value)).toList = (String.ofList (trimStart value)).toList
    rw [String.toList_ofList]
    exact trim_trimStart_of_trimEnd hvalue
  | several noEquals => exact absurd hmem noEquals

/-- A line without one is laid out by the grammar, and so are its arguments. -/
theorem exists_laidOut_of_read (h : read raw = .ok line) (hequals : '=' ∉ raw.toList) :
    ∃ chunks, LaidOut raw line.keyword chunks none ∧
      line.args = chunks.filterMap Chunk.argument? := by
  obtain ⟨keyword, chunks, open?, hlaid⟩ := exists_laidOut raw
  obtain ⟨⟨hclosed, -⟩, hline⟩ := (hlaid.read_eq_ok_iff hequals).1 h
  subst hline hclosed
  exact ⟨chunks, hlaid, rfl⟩

theorem LaidOut.isWord {keyword : String} {chunks : List Chunk} {open? : Option (List Char)}
    (h : LaidOut raw keyword chunks open?) (hequals : '=' ∉ raw.toList)
    (hblank : trim raw.toList ≠ []) : IsWord keyword := by
  obtain ⟨remainder, hheaded, -⟩ := h
  obtain ⟨blanks, -, hraw⟩ := hheaded.split
  refine ⟨?_, hheaded.word, ?_⟩
  · intro hempty
    apply hblank
    rw [hheaded.trim_eq, hempty, hheaded.nothing (by rw [hempty]; rfl)]
    rfl
  · intro hmem
    apply hequals
    rw [hraw]
    simp [hmem]

/-- What can be said of an argument by its text alone. -/
theorem LaidOut.argument_of_mem {keyword : String} {chunks : List Chunk}
    (h : LaidOut raw keyword chunks none) {arg : String}
    (harg : arg ∈ chunks.filterMap Chunk.argument?) :
    arg ≠ "" ∧ '"' ∉ arg.toList ∧ (∀ c ∈ arg.toList, c ∈ raw.toList) ∧
      ((∀ c ∈ arg.toList, isBlank c = false) ∨ StandsQuoted raw arg) := by
  obtain ⟨chunk, hmem, hchunk⟩ := List.mem_filterMap.1 harg
  have hquoted : chunk = .quoted arg.toList → StandsQuoted raw arg := by
    intro heq
    exact ⟨keyword, chunks, h, heq ▸ hmem⟩
  obtain ⟨remainder, hheaded, hchunked⟩ := h
  obtain ⟨blanks, -, hraw⟩ := hheaded.split
  obtain ⟨hne, hclean, hsubset, hkind⟩ := hchunked.argument_of_mem hmem hchunk
  refine ⟨hne, hclean, ?_, hkind.imp_right hquoted⟩
  intro c hc
  rw [hraw]
  simp [hsubset c hc]

/-- **What is read of a text that is not blank is in normal form**, but for blanks in quotes. -/
theorem normalIn_of_read (h : read raw = .ok line) (hblank : trim raw.toList ≠ []) :
    line.NormalIn raw := by
  by_cases hequals : '=' ∈ raw.toList
  · exact normalIn_of_read_equals h hequals
  obtain ⟨chunks, hlaid, hargs⟩ := exists_laidOut_of_read h hequals
  have hword : IsWord line.keyword := hlaid.isWord hequals hblank
  have hpassed : ∀ arg ∈ line.args, arg ≠ "" ∧ '=' ∉ arg.toList ∧ '"' ∉ arg.toList ∧
      ((∀ c ∈ arg.toList, isBlank c = false) ∨ StandsQuoted raw arg) := by
    intro arg harg
    obtain ⟨hne, hclean, hsubset, hkind⟩ := hlaid.argument_of_mem (hargs ▸ harg)
    exact ⟨hne, fun hmem => hequals (hsubset _ hmem), hclean, hkind⟩
  by_cases hlength : line.args.length = 1
  · obtain ⟨arg, harg⟩ := List.length_eq_one_iff.1 hlength
    obtain ⟨keyword, args⟩ := line
    subst harg
    obtain ⟨hne, hplain, -, hkind⟩ := hpassed arg (by simp)
    apply NormalIn.sole hword.isTrimmed hword.noEquals
    apply hkind.imp_left
    intro hnone
    exact IsWord.isTrimmed ⟨hne, hnone, hplain⟩
  · exact NormalIn.several hlength hword hpassed

/-- Only a quotation mark can make a text unreadable. -/
theorem exists_read_eq_ok (hquote : '"' ∉ raw.toList) : ∃ line, read raw = .ok line := by
  by_cases hequals : '=' ∈ raw.toList
  · have hmem : '=' ∈ trim raw.toList := mem_trim_of_not_blank hequals (by decide)
    unfold read
    dsimp only
    split
    · exact ⟨_, rfl⟩
    · next hnone => simpa using cutFirst?_eq_none_iff.1 hnone '=' hmem
  · obtain ⟨keyword, chunks, open?, hlaid⟩ := exists_laidOut raw
    refine ⟨_, (hlaid.read_eq_ok_iff hequals).2 ⟨?_, rfl⟩⟩
    obtain ⟨remainder, hheaded, hchunked⟩ := hlaid
    obtain ⟨blanks, -, hraw⟩ := hheaded.split
    apply hchunked.faultless
    intro hmem
    apply hquote
    rw [hraw]
    simp [hmem]

/-! ## The two directions -/

/-- A line in normal form can be written, and is read back. -/
theorem Normal.exists_written (h : line.Normal) {indent : String}
    (hindent : ∀ c ∈ indent.toList, isBlank c = true) :
    ∃ text, writeLine indent line = .ok text ∧ read text = .ok line := by
  refine ⟨line.written indent, writeLine_eq_ok_of_noQuote ?_ indent, h.read_written hindent⟩
  intro hlength arg harg
  cases h with
  | sole => simp at hlength
  | several _ _ args => exact (args arg harg).2

end Reading

/-- **Reading and writing are inverse on lines in normal form**, whatever blanks a line is indented
    by, and a line that is read is in normal form but for blanks that quotes have kept together. So
    what is read of a text without quotation marks can be written, and is read again as it was. -/
theorem reading_inverts_writing :
    (∀ (line : Line) (indent : String), line.Normal → (∀ c ∈ indent.toList, isBlank c = true) →
      ∃ text, writeLine indent line = .ok text ∧ read text = .ok line) ∧
    (∀ (raw : String) (line : Line), trim raw.toList ≠ [] → read raw = .ok line →
      line.NormalIn raw) ∧
    ∀ raw : String, trim raw.toList ≠ [] → '"' ∉ raw.toList →
      ∃ line, read raw = .ok line ∧
        ∀ indent : String, (∀ c ∈ indent.toList, isBlank c = true) →
          ∃ text, writeLine indent line = .ok text ∧ read text = .ok line := by
  refine ⟨?_, ?_, ?_⟩
  · intro line indent hnormal hindent
    exact hnormal.exists_written hindent
  · intro raw line hblank hread
    exact normalIn_of_read hread hblank
  · intro raw hblank hquote
    obtain ⟨line, hread⟩ := exists_read_eq_ok hquote
    have hnormal : line.Normal := (normalIn_of_read hread hblank).normal hquote
    refine ⟨line, hread, ?_⟩
    intro indent hindent
    exact hnormal.exists_written hindent

/-- One argument may hold whatever it likes, quotes keep a blank, and a bare value loses the blanks
    around it. -/
theorem command_is_written_and_read :
    Normal ⟨"Local Command", ["echo \"a = b\""]⟩ ∧
      (∃ text, writeLine "\t " ⟨"Local Command", ["echo \"a = b\""]⟩ = .ok text ∧
        read text = .ok ⟨"Local Command", ["echo \"a = b\""]⟩) ∧
      (trim "Forward \"a b\" c".toList ≠ [] ∧
        read "Forward \"a b\" c" = .ok ⟨"Forward", ["a b", "c"]⟩ ∧
        NormalIn "Forward \"a b\" c" ⟨"Forward", ["a b", "c"]⟩) ∧
      (trim "\tSend  a= b  c ".toList ≠ [] ∧ '"' ∉ "\tSend  a= b  c ".toList ∧
        ∃ line, read "\tSend  a= b  c " = .ok line ∧
          ∃ text, writeLine "  " line = .ok text ∧ read text = .ok line) := by
  obtain ⟨hwrite, hread, hagain⟩ := reading_inverts_writing
  have hnormal : Normal ⟨"Local Command", ["echo \"a = b\""]⟩ :=
    .sole (by decide) (by decide) (by decide)
  have hforward : trim "Forward \"a b\" c".toList ≠ [] := by decide
  have hargs : read "Forward \"a b\" c" = .ok ⟨"Forward", ["a b", "c"]⟩ := by decide
  have hsend : trim "\tSend  a= b  c ".toList ≠ [] ∧ '"' ∉ "\tSend  a= b  c ".toList := by decide
  refine ⟨hnormal, hwrite _ "\t " hnormal (by simp [isBlank]),
    ⟨hforward, hargs, hread _ _ hforward hargs⟩, hsend.1, hsend.2, ?_⟩
  obtain ⟨line, hline, hlater⟩ := hagain _ hsend.1 hsend.2
  exact ⟨line, hline, hlater "  " (by simp [isBlank])⟩

end Line
end SshTemplate
