import SshTemplate.Proofs.Writing.Lines

/-!
# `Proofs.Writing.Arguments` — the grammar of arguments

A line without an equals sign is a keyword and arguments, and the arguments are read character by
character, with one buffer for bare and for quoted text. What this accepts is said here without a
buffer. Behind its keyword, a line is cut from the left into gaps, quoted pieces and bare words, each
as long as it can be; at the end a quote may be left open (`Chunked`). Every text can be cut in this
way, and in one way only. It is accepted if no quote is left open and no bare word has a quote right
behind it, and its arguments are then the bare words and what is in the quotes, unless there is
nothing in them. If it is refused, the fault that comes first says why (`FirstFault`).

The reader trims a line twice before it reads arguments. Neither is seen in the result, because
blanks at the end of a text end nothing that would not end there anyway: they come behind the last
argument, or into a quote that is left open with or without them (`readArguments_append_blanks`).

Whatever is not empty and holds neither a quotation mark nor an equals sign can be written as an
argument, in quotes if there is a blank in it (`read_spelled`).
-/

set_option autoImplicit false

namespace SshTemplate

open Text

namespace Text

/-! ## What trimming takes off -/

theorem exists_eq_append_trimStart (text : List Char) :
    ∃ blanks, (∀ c ∈ blanks, isBlank c = true) ∧ text = blanks ++ trimStart text :=
  ⟨text.takeWhile isBlank, fun _ hc => List.mem_takeWhile_imp hc,
    List.takeWhile_append_dropWhile.symm⟩

theorem exists_eq_trimEnd_append (text : List Char) :
    ∃ blanks, (∀ c ∈ blanks, isBlank c = true) ∧ text = trimEnd text ++ blanks := by
  obtain ⟨blanks, hblank, hsplit⟩ := exists_eq_append_trimStart text.reverse
  refine ⟨blanks.reverse, fun c hc => hblank c (List.mem_reverse.1 hc), ?_⟩
  calc text = (blanks ++ trimStart text.reverse).reverse := by
        rw [← hsplit, List.reverse_reverse]
    _ = trimEnd text ++ blanks.reverse := List.reverse_append

end Text

namespace Line

/-! ## Chunks -/

/-- What the text behind a keyword is made of. -/
inductive Chunk where
  | gap (blanks : List Char)
  /-- `"content"`. -/
  | quoted (content : List Char)
  | bare (word : List Char)
  deriving DecidableEq

/-- The argument that a chunk is. Empty quotes pass nothing. -/
def Chunk.argument? : Chunk → Option String
  | gap _ => none
  | quoted content => if content.isEmpty then none else some (String.ofList content)
  | bare word => some (String.ofList word)

/-- A character of a bare word. -/
def isBare (c : Char) : Bool := !isBlank c && c != '"'

/-- The chunk that a text begins with, and what stands behind it. -/
inductive FirstChunk : List Char → Chunk → List Char → Prop where
  | gap {blanks rest : List Char} (nonempty : blanks ≠ [])
      (blank : ∀ c ∈ blanks, isBlank c = true) (maximal : ∀ c ∈ rest.head?, isBlank c = false) :
      FirstChunk (blanks ++ rest) (.gap blanks) rest
  | quoted {content rest : List Char} (noQuote : '"' ∉ content) :
      FirstChunk ('"' :: (content ++ '"' :: rest)) (.quoted content) rest
  | bare {word rest : List Char} (nonempty : word ≠ []) (plain : ∀ c ∈ word, isBare c = true)
      (maximal : ∀ c ∈ rest.head?, isBare c = false) :
      FirstChunk (word ++ rest) (.bare word) rest

/-- **The text, cut from the left into chunks.** A quote may be left open at the end; the last part
    is then what stands behind it. -/
inductive Chunked : List Char → List Chunk → Option (List Char) → Prop where
  | done : Chunked [] [] none
  | unclosed {content : List Char} (noQuote : '"' ∉ content) :
      Chunked ('"' :: content) [] (some content)
  | cons {text rest : List Char} {chunk : Chunk} {chunks : List Chunk} {open? : Option (List Char)}
      (first : FirstChunk text chunk rest) (behind : Chunked rest chunks open?) :
      Chunked text (chunk :: chunks) open?

theorem isBlank_quote : isBlank '"' = false := by decide

section Cutting

variable {text rest rest' : List Char} {chunk chunk' : Chunk} {chunks chunks' : List Chunk}
variable {open? open?' : Option (List Char)}

/-! ### There is one way to cut a text -/

/-- A run of a class that ends where the class does is found by its first character on. -/
theorem run_unique {p : Char → Bool} {run run' : List Char} (h : ∀ c ∈ run, p c = true)
    (hrest : ∀ c ∈ rest.head?, p c = false) (h' : ∀ c ∈ run', p c = true)
    (hrest' : ∀ c ∈ rest'.head?, p c = false) (hsame : run ++ rest = run' ++ rest') :
    run = run' ∧ rest = rest' := by
  have htake : ∀ {run rest : List Char}, (∀ c ∈ run, p c = true) →
      (∀ c ∈ rest.head?, p c = false) → (run ++ rest).takeWhile p = run := by
    intro run rest hrun hrest
    rw [List.takeWhile_append_of_pos hrun]
    cases rest with
    | nil => simp
    | cons c more => simp [hrest c rfl]
  have hrun : run = run' := by
    rw [← htake h hrest, hsame, htake h' hrest']
  subst hrun
  exact ⟨rfl, List.append_cancel_left hsame⟩

/-- The characters that a chunk can begin with. -/
def Chunk.starts : Chunk → Char → Bool
  | gap _ => isBlank
  | quoted _ => (· = '"')
  | bare _ => isBare

theorem FirstChunk.exists_starts (h : FirstChunk text chunk rest) :
    ∃ c more, text = c :: more ∧ chunk.starts c = true := by
  cases h with
  | gap nonempty blank maximal =>
    obtain ⟨c, more, rfl⟩ := List.exists_cons_of_ne_nil nonempty
    exact ⟨c, more ++ rest, rfl, blank c List.mem_cons_self⟩
  | quoted noQuote => exact ⟨'"', _, rfl, rfl⟩
  | bare nonempty plain maximal =>
    obtain ⟨c, more, rfl⟩ := List.exists_cons_of_ne_nil nonempty
    exact ⟨c, more ++ rest, rfl, plain c List.mem_cons_self⟩

theorem isBare_iff {c : Char} : isBare c = true ↔ isBlank c = false ∧ c ≠ '"' := by
  simp [isBare]

/-- **A text begins with one chunk only.** Its first character says of which kind it is, and then it
    goes on as long as it can. -/
theorem FirstChunk.unique (h : FirstChunk text chunk rest) (h' : FirstChunk text chunk' rest') :
    chunk = chunk' ∧ rest = rest' := by
  obtain ⟨c, more, hcons, hstarts⟩ := h.exists_starts
  obtain ⟨c', more', hcons', hstarts'⟩ := h'.exists_starts
  obtain ⟨rfl, -⟩ := List.cons.inj (hcons.symm.trans hcons')
  clear hcons hcons'
  have hblank : isBlank c = true → c ≠ '"' ∧ ¬ isBare c = true := by
    intro hc
    refine ⟨?_, fun hbare => ?_⟩
    · rintro rfl
      exact absurd hc (by decide)
    · exact absurd hc (by simp [(isBare_iff.1 hbare).1])
  have hbare : isBare c = true → c ≠ '"' := fun hc => (isBare_iff.1 hc).2
  generalize hsame : text = text' at h'
  cases h with
  | gap nonempty blank maximal =>
    cases h' with
    | gap nonempty' blank' maximal' =>
      obtain ⟨rfl, rfl⟩ := run_unique blank maximal blank' maximal' hsame
      exact ⟨rfl, rfl⟩
    | quoted noQuote' => exact absurd (of_decide_eq_true hstarts') (hblank hstarts).1
    | bare nonempty' plain' maximal' => exact absurd hstarts' (hblank hstarts).2
  | quoted noQuote =>
    cases h' with
    | gap nonempty' blank' maximal' => exact absurd (of_decide_eq_true hstarts) (hblank hstarts').1
    | quoted noQuote' =>
      -- What is quoted is a run as well, of everything that is no quote.
      have hrun : ∀ {content : List Char}, '"' ∉ content → ∀ d ∈ content, (d != '"') = true := by
        intro content hnot d hd
        simpa using ne_of_mem_of_not_mem hd hnot
      have hstop : ∀ {rest : List Char}, ∀ d ∈ ('"' :: rest).head?, (d != '"') = false := by
        simp
      obtain ⟨rfl, hrest⟩ :=
        run_unique (hrun noQuote) hstop (hrun noQuote') hstop (List.cons.inj hsame).2
      exact ⟨rfl, (List.cons.inj hrest).2⟩
    | bare nonempty' plain' maximal' => exact absurd (of_decide_eq_true hstarts) (hbare hstarts')
  | bare nonempty plain maximal =>
    cases h' with
    | gap nonempty' blank' maximal' => exact absurd hstarts (hblank hstarts').2
    | quoted noQuote' => exact absurd (of_decide_eq_true hstarts') (hbare hstarts)
    | bare nonempty' plain' maximal' =>
      obtain ⟨rfl, rfl⟩ := run_unique plain maximal plain' maximal' hsame
      exact ⟨rfl, rfl⟩

theorem FirstChunk.length_lt (h : FirstChunk text chunk rest) : rest.length < text.length := by
  cases h with
  | gap nonempty blank maximal => simpa [List.length_pos_iff] using nonempty
  | quoted noQuote => simp; omega
  | bare nonempty plain maximal => simpa [List.length_pos_iff] using nonempty

/-- Behind a quote that is left open there is no chunk. -/
theorem not_firstChunk_unclosed {content : List Char} (h : '"' ∉ content) :
    ¬ FirstChunk ('"' :: content) chunk rest := by
  intro hfirst
  obtain ⟨c, more, hcons, hstarts⟩ := hfirst.exists_starts
  obtain ⟨rfl, -⟩ := List.cons.inj hcons
  have hquote : isBlank '"' = false ∧ isBare '"' = false := by decide
  generalize htext : '"' :: content = text at hfirst
  cases hfirst with
  | gap nonempty blank maximal => exact Bool.false_ne_true (hquote.1.symm.trans hstarts)
  | quoted noQuote =>
    obtain ⟨-, rfl⟩ := List.cons.inj htext
    exact h (by simp)
  | bare nonempty plain maximal => exact Bool.false_ne_true (hquote.2.symm.trans hstarts)

/-- A text begins with a chunk, unless it is a quote that is left open. -/
theorem exists_firstChunk (c : Char) (text : List Char) :
    (c = '"' ∧ '"' ∉ text) ∨ ∃ chunk rest, FirstChunk (c :: text) chunk rest := by
  have hrun : ∀ p : Char → Bool, p c = true →
      c :: text = (c :: text.takeWhile p) ++ text.dropWhile p ∧
        (∀ d ∈ c :: text.takeWhile p, p d = true) ∧ ∀ d ∈ (text.dropWhile p).head?, p d = false := by
    intro p hc
    refine ⟨by simp, List.forall_mem_cons.2 ⟨hc, fun d hd => List.mem_takeWhile_imp hd⟩, ?_⟩
    intro d hd
    have hnot := List.head?_dropWhile_not p text
    rw [hd] at hnot
    simpa using hnot
  by_cases hquote : c = '"'
  · subst hquote
    by_cases hmem : '"' ∈ text
    · cases hcut : cutFirst? (· = '"') text with
      | none => simpa using cutFirst?_eq_none_iff.1 hcut '"' hmem
      | some cut =>
        obtain ⟨d, hd, hsplit, hbefore⟩ := eq_append_of_cutFirst? hcut
        obtain rfl : d = '"' := by simpa using hd
        have hnot : '"' ∉ cut.1 := fun hmem => by simpa using hbefore '"' hmem
        rw [hsplit]
        exact Or.inr ⟨_, _, .quoted hnot⟩
    · exact Or.inl ⟨rfl, hmem⟩
  · right
    by_cases hblank : isBlank c = true
    · obtain ⟨hsplit, hall, hstop⟩ := hrun isBlank hblank
      rw [hsplit]
      exact ⟨_, _, .gap (by simp) hall hstop⟩
    · have hbare : isBare c = true := isBare_iff.2 ⟨by simpa using hblank, hquote⟩
      obtain ⟨hsplit, hall, hstop⟩ := hrun isBare hbare
      rw [hsplit]
      exact ⟨_, _, .bare (by simp) hall hstop⟩

/-- **Every text can be cut into chunks**, -/
theorem exists_chunked : ∀ text : List Char, ∃ chunks open?, Chunked text chunks open?
  | [] => ⟨[], none, .done⟩
  | c :: text => by
    rcases exists_firstChunk c text with ⟨rfl, hnot⟩ | ⟨chunk, rest, hfirst⟩
    · exact ⟨[], _, .unclosed hnot⟩
    · have hlt := hfirst.length_lt
      obtain ⟨chunks, open?, hbehind⟩ := exists_chunked rest
      exact ⟨_, _, .cons hfirst hbehind⟩
termination_by text => text.length
decreasing_by exact hlt

/-- **and in one way only.** -/
theorem Chunked.unique (h : Chunked text chunks open?) (h' : Chunked text chunks' open?') :
    chunks = chunks' ∧ open? = open?' := by
  induction h generalizing chunks' open?' with
  | done =>
    cases h' with
    | done => exact ⟨rfl, rfl⟩
    | cons first' _ => exact absurd first'.length_lt (Nat.not_lt_zero _)
  | unclosed noQuote =>
    cases h' with
    | unclosed _ => exact ⟨rfl, rfl⟩
    | cons first' _ => exact absurd first' (not_firstChunk_unclosed noQuote)
  | cons first _ ih =>
    cases h' with
    | done => exact absurd first.length_lt (Nat.not_lt_zero _)
    | unclosed noQuote' => exact absurd first (not_firstChunk_unclosed noQuote')
    | cons first' behind' =>
      obtain ⟨rfl, rfl⟩ := first.unique first'
      obtain ⟨rfl, rfl⟩ := ih behind'
      exact ⟨rfl, rfl⟩

end Cutting

/-! ## What is refused, and why -/

/-- What comes next begins with a quote, be it closed or not. -/
def QuoteNext : List Chunk → Option (List Char) → Prop
  | [], open? => open?.isSome
  | .quoted _ :: _, _ => True
  | _ :: _, _ => False

/-- A bare word has a quote right behind it. -/
def Misplaced (chunks : List Chunk) (open? : Option (List Char)) : Prop :=
  ∃ before word after, chunks = before ++ .bare word :: after ∧ QuoteNext after open?

/-- **The fault that comes first.** A quote that is left open is the last thing in its text, so every
    quote that a bare word has right behind it comes before. -/
inductive FirstFault (chunks : List Chunk) (open? : Option (List Char)) : Issue → Prop where
  | misplaced (h : Misplaced chunks open?) : FirstFault chunks open? .quoteWithinArgument
  | unclosed (h : ¬ Misplaced chunks open?) (isOpen : open?.isSome) :
      FirstFault chunks open? .unterminatedQuote

/-- Neither fault: every quote is closed, and none stands right behind a bare word. -/
def Faultless (chunks : List Chunk) (open? : Option (List Char)) : Prop :=
  open? = none ∧ ¬ Misplaced chunks open?

section Faults

variable {text rest : List Char} {chunk : Chunk} {chunks : List Chunk}
variable {open? : Option (List Char)}

theorem not_misplaced_nil : ¬ Misplaced [] open? := by
  rintro ⟨before, word, after, hsplit, -⟩
  simp at hsplit

theorem misplaced_cons :
    Misplaced (chunk :: chunks) open? ↔
      (∃ word, chunk = .bare word ∧ QuoteNext chunks open?) ∨ Misplaced chunks open? := by
  constructor
  · rintro ⟨before, word, after, hsplit, hnext⟩
    cases before with
    | nil =>
      obtain ⟨rfl, rfl⟩ := List.cons.inj hsplit
      exact Or.inl ⟨word, rfl, hnext⟩
    | cons first before =>
      obtain ⟨rfl, rfl⟩ := List.cons.inj hsplit
      exact Or.inr ⟨before, word, after, rfl, hnext⟩
  · rintro (⟨word, rfl, hnext⟩ | ⟨before, word, after, rfl, hnext⟩)
    · exact ⟨[], word, chunks, rfl, hnext⟩
    · exact ⟨chunk :: before, word, after, rfl, hnext⟩

theorem Chunked.quoteNext_iff (h : Chunked text chunks open?) :
    QuoteNext chunks open? ↔ text.head? = some '"' := by
  cases h with
  | done => simp [QuoteNext]
  | unclosed noQuote => simp [QuoteNext]
  | @cons _ _ chunk _ _ first behind =>
    obtain ⟨c, more, rfl, hstarts⟩ := first.exists_starts
    cases chunk with
    | gap blanks =>
      have hne : c ≠ '"' := by
        rintro rfl
        exact Bool.false_ne_true (isBlank_quote.symm.trans hstarts)
      simpa [QuoteNext] using hne
    | quoted content => simpa [QuoteNext] using of_decide_eq_true hstarts
    | bare word => simpa [QuoteNext] using (isBare_iff.1 hstarts).2

end Faults

/-! ## The reader against the grammar -/

section Reading

variable {text rest blanks : List Char} {chunk : Chunk} {chunks : List Chunk}
variable {open? : Option (List Char)}

/-- Between arguments a blank is passed over. -/
theorem readArguments_blank {c : Char} (hc : isBlank c = true) (rest : List Char) :
    readArguments false [] (c :: rest) = readArguments false [] rest := by
  have hne : c ≠ '"' := by
    rintro rfl
    exact Bool.false_ne_true (isBlank_quote.symm.trans hc)
  have hid : (finished [] ++ · : List String → List String) = id := rfl
  rw [readArguments, if_neg Bool.false_ne_true, if_neg hne, if_pos hc, hid, id_map]

theorem readArguments_blanks_append (h : ∀ c ∈ blanks, isBlank c = true) (rest : List Char) :
    readArguments false [] (blanks ++ rest) = readArguments false [] rest := by
  induction blanks with
  | nil => rfl
  | cons c more ih =>
    obtain ⟨hc, hmore⟩ := List.forall_mem_cons.1 h
    rw [List.cons_append, readArguments_blank hc, ih hmore]

/-- Between arguments a quote opens. -/
theorem readArguments_open (rest : List Char) :
    readArguments false [] ('"' :: rest) = readArguments true [] rest := rfl

/-- It is read up to the one that closes it, -/
theorem readArguments_quote {content : List Char} (h : '"' ∉ content) (word rest : List Char) :
    readArguments true word (content ++ '"' :: rest) =
      (finished (content.reverse ++ word) ++ ·) <$> readArguments false [] rest := by
  induction content generalizing word with
  | nil => rw [List.nil_append, readArguments, if_pos rfl, if_pos rfl]; rfl
  | cons c more ih =>
    obtain ⟨hne, hmore⟩ := not_or.1 (mt List.mem_cons.2 h)
    rw [List.cons_append, readArguments, if_pos rfl, if_neg (Ne.symm hne), ih hmore]
    simp

/-- and up to the end if none does. -/
theorem readArguments_unclosed {content : List Char} (h : '"' ∉ content) (word : List Char) :
    readArguments true word content = .error .unterminatedQuote := by
  induction content generalizing word with
  | nil => rw [readArguments, if_pos rfl]
  | cons c more ih =>
    obtain ⟨hne, hmore⟩ := not_or.1 (mt List.mem_cons.2 h)
    rw [readArguments, if_pos rfl, if_neg (Ne.symm hne), ih hmore]

/-- Blanks at the end of a text make no difference, wherever the reader is when it comes to them. -/
theorem readArguments_append_blanks (h : ∀ c ∈ blanks, isBlank c = true) (inQuote : Bool)
    (word text : List Char) :
    readArguments inQuote word (text ++ blanks) = readArguments inQuote word text := by
  induction text generalizing inQuote word with
  | nil =>
    have hquote : '"' ∉ blanks := fun hmem =>
      Bool.false_ne_true (isBlank_quote.symm.trans (h _ hmem))
    cases inQuote with
    | true =>
      -- No blank closes the quote.
      rw [List.nil_append, readArguments_unclosed hquote, readArguments, if_pos rfl]
    | false =>
      cases blanks with
      | nil => rfl
      | cons c more =>
        obtain ⟨hc, hmore⟩ := List.forall_mem_cons.1 h
        have hend : readArguments false [] more = .ok [] := by
          rw [← List.append_nil more, readArguments_blanks_append hmore]
          rfl
        have hne : c ≠ '"' := fun heq => hquote (heq ▸ List.mem_cons_self)
        have hstop : readArguments false word [] = .ok (finished word) := rfl
        rw [List.nil_append, hstop, readArguments, if_neg Bool.false_ne_true, if_neg hne,
          if_pos hc, hend]
        exact congrArg Except.ok (List.append_nil _)
  | cons c more ih =>
    rw [List.cons_append, readArguments, readArguments]
    simp only [ih]

theorem readArguments_trimEnd (text : List Char) :
    readArguments false [] (trimEnd text) = readArguments false [] text := by
  obtain ⟨blanks, hblank, hsplit⟩ := exists_eq_trimEnd_append text
  conv_rhs => rw [hsplit]
  exact (readArguments_append_blanks hblank false [] _).symm

theorem readArguments_trim (text : List Char) :
    readArguments false [] (trim text) = readArguments false [] text := by
  obtain ⟨blanks, hblank, hsplit⟩ := exists_eq_append_trimStart text
  conv_rhs => rw [hsplit]
  rw [readArguments_blanks_append hblank]
  exact readArguments_trimEnd _

theorem finished_reverse (word : List Char) :
    finished (word.reverse ++ []) = (Chunk.quoted word).argument?.toList := by
  unfold finished Chunk.argument?
  cases word with
  | nil => rfl
  | cons c more => simp

/-- **One chunk is read**: its argument comes first, and then those that are read behind it, -/
theorem FirstChunk.readArguments_eq (h : FirstChunk text chunk rest)
    (hplaced : ∀ word, chunk = .bare word → rest.head? ≠ some '"') :
    readArguments false [] text =
      (chunk.argument?.toList ++ ·) <$> readArguments false [] rest := by
  cases h with
  | gap nonempty blank maximal =>
    rw [readArguments_blanks_append blank]
    exact (id_map _).symm
  | quoted noQuote =>
    rw [readArguments_open, readArguments_quote noQuote, finished_reverse]
  | @bare word rest nonempty plain maximal =>
    have hfinished : finished (word.reverse ++ []) = [String.ofList word] := by
      rw [finished_reverse, Chunk.argument?, if_neg (by simpa using nonempty)]
      rfl
    rw [readArguments_append (fun c hc => (isBare_iff.1 (plain c hc)).1)
      (fun hmem => (isBare_iff.1 (plain _ hmem)).2 rfl)]
    cases rest with
    | nil =>
      rw [readArguments, readArguments, hfinished]
      rfl
    | cons c more =>
      have hne : c ≠ '"' := fun heq => hplaced word rfl (congrArg some heq)
      have hc : isBlank c = true := by
        have hend : isBare c = false := maximal c rfl
        by_contra hblank
        exact Bool.false_ne_true
          (hend.symm.trans (isBare_iff.2 ⟨Bool.eq_false_iff.2 hblank, hne⟩))
      rw [readArguments_blank hc, readArguments, if_neg Bool.false_ne_true, if_neg hne, if_pos hc,
        hfinished]
      rfl

/-- unless it is a bare word with a quote right behind it. -/
theorem FirstChunk.readArguments_misplaced {word : List Char}
    (h : FirstChunk text (.bare word) rest) (hquote : rest.head? = some '"') :
    readArguments false [] text = .error .quoteWithinArgument := by
  cases h with
  | bare nonempty plain maximal =>
    obtain ⟨more, rfl⟩ := List.head?_eq_some_iff.1 hquote
    rw [readArguments_append (fun c hc => (isBare_iff.1 (plain c hc)).1)
      (fun hmem => (isBare_iff.1 (plain _ hmem)).2 rfl), readArguments,
      if_neg Bool.false_ne_true, if_pos rfl, if_neg (by simpa using nonempty)]

/-! ### A whole text -/

theorem Chunked.readArguments_of_misplaced (h : Chunked text chunks open?)
    (hmisplaced : Misplaced chunks open?) :
    readArguments false [] text = .error .quoteWithinArgument := by
  induction h with
  | done => exact absurd hmisplaced not_misplaced_nil
  | unclosed noQuote => exact absurd hmisplaced not_misplaced_nil
  | @cons text rest chunk chunks open? first behind ih =>
    by_cases hhere : ∃ word, chunk = .bare word ∧ rest.head? = some '"'
    · obtain ⟨word, rfl, hquote⟩ := hhere
      exact first.readArguments_misplaced hquote
    · have hbehind : Misplaced chunks open? := by
        refine (misplaced_cons.1 hmisplaced).resolve_left ?_
        rintro ⟨word, hword, hnext⟩
        exact hhere ⟨word, hword, behind.quoteNext_iff.1 hnext⟩
      rw [first.readArguments_eq fun word hword hquote => hhere ⟨word, hword, hquote⟩, ih hbehind]
      rfl

/-- Where no quote is misplaced, what is left open decides. -/
theorem Chunked.readArguments_of_not_misplaced (h : Chunked text chunks open?)
    (hplaced : ¬ Misplaced chunks open?) :
    readArguments false [] text =
      if open?.isSome then .error .unterminatedQuote else .ok (chunks.filterMap Chunk.argument?) := by
  induction h with
  | done => rfl
  | unclosed noQuote =>
    rw [readArguments_open, readArguments_unclosed noQuote]
    rfl
  | @cons text rest chunk chunks open? first behind ih =>
    obtain ⟨hhere, hbehind⟩ := not_or.1 (mt misplaced_cons.2 hplaced)
    rw [first.readArguments_eq fun word hword hquote =>
      hhere ⟨word, hword, behind.quoteNext_iff.2 hquote⟩, ih hbehind]
    split
    · rfl
    · rw [List.filterMap_cons]
      cases chunk.argument? <;> rfl

/-- **Accepted**: a text without faults, and its arguments are those of its chunks. -/
theorem Chunked.readArguments_eq_ok_iff (h : Chunked text chunks open?) {args : List String} :
    readArguments false [] text = .ok args ↔
      Faultless chunks open? ∧ args = chunks.filterMap Chunk.argument? := by
  unfold Faultless
  by_cases hmisplaced : Misplaced chunks open?
  · rw [h.readArguments_of_misplaced hmisplaced]
    simp [hmisplaced]
  · rw [h.readArguments_of_not_misplaced hmisplaced]
    cases open? with
    | none => simp [hmisplaced, eq_comm]
    | some content => simp

/-- **Refused**: any other text, and the fault that comes first says why. -/
theorem Chunked.readArguments_eq_error_iff (h : Chunked text chunks open?) {issue : Issue} :
    readArguments false [] text = .error issue ↔ FirstFault chunks open? issue := by
  by_cases hmisplaced : Misplaced chunks open?
  · rw [h.readArguments_of_misplaced hmisplaced]
    constructor
    · rintro ⟨⟩
      exact .misplaced hmisplaced
    · intro hfault
      cases hfault with
      | misplaced _ => rfl
      | unclosed hplaced _ => exact absurd hmisplaced hplaced
  · rw [h.readArguments_of_not_misplaced hmisplaced]
    constructor
    · intro heq
      split at heq
      · next isOpen =>
        cases heq
        exact .unclosed hmisplaced isOpen
      · cases heq
    · intro hfault
      cases hfault with
      | misplaced h => exact absurd h hmisplaced
      | unclosed _ isOpen => rw [if_pos isOpen]

/-! ## Lines -/

/-- The keyword of a text, and what stands behind it. Only blanks are without a keyword. -/
structure Headed (text keyword remainder : List Char) : Prop where
  split : ∃ blanks, (∀ c ∈ blanks, isBlank c = true) ∧ text = blanks ++ (keyword ++ remainder)
  word : ∀ c ∈ keyword, isBlank c = false
  separated : ∀ c ∈ remainder.head?, isBlank c = true
  nothing : keyword = [] → remainder = []

/-- **How a line without an equals sign is laid out.** -/
def LaidOut (raw keyword : String) (chunks : List Chunk) (open? : Option (List Char)) : Prop :=
  ∃ remainder, Headed raw.toList keyword.toList remainder ∧ Chunked remainder chunks open?

variable {raw keyword keyword' : String} {chunks' : List Chunk} {open?' : Option (List Char)}

theorem exists_headed (text : List Char) : ∃ keyword remainder, Headed text keyword remainder := by
  obtain ⟨blanks, hblank, hsplit⟩ := exists_eq_append_trimStart text
  refine ⟨(trimStart text).takeWhile (!isBlank ·), (trimStart text).dropWhile (!isBlank ·), ?_⟩
  have hstart : ∀ c ∈ (trimStart text).head?, isBlank c = false := by
    intro c hc
    have hnot := List.head?_dropWhile_not isBlank text
    rw [show (text.dropWhile isBlank).head? = some c from hc] at hnot
    simpa using hnot
  constructor
  · exact ⟨blanks, hblank, by rwa [List.takeWhile_append_dropWhile]⟩
  · intro c hc
    simpa using List.mem_takeWhile_imp hc
  · intro c hc
    have hnot := List.head?_dropWhile_not (!isBlank ·) (trimStart text)
    rw [hc] at hnot
    simpa using hnot
  · intro hempty
    cases htrim : trimStart text with
    | nil => rfl
    | cons c more =>
      rw [htrim] at hempty hstart
      have hc : isBlank c = false := hstart c rfl
      simp [hc] at hempty

theorem Headed.head?_word {text keyword remainder : List Char} (h : Headed text keyword remainder) :
    ∀ c ∈ (keyword ++ remainder).head?, isBlank c = false := by
  intro c hc
  cases keyword with
  | nil => simp [h.nothing rfl] at hc
  | cons d more =>
    obtain rfl : d = c := by simpa using hc
    exact h.word d List.mem_cons_self

theorem Headed.unique {text keyword remainder keyword' remainder' : List Char}
    (h : Headed text keyword remainder) (h' : Headed text keyword' remainder') :
    keyword = keyword' ∧ remainder = remainder' := by
  obtain ⟨blanks, hblank, hsplit⟩ := h.split
  obtain ⟨blanks', hblank', hsplit'⟩ := h'.split
  obtain ⟨-, hsame⟩ :=
    run_unique hblank h.head?_word hblank' h'.head?_word (hsplit.symm.trans hsplit')
  have hword : ∀ {keyword remainder : List Char}, Headed text keyword remainder →
      (∀ c ∈ keyword, (!isBlank c) = true) ∧ ∀ c ∈ remainder.head?, (!isBlank c) = false := by
    intro keyword remainder h
    exact ⟨fun c hc => by simpa using h.word c hc, fun c hc => by simpa using h.separated c hc⟩
  exact run_unique (hword h).1 (hword h).2 (hword h').1 (hword h').2 hsame

theorem LaidOut.unique (h : LaidOut raw keyword chunks open?)
    (h' : LaidOut raw keyword' chunks' open?') :
    keyword = keyword' ∧ chunks = chunks' ∧ open? = open?' := by
  obtain ⟨remainder, hheaded, hchunked⟩ := h
  obtain ⟨remainder', hheaded', hchunked'⟩ := h'
  obtain ⟨hkeyword, rfl⟩ := hheaded.unique hheaded'
  exact ⟨String.toList_inj.1 hkeyword, hchunked.unique hchunked'⟩

theorem exists_laidOut (raw : String) : ∃ keyword chunks open?, LaidOut raw keyword chunks open? := by
  obtain ⟨keyword, remainder, hheaded⟩ := exists_headed raw.toList
  obtain ⟨chunks, open?, hchunked⟩ := exists_chunked remainder
  refine ⟨String.ofList keyword, chunks, open?, remainder, ?_, hchunked⟩
  rwa [String.toList_ofList]

/-- Trimming leaves the keyword, and takes from what stands behind it only blanks at the end. -/
theorem Headed.trim_eq {text keyword remainder : List Char} (h : Headed text keyword remainder) :
    trim text = keyword ++ trimEnd remainder := by
  obtain ⟨blanks, hblank, rfl⟩ := h.split
  rw [trim_blanks_append hblank]
  rcases List.eq_nil_or_concat' keyword with hkeyword | ⟨front, c, hkeyword⟩
  · rw [hkeyword, h.nothing hkeyword]
    rfl
  · have hword : ∀ d ∈ front ++ [c], isBlank d = false := hkeyword ▸ h.word
    have hfront : trimStart front = front := by
      cases front with
      | nil => rfl
      | cons d more => exact List.dropWhile_cons_of_neg (by simp [hword d (by simp)])
    rw [hkeyword, List.append_assoc, List.singleton_append, trim_append_cons (hword c (by simp)),
      hfront, List.append_assoc, List.singleton_append]

/-- **A line without an equals sign is read as its keyword and the arguments behind it.** -/
theorem Headed.read_eq {remainder : List Char} (h : Headed raw.toList keyword.toList remainder)
    (hequals : '=' ∉ raw.toList) :
    read raw = (⟨keyword, ·⟩) <$> readArguments false [] remainder := by
  have hnone : cutFirst? (· = '=') (trim raw.toList) = none := by
    refine cutFirst?_eq_none_iff.2 fun c hc => ?_
    rw [decide_eq_false_iff_not]
    rintro rfl
    exact hequals (mem_of_mem_trimStart (mem_of_mem_trimEnd hc))
  -- The keyword is cut off at the first blank, and the blank goes with it.
  have hcut : ∃ arguments, (cutFirst? isBlank (trim raw.toList)).getD (trim raw.toList, []) =
      (keyword.toList, arguments) ∧
        readArguments false [] arguments = readArguments false [] remainder := by
    rw [h.trim_eq, ← readArguments_trimEnd remainder]
    obtain ⟨blanks, -, hsplit⟩ := exists_eq_trimEnd_append remainder
    cases htrim : trimEnd remainder with
    | nil =>
      have hcut : cutFirst? isBlank (keyword.toList ++ []) = none :=
        cutFirst?_eq_none_iff.2 (by simpa using h.word)
      refine ⟨[], ?_, rfl⟩
      rw [hcut, Option.getD_none, List.append_nil]
    | cons c arguments =>
      rw [htrim] at hsplit
      have hc : isBlank c = true := h.separated c (by simp [hsplit])
      refine ⟨arguments, ?_, (readArguments_blank hc arguments).symm⟩
      rw [cutFirst?_append_cons h.word hc, Option.getD_some]
  obtain ⟨arguments, hcut, hsame⟩ := hcut
  unfold read
  dsimp only
  rw [hnone]
  dsimp only
  rw [hcut]
  dsimp only
  rw [readArguments_trim, hsame, String.ofList_toList]

theorem LaidOut.read_eq_ok_iff (h : LaidOut raw keyword chunks open?) (hequals : '=' ∉ raw.toList)
    {line : Line} :
    read raw = .ok line ↔
      Faultless chunks open? ∧ line = ⟨keyword, chunks.filterMap Chunk.argument?⟩ := by
  obtain ⟨remainder, hheaded, hchunked⟩ := h
  rw [hheaded.read_eq hequals]
  constructor
  · intro hread
    obtain ⟨args, hargs, rfl⟩ := exists_of_map_eq_ok hread
    obtain ⟨hfaultless, rfl⟩ := hchunked.readArguments_eq_ok_iff.1 hargs
    exact ⟨hfaultless, rfl⟩
  · rintro ⟨hfaultless, rfl⟩
    rw [hchunked.readArguments_eq_ok_iff.2 ⟨hfaultless, rfl⟩]
    rfl

theorem LaidOut.read_eq_error_iff (h : LaidOut raw keyword chunks open?)
    (hequals : '=' ∉ raw.toList) {issue : Issue} :
    read raw = .error issue ↔ FirstFault chunks open? issue := by
  obtain ⟨remainder, hheaded, hchunked⟩ := h
  rw [hheaded.read_eq hequals, ← hchunked.readArguments_eq_error_iff]
  cases readArguments false [] remainder with
  | ok args => simp
  | error issue' => simp

end Reading

/-! ## Writing arguments -/

/-- An argument as it can stand in a line: in quotes if there is a blank in it. -/
def spelledArgument (arg : String) : String :=
  if arg.toList.any isBlank then "\"" ++ arg ++ "\"" else arg

/-- A line in the form that has any number of arguments. -/
def spelled (line : Line) : String :=
  " ".intercalate (line.keyword :: line.args.map spelledArgument)

/-- A line that has such a form. -/
structure Spellable (line : Line) : Prop where
  keyword : line.keyword ≠ "" ∧ '=' ∉ line.keyword.toList ∧
    ∀ c ∈ line.keyword.toList, isBlank c = false
  args : ∀ arg ∈ line.args, arg ≠ "" ∧ '=' ∉ arg.toList ∧ '"' ∉ arg.toList

/-- The chunk that is written of an argument. -/
def spelledChunk (arg : String) : Chunk :=
  if arg.toList.any isBlank then .quoted arg.toList else .bare arg.toList

section Spelling

variable {arg : String} {line : Line} {rest : List Char}

theorem argument?_spelledChunk (h : arg ≠ "") : (spelledChunk arg).argument? = some arg := by
  have hne : ¬ arg.toList.isEmpty = true := by simpa using h
  unfold spelledChunk
  split
  · rw [Chunk.argument?, if_neg hne, String.ofList_toList]
  · rw [Chunk.argument?, String.ofList_toList]

theorem firstChunk_spelledArgument (hne : arg ≠ "") (hquote : '"' ∉ arg.toList)
    (hrest : ∀ c ∈ rest.head?, isBlank c = true) :
    FirstChunk ((spelledArgument arg).toList ++ rest) (spelledChunk arg) rest := by
  unfold spelledArgument spelledChunk
  split
  · have hsplit : ("\"" ++ arg ++ "\"").toList ++ rest = '"' :: (arg.toList ++ '"' :: rest) := by
      simp
    rw [hsplit]
    exact .quoted hquote
  · next hplain =>
    refine .bare (by simpa using hne) (fun c hc => isBare_iff.2 ⟨?_, ?_⟩) fun c hc => ?_
    · by_contra hblank
      exact hplain (List.any_eq_true.2 ⟨c, hc, by simpa using hblank⟩)
    · rintro rfl
      exact hquote hc
    · simp [isBare, hrest c hc]

theorem head?_spelledArgument (hne : arg ≠ "") :
    ∀ c ∈ ((spelledArgument arg).toList ++ rest).head?, isBlank c = false := by
  intro c hc
  unfold spelledArgument at hc
  split at hc
  · obtain rfl : '"' = c := by simpa using hc
    exact isBlank_quote
  · next hplain =>
    obtain ⟨d, more, hsplit⟩ := List.exists_cons_of_ne_nil (mt String.toList_eq_nil_iff.1 hne)
    rw [hsplit] at hc hplain
    obtain rfl : d = c := by simpa using hc
    rw [List.any_cons, Bool.or_eq_true] at hplain
    exact Bool.eq_false_iff.2 fun hblank => hplain (Or.inl hblank)

/-- What stands behind the keyword: a space before each argument. -/
theorem chunked_spelledArguments {args : List String}
    (h : ∀ arg ∈ args, arg ≠ "" ∧ '"' ∉ arg.toList) :
    Chunked (args.flatMap fun arg => ' ' :: (spelledArgument arg).toList)
      (args.flatMap fun arg => [.gap [' '], spelledChunk arg]) none := by
  induction args with
  | nil => exact .done
  | cons arg others ih =>
    obtain ⟨⟨hne, hquote⟩, hothers⟩ := List.forall_mem_cons.1 h
    have hgap : ∀ c ∈ [' '], isBlank c = true := List.forall_mem_singleton.2 (by decide)
    have hrest : ∀ c ∈ (others.flatMap fun arg => ' ' :: (spelledArgument arg).toList).head?,
        isBlank c = true := by
      cases others with
      | nil => simp
      | cons second more => simpa using hgap
    refine .cons (.gap (List.cons_ne_nil _ _) hgap (head?_spelledArgument hne))
      (.cons ?_ (ih hothers))
    exact firstChunk_spelledArgument hne hquote hrest

/-- Behind an argument comes a gap, or nothing. -/
theorem faultless_spelledChunks (args : List String) :
    Faultless (args.flatMap fun arg => [.gap [' '], spelledChunk arg]) none := by
  refine ⟨rfl, ?_⟩
  induction args with
  | nil => exact not_misplaced_nil
  | cons arg others ih =>
    have hnext : ¬ QuoteNext (others.flatMap fun arg => [.gap [' '], spelledChunk arg]) none := by
      cases others <;> simp [QuoteNext]
    rw [List.flatMap_cons, List.cons_append, misplaced_cons, List.singleton_append, misplaced_cons]
    rintro (⟨word, hgap, -⟩ | ⟨word, -, hquote⟩ | hbehind)
    · cases hgap
    · exact hnext hquote
    · exact ih hbehind

theorem filterMap_spelledChunks {args : List String} (h : ∀ arg ∈ args, arg ≠ "") :
    (args.flatMap fun arg => [.gap [' '], spelledChunk arg]).filterMap Chunk.argument? = args := by
  induction args with
  | nil => rfl
  | cons arg others ih =>
    obtain ⟨hne, hothers⟩ := List.forall_mem_cons.1 h
    rw [List.flatMap_cons, List.cons_append, List.singleton_append, List.filterMap_cons_none rfl,
      List.filterMap_cons_some (argument?_spelledChunk hne), ih hothers]

theorem intercalate_cons (separator : Char) (first : List Char) (others : List (List Char)) :
    [separator].intercalate (first :: others) = first ++ others.flatMap (separator :: ·) := by
  induction others generalizing first with
  | nil => simp
  | cons second rest ih =>
    rw [List.intercalate_cons_cons, ih, List.flatMap_cons]
    simp

theorem toList_spelled (line : Line) :
    line.spelled.toList =
      line.keyword.toList ++ line.args.flatMap fun arg => ' ' :: (spelledArgument arg).toList := by
  unfold spelled
  rw [String.toList_intercalate]
  show [' '].intercalate _ = _
  rw [List.map_cons, intercalate_cons]
  simp [List.flatMap_map]

theorem Spellable.laidOut (h : line.Spellable) :
    LaidOut line.spelled line.keyword
      (line.args.flatMap fun arg => [.gap [' '], spelledChunk arg]) none := by
  refine ⟨_, ⟨⟨[], by simp, toList_spelled line⟩, h.keyword.2.2, ?_, fun hempty => ?_⟩,
    chunked_spelledArguments fun arg harg => ⟨(h.args arg harg).1, (h.args arg harg).2.2⟩⟩
  · cases line.args with
    | nil => simp
    | cons arg others => simp; decide
  · exact absurd (String.toList_eq_nil_iff.1 hempty) h.keyword.1

theorem Spellable.noEquals (h : line.Spellable) : '=' ∉ line.spelled.toList := by
  rw [toList_spelled]
  intro hmem
  rcases List.mem_append.1 hmem with hmem | hmem
  · exact h.keyword.2.1 hmem
  · obtain ⟨arg, harg, hmem⟩ := List.mem_flatMap.1 hmem
    have hnot := (h.args arg harg).2.1
    unfold spelledArgument at hmem
    split at hmem <;> simp [hnot] at hmem

/-- **Lines that hold no equals sign, and no quotation mark in an argument, are read back** from
    what is spelled of them. -/
theorem Spellable.read_spelled (h : line.Spellable) : read line.spelled = .ok line := by
  refine (h.laidOut.read_eq_ok_iff h.noEquals).2 ⟨faultless_spelledChunks line.args, ?_⟩
  rw [filterMap_spelledChunks fun arg harg => (h.args arg harg).1]

end Spelling

/-! ## The grammar -/

/-- **What the reader of lines accepts, what it makes of that, and what it says of the rest.** A line
    without an equals sign is laid out in one way. It is accepted if its layout has no fault, and is
    then its keyword and the arguments among its chunks; otherwise the issue is that of the first
    fault. So every line that can be spelled is read back. -/
theorem read_by_the_grammar :
    (∀ raw : String, '=' ∉ raw.toList → ∃ keyword chunks open?,
      (∀ keyword' chunks' open?', LaidOut raw keyword' chunks' open?' ↔
        keyword' = keyword ∧ chunks' = chunks ∧ open?' = open?) ∧
      ((∃ line, read raw = .ok line) ↔ Faultless chunks open?) ∧
      (∀ line, read raw = .ok line → line = ⟨keyword, chunks.filterMap Chunk.argument?⟩) ∧
      ∀ issue, read raw = .error issue ↔ FirstFault chunks open? issue) ∧
    ∀ line : Line, line.Spellable → read line.spelled = .ok line := by
  constructor
  · intro raw hequals
    obtain ⟨keyword, chunks, open?, hlaid⟩ := exists_laidOut raw
    refine ⟨keyword, chunks, open?, fun keyword' chunks' open?' => ⟨fun h => h.unique hlaid, ?_⟩,
      ⟨?_, ?_⟩, ?_, fun issue => hlaid.read_eq_error_iff hequals⟩
    · rintro ⟨rfl, rfl, rfl⟩
      exact hlaid
    · rintro ⟨line, hread⟩
      exact ((hlaid.read_eq_ok_iff hequals).1 hread).1
    · intro hfaultless
      exact ⟨_, (hlaid.read_eq_ok_iff hequals).2 ⟨hfaultless, rfl⟩⟩
    · intro line hread
      exact ((hlaid.read_eq_ok_iff hequals).1 hread).2
  · intro line hspellable
    exact hspellable.read_spelled

/-- A word may follow a quote at once, and empty quotes pass nothing. -/
theorem forward_is_read_by_the_grammar :
    '=' ∉ "Forward a \"b c\"d \"\"".toList ∧
      (∃ chunks, LaidOut "Forward a \"b c\"d \"\"" "Forward" chunks none ∧
        chunks.filterMap Chunk.argument? = ["a", "b c", "d"]) ∧
      read (Line.spelled ⟨"Forward", ["a", "b c", "d"]⟩) = .ok ⟨"Forward", ["a", "b c", "d"]⟩ := by
  have hequals : '=' ∉ "Forward a \"b c\"d \"\"".toList := by decide
  have hread : read "Forward a \"b c\"d \"\"" = .ok ⟨"Forward", ["a", "b c", "d"]⟩ := by decide
  obtain ⟨keyword, chunks, open?, hlaid, hok, hline, -⟩ := read_by_the_grammar.1 _ hequals
  obtain ⟨rfl, hargs⟩ := Line.mk.inj (hline _ hread)
  obtain ⟨rfl, -⟩ := hok.1 ⟨_, hread⟩
  refine ⟨hequals, ⟨chunks, (hlaid _ _ _).2 ⟨rfl, rfl, rfl⟩, hargs.symm⟩, ?_⟩
  exact read_by_the_grammar.2 _ ⟨⟨by decide, by decide, by simp [isBlank]⟩, by decide⟩

end Line
end SshTemplate
