import Mathlib
import SshTemplate.Shell.Word

/-!
# `Proofs.Shell.Reading` — what a shell reads

Whether a text is quoted well is a question about its reader, so the reader is written here by
itself, after the grammar of the POSIX shell: how blanks and quotes make words, where a number
before `>` redirects an output, and which first words do not begin a simple command.

It decides in one direction only. What `readCommand` answers is a simple command in which nothing is
expanded, with these words and these redirections. Where it answers nothing, the text is some other
command or none at all: every character that can be special where it stands is refused, also where
a shell would in the end take it for itself.

`Spells` is what the two sides share: a written form spells a word if the reader, having read it, is
in the middle of that word, whatever comes next.
-/

set_option autoImplicit false

namespace SshTemplate
namespace Shell

/-! ## The reader -/

/-- What a character stands in. -/
inductive Quoting where
  | bare
  | single
  | double
  deriving DecidableEq

/-- A word that is being read: its characters, the last one first, and whether some of it was in
    quotes. Quotes begin a word before any of its characters. -/
structure Begun where
  word : List Char
  quoted : Bool

inductive Token where
  | word (text : List Char)
  /-- `n>`: the output that is numbered `n` goes to what follows. -/
  | output (descriptor : List Char)
  deriving DecidableEq

/-- The characters that can be special outside of quotes. -/
def special : List Char := "|&;<>()$\x60\\\"'*?[]#~\x7b\x7d!^".toList

/-- A character that is itself outside of quotes, wherever it stands in a word. Of the characters
    beyond ASCII none is taken, because the locale decides which of them are blank. -/
def isOrdinary (c : Char) : Bool :=
  decide (0x20 < c.toNat) && decide (c.toNat < 0x7F) && !special.contains c

/-- A character that is itself between double quotes. -/
def isOrdinaryInDouble (c : Char) : Bool := !("$\x60\\!".toList.contains c)

def Begun.push (begun : Option Begun) (c : Char) : Option Begun :=
  match begun with
  | none => some ⟨[c], false⟩
  | some ⟨word, quoted⟩ => some ⟨c :: word, quoted⟩

def Begun.openQuotes (begun : Option Begun) : Option Begun :=
  match begun with
  | none => some ⟨[], true⟩
  | some ⟨word, _⟩ => some ⟨word, true⟩

def Begun.finished (begun : Option Begun) : List Token :=
  match begun with
  | none => []
  | some ⟨word, _⟩ => [.word word.reverse]

/-- The number of an output, if `>` comes next: digits without quotes, right before it. -/
def Begun.descriptor? (begun : Option Begun) : Option (List Char) :=
  match begun with
  | some ⟨word, false⟩ => if word.all Char.isDigit then some word.reverse else none
  | _ => none

/-- Reads tokens from the middle of a word, or from before one. -/
def tokens (quoting : Quoting) (begun : Option Begun) : List Char → Option (List Token)
  | [] => if quoting = .bare then some (Begun.finished begun) else none
  | c :: rest =>
    match quoting with
    | .single =>
      if c = '\'' then tokens .bare begun rest else tokens .single (Begun.push begun c) rest
    | .double =>
      if c = '"' then tokens .bare begun rest
      else if isOrdinaryInDouble c then tokens .double (Begun.push begun c) rest
      else none
    | .bare =>
      if c = ' ' || c = '\t' then (Begun.finished begun ++ ·) <$> tokens .bare none rest
      else if c = '\'' then tokens .single (Begun.openQuotes begun) rest
      else if c = '"' then tokens .double (Begun.openQuotes begun) rest
      else if c = '>' then
        (Begun.descriptor? begun).bind fun descriptor =>
          (.output descriptor :: ·) <$> tokens .bare none rest
      else if isOrdinary c then tokens .bare (Begun.push begun c) rest
      else none

/-- A simple command. -/
structure Command where
  words : List String
  /-- Numbers of outputs, and the files that they go to. -/
  outputs : List (String × String)
  deriving DecidableEq

def Command.ofTokens : List Token → Option Command
  | [] => some ⟨[], []⟩
  | .word text :: rest =>
    (ofTokens rest).map fun command => ⟨String.ofList text :: command.words, command.outputs⟩
  | .output descriptor :: .word target :: rest =>
    (ofTokens rest).map fun command =>
      ⟨command.words, (String.ofList descriptor, String.ofList target) :: command.outputs⟩
  | .output _ :: _ => none

/-- The words that are reserved where a command is expected. -/
def reserved : List String :=
  ["case", "do", "done", "elif", "else", "esac", "fi", "for", "function", "if", "in", "select",
    "then", "time", "until", "while"]

/-- A first word with an equals sign may be an assignment. -/
def namesCommand (word : String) : Bool := !word.toList.contains '=' && !reserved.contains word

/-- Reads a text as a simple command in which nothing is expanded. -/
def readCommand (text : String) : Option Command :=
  match (tokens .bare none text.toList).bind Command.ofTokens with
  | some ⟨first :: words, outputs⟩ =>
    if namesCommand first then some ⟨first :: words, outputs⟩ else none
  | _ => none

/-! ## Spelling a word -/

/-- Having read what is written, the reader is in the middle of the word, whatever comes next. -/
def Spells (written word : List Char) : Prop :=
  ∃ quoted, ∀ rest,
    tokens .bare none (written ++ rest) = tokens .bare (some ⟨word.reverse, quoted⟩) rest

/-- A blank ends the word. -/
theorem Spells.tokens_append_space {written word : List Char} (h : Spells written word)
    (rest : List Char) :
    tokens .bare none (written ++ ' ' :: rest) = (.word word :: ·) <$> tokens .bare none rest := by
  obtain ⟨quoted, hread⟩ := h
  rw [hread]
  simp [tokens, Begun.finished]

theorem isOrdinary_ne {c : Char} (h : isOrdinary c = true) :
    c ≠ ' ' ∧ c ≠ '\t' ∧ c ≠ '\'' ∧ c ≠ '"' ∧ c ≠ '>' := by
  refine ⟨?_, ?_, ?_, ?_, ?_⟩ <;> (rintro rfl; exact absurd h (by decide))

theorem tokens_ordinary {chars : List Char} (h : ∀ c ∈ chars, isOrdinary c = true)
    (word : List Char) (quoted : Bool) (rest : List Char) :
    tokens .bare (some ⟨word, quoted⟩) (chars ++ rest) =
      tokens .bare (some ⟨chars.reverse ++ word, quoted⟩) rest := by
  induction chars generalizing word with
  | nil => rfl
  | cons c more ih =>
    obtain ⟨hc, hmore⟩ := List.forall_mem_cons.1 h
    obtain ⟨hspace, htab, hsingle, hdouble, houtput⟩ := isOrdinary_ne hc
    rw [List.cons_append, tokens]
    simp only [hspace, htab, hsingle, hdouble, houtput, hc, decide_false, Bool.or_self,
      Bool.false_eq_true, if_false, if_true, Begun.push]
    rw [ih hmore]
    simp

/-- Ordinary characters spell themselves. -/
theorem spells_of_ordinary {chars : List Char} (hne : chars ≠ [])
    (h : ∀ c ∈ chars, isOrdinary c = true) : Spells chars chars := by
  obtain ⟨c, more, rfl⟩ := List.exists_cons_of_ne_nil hne
  obtain ⟨hc, hmore⟩ := List.forall_mem_cons.1 h
  obtain ⟨hspace, htab, hsingle, hdouble, houtput⟩ := isOrdinary_ne hc
  refine ⟨false, fun rest => ?_⟩
  rw [List.cons_append, tokens]
  simp only [hspace, htab, hsingle, hdouble, houtput, hc, decide_false, Bool.or_self,
    Bool.false_eq_true, if_false, if_true, Begun.push]
  rw [tokens_ordinary hmore]
  simp

/-! ## Quoted words -/

/-- A quoted character is read as itself, also the one that cannot stand between the quotes. -/
theorem tokens_quoteChar (c : Char) (word rest : List Char) :
    tokens .single (some ⟨word, true⟩) (quoteChar c ++ rest) =
      tokens .single (some ⟨c :: word, true⟩) rest := by
  unfold quoteChar
  by_cases hc : c = '\''
  · subst hc
    rw [if_pos rfl]
    simp [tokens, Begun.push, Begun.openQuotes, isOrdinaryInDouble]
  · rw [if_neg hc, List.singleton_append, tokens]
    simp only [hc, if_false, Begun.push]

theorem tokens_quoted (chars word rest : List Char) :
    tokens .single (some ⟨word, true⟩) (chars.flatMap quoteChar ++ rest) =
      tokens .single (some ⟨chars.reverse ++ word, true⟩) rest := by
  induction chars generalizing word with
  | nil => rfl
  | cons c more ih =>
    rw [List.flatMap_cons, List.append_assoc, tokens_quoteChar, ih]
    simp

/-- **Whatever stands between the quotes is spelled**, if each of its characters is quoted. -/
theorem spells_quoted (chars : List Char) :
    Spells ('\'' :: chars.flatMap quoteChar ++ ['\'']) chars := by
  refine ⟨true, fun rest => ?_⟩
  have hopen : tokens .bare none ('\'' :: (chars.flatMap quoteChar ++ '\'' :: rest)) =
      tokens .single (some ⟨[], true⟩) (chars.flatMap quoteChar ++ '\'' :: rest) := by
    simp [tokens, Begun.openQuotes]
  rw [List.append_assoc, List.cons_append, List.singleton_append, hopen, tokens_quoted, tokens]
  simp

theorem toNat_of_isPlain {c : Char} (h : isPlain c = true) : 0x20 < c.toNat ∧ c.toNat < 0x7F := by
  have hmarks : ("@%+=:,./-_".toList.all fun d => 0x20 < d.toNat ∧ d.toNat < 0x7F) = true := by
    decide
  have hval : c.toNat = c.val.toNat := rfl
  simp only [isPlain, Char.isAlphanum, Char.isAlpha, Char.isUpper, Char.isLower, Char.isDigit,
    UInt32.le_iff_toNat_le, Bool.or_eq_true, Bool.and_eq_true, decide_eq_true_eq,
    List.contains_iff_mem] at h
  rcases h with h | h
  · simp at h
    omega
  · exact of_decide_eq_true (List.all_eq_true.1 hmarks c h)

theorem isOrdinary_of_isPlain {c : Char} (h : isPlain c = true) : isOrdinary c = true := by
  have hspecial : (special.all fun d => !isPlain d) = true := by decide
  have hnot : c ∉ special := fun hmem => absurd (List.all_eq_true.1 hspecial c hmem) (by simp [h])
  obtain ⟨hlow, hhigh⟩ := toNat_of_isPlain h
  simp [isOrdinary, hlow, hhigh, hnot]

/-- **A quoted text spells the text.** -/
theorem spells_quote (value : String) : Spells (quote value).toList value.toList := by
  unfold quote
  split
  · next hempty =>
    obtain rfl : value = "" := by simpa using hempty
    exact spells_quoted []
  · next hempty =>
    split
    · next hplain =>
      refine spells_of_ordinary (fun hnil => hempty ?_) fun c hc => ?_
      · simp [String.toList_eq_nil_iff.1 hnil]
      · exact isOrdinary_of_isPlain (List.all_eq_true.1 hplain c hc)
    · rw [String.toList_ofList]
      exact spells_quoted value.toList

/-! ## The command of a gateway -/

/-- **The word between `ssh` and `nc` is the one that is spelled there**, whatever it is. -/
theorem readCommand_of_spells {written word : String} (h : Spells written.toList word.toList) :
    readCommand ("ssh " ++ written ++ " nc %h %p 2> /dev/null") =
      some ⟨["ssh", word, "nc", "%h", "%p"], [("2", "/dev/null")]⟩ := by
  have hchars : ("ssh " ++ written ++ " nc %h %p 2> /dev/null").toList =
      "ssh".toList ++ ' ' :: (written.toList ++ ' ' :: "nc %h %p 2> /dev/null".toList) := by
    simp
  have hordinary : "ssh".toList.all isOrdinary = true := by decide
  have hfirst : Spells "ssh".toList "ssh".toList :=
    spells_of_ordinary (by decide) (List.all_eq_true.1 hordinary)
  have hlast : tokens .bare none "nc %h %p 2> /dev/null".toList =
      some [.word "nc".toList, .word "%h".toList, .word "%p".toList, .output ['2'],
        .word "/dev/null".toList] := by
    decide
  have hnames : namesCommand "ssh" = true := by decide
  unfold readCommand
  rw [hchars, hfirst.tokens_append_space, h.tokens_append_space, hlast]
  simp only [Option.map_eq_map, Option.map_some, Option.bind_some, Command.ofTokens,
    String.ofList_toList]
  rw [if_pos hnames]

end Shell
end SshTemplate
