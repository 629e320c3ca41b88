import SshTemplate.Proofs.Shell.Reading

/-!
# `Proofs.Shell.Words` — a quoted text in any command line

`Shell.Reading` knows simple commands, and gives up on every other one. Here is the rule by which a
shell takes any command line apart (POSIX, "Token Recognition" and "Quoting"): characters outside of
quotes end words, are operators, begin comments or open quotes, and a word keeps of each of its
characters whether it was quoted. An expansion is not carried out. Its characters are in their word
without a quote over them, and so the word is not literal. The reader still gives up on what has a
grammar of its own, within which quotes are read otherwise: command substitution, braces behind a
dollar sign and here-documents.

Reading goes on behind a blank as it began, unless a quote or a comment is open (`lexemes_append`).
Whatever the reader of simple commands answers, this one does, and its words are literal
(`lexemes_of_tokens`). Together they put what is known of a quoted text by itself into any line.
-/

set_option autoImplicit false

namespace SshTemplate
namespace Shell

/-! ## The reader -/

/-- A character of a word, and whether it was quoted. -/
structure Mark where
  char : Char
  quoted : Bool
  deriving DecidableEq

inductive Lexeme where
  | word (marks : List Mark)
  /-- A character of an operator. A line break is one as well. -/
  | operator (c : Char)
  | comment
  deriving DecidableEq

/-- **What is left of a word when its quotes are removed**, if nothing in it is expanded. -/
def Lexeme.literal? : Lexeme → Option (List Char)
  | word marks =>
    if marks.all fun mark => mark.quoted || isOrdinary mark.char then some (marks.map (·.char))
    else none
  | _ => none

/-- What the next character stands in. -/
inductive Within where
  | bare
  /-- Behind a backslash. -/
  | escaped
  | single
  | double
  /-- Behind a backslash in double quotes. -/
  | doubleEscaped
  | comment
  deriving DecidableEq

/-- Where the reader is, and the word that it is in, the last mark first. -/
structure State where
  within : Within
  begun : Option (List Mark)

namespace State

/-- Between words. -/
def start : State := ⟨.bare, none⟩

/-- The word that ends here. -/
def finished (s : State) : List Lexeme := s.begun.toList.map fun marks => .word marks.reverse

/-- Quotes begin a word before any of its characters. -/
def opened (s : State) (within : Within) : State := ⟨within, some (s.begun.getD [])⟩

def pushed (s : State) (within : Within) (char : Char) (quoted : Bool) : State :=
  ⟨within, some (⟨char, quoted⟩ :: s.begun.getD [])⟩

end State

def separates (c : Char) : Bool := c = ' ' || c = '\t'

def operators : List Char := "|&;<>()\n".toList

/-- A character that begins a construct with a grammar of its own: a backquote, or a dollar sign in
    front of one of `behindDollar`. -/
def beginsConstruct (behindDollar : List Char) (c : Char) (next? : Option Char) : Bool :=
  c = '\x60' || (c = '$' && next?.any behindDollar.contains)

/-- Reads a character. `next?` is the one behind it. -/
def step (s : State) (c : Char) (next? : Option Char) : Option (List Lexeme × State) :=
  match s.within with
  | .bare =>
    if separates c then some (s.finished, .start)
    else if c = '<' && next? = some '<' then none
    else if operators.contains c then some (s.finished ++ [.operator c], .start)
    else if c = '#' && s.begun.isNone then some ([], ⟨.comment, none⟩)
    else if c = '\'' then some ([], s.opened .single)
    else if c = '"' then some ([], s.opened .double)
    else if c = '\\' then some ([], ⟨.escaped, s.begun⟩)
    else if beginsConstruct "(\x7b'\"".toList c next? then none
    else some ([], s.pushed .bare c false)
  | .escaped =>
    -- A line break is taken out with its backslash.
    if c = '\n' then some ([], ⟨.bare, s.begun⟩) else some ([], s.pushed .bare c true)
  | .single =>
    if c = '\'' then some ([], ⟨.bare, s.begun⟩) else some ([], s.pushed .single c true)
  | .double =>
    if c = '"' then some ([], ⟨.bare, s.begun⟩)
    else if c = '\\' then some ([], ⟨.doubleEscaped, s.begun⟩)
    else if beginsConstruct "(\x7b".toList c next? then none
    else some ([], s.pushed .double c (c != '$'))
  | .doubleEscaped =>
    if c = '\n' then some ([], ⟨.double, s.begun⟩)
    else if "$\x60\"\\".toList.contains c then some ([], s.pushed .double c true)
    else some ([], (s.pushed .double '\\' true).pushed .double c true)
  | .comment => some (if c = '\n' then ([.comment, .operator '\n'], .start) else ([], s))

/-- Reads a command line to its end. -/
def lexemes (s : State) : List Char → Option (List Lexeme)
  | [] =>
    match s.within with
    | .bare => some s.finished
    | .comment => some [.comment]
    | _ => none
  | c :: rest =>
    (step s c rest.head?).bind fun next => (next.1 ++ ·) <$> lexemes next.2 rest

section Reading

variable {s s' : State} {c : Char} {emitted before : List Lexeme} {front rest : List Char}

theorem lexemes_cons (h : step s c rest.head? = some (emitted, s')) :
    lexemes s (c :: rest) = (emitted ++ ·) <$> lexemes s' rest := by
  rw [lexemes, h, Option.bind_some]

theorem exists_of_lexemes_cons (h : lexemes s (c :: rest) = some before) :
    ∃ emitted s' more, step s c rest.head? = some (emitted, s') ∧ lexemes s' rest = some more ∧
      before = emitted ++ more := by
  rw [lexemes, Option.bind_eq_some_iff] at h
  obtain ⟨⟨emitted, s'⟩, hstep, hbehind⟩ := h
  obtain ⟨more, hmore, hsame⟩ := Option.map_eq_some_iff.1 hbehind
  exact ⟨emitted, s', more, hstep, hmore, hsame.symm⟩

/-- A blank that comes next makes no more difference than the end of the text. -/
theorem step_separator {b : Char} (hb : separates b = true) (s : State) (c : Char) :
    step s c (some b) = step s c none := by
  have hb' : b = ' ' ∨ b = '\t' := by simpa [separates] using hb
  have hconstruct : ∀ behindDollar : List Char, behindDollar.contains b = false →
      beginsConstruct behindDollar c (some b) = beginsConstruct behindDollar c none := by
    intro behindDollar hnot
    simp only [beginsConstruct, Option.any_some, hnot, Option.any_none]
  have hbare : "(\x7b'\"".toList.contains b = false := by
    rcases hb' with rfl | rfl <;> decide
  have hdouble : "(\x7b".toList.contains b = false := by
    rcases hb' with rfl | rfl <;> decide
  have hless : ¬ some b = some '<' := by
    rcases hb' with rfl | rfl <;> decide
  unfold step
  cases s.within with
  | bare => simp only [hconstruct _ hbare, hless, reduceCtorEq]
  | double => simp only [hconstruct _ hdouble]
  | escaped => rfl
  | single => rfl
  | doubleEscaped => rfl
  | comment => rfl

/-- Between words a blank is passed over. -/
theorem lexemes_separator {b : Char} (hb : separates b = true) (rest : List Char) :
    lexemes .start (b :: rest) = lexemes .start rest := by
  have hstep : step .start b rest.head? = some ([], .start) := by
    unfold step
    exact if_pos hb
  rw [lexemes_cons hstep]
  exact id_map _

/-- **Behind a blank, reading goes on as it began**, if what stands before it can be read to its end
    and does not end in a comment. -/
theorem lexemes_append {b : Char} (hb : separates b = true) (h : lexemes s front = some before)
    (hcomment : before.getLast? ≠ some .comment) (rest : List Char) :
    lexemes s (front ++ b :: rest) = (before ++ ·) <$> lexemes .start rest := by
  induction front generalizing s before with
  | nil =>
    rw [List.nil_append]
    unfold lexemes at h
    split at h
    · next hbare =>
      cases h
      refine lexemes_cons ?_
      unfold step
      rw [hbare]
      exact if_pos hb
    · cases h
      exact absurd rfl hcomment
    · cases h
  | cons c more ih =>
    obtain ⟨emitted, s', behind, hstep, hbehind, rfl⟩ := exists_of_lexemes_cons h
    have hcomment' : behind.getLast? ≠ some .comment := by
      intro hlast
      exact hcomment (by rw [List.getLast?_append, hlast]; rfl)
    -- The last character of the front has the blank behind it now, where it had nothing.
    have hstep' : step s c (more ++ b :: rest).head? = some (emitted, s') := by
      cases more with
      | nil => exact (step_separator hb s c).trans hstep
      | cons d more => exact hstep
    rw [List.cons_append, lexemes_cons hstep', ih hbehind hcomment']
    cases lexemes .start rest with
    | none => rfl
    | some lexemes => simp

end Reading

/-! ## Simple commands -/

/-- What a lexeme is to the reader of simple commands: a word, or `>`. -/
inductive Part where
  | word (text : List Char)
  | operator (c : Char)

def Lexeme.part? : Lexeme → Option Part
  | word marks => (word marks).literal?.map .word
  | operator c => some (.operator c)
  | comment => none

def Token.parts : Token → List Part
  | word text => [.word text]
  | output descriptor => [.word descriptor, .operator '>']

def Quoting.within : Quoting → Within
  | bare => .bare
  | single => .single
  | double => .double

/-- The word that is being read is the same, and nothing in it is expanded. -/
inductive Begun.Matches : Option Begun → Option (List Mark) → Prop where
  | between : Matches none none
  | inWord (marks : List Mark) (quoted : Bool)
      (literal : ∀ mark ∈ marks, (mark.quoted || isOrdinary mark.char) = true) :
      Matches (some ⟨marks.map (·.char), quoted⟩) (some marks)

/-- What the two readers make of a text is the same. -/
def Agree (tokens : List Token) (lexemes : List Lexeme) : Prop :=
  lexemes.map Lexeme.part? = (tokens.flatMap Token.parts).map some

section Simple

variable {begun : Option Begun} {s : State} {tokens' : List Token} {lexemes' : List Lexeme}
variable {text : List Char}

theorem Begun.Matches.opened (h : Begun.Matches begun s.begun) (within : Within) :
    Begun.Matches (Begun.openQuotes begun) (s.opened within).begun := by
  obtain ⟨_, marks?⟩ := s
  cases h with
  | between => exact .inWord [] true (by simp)
  | inWord marks quoted literal => exact .inWord marks true literal

theorem Begun.Matches.pushed (h : Begun.Matches begun s.begun) (within : Within) {c : Char}
    {quoted : Bool} (hliteral : (quoted || isOrdinary c) = true) :
    Begun.Matches (Begun.push begun c) (s.pushed within c quoted).begun := by
  obtain ⟨_, marks?⟩ := s
  cases h with
  | between => exact .inWord [⟨c, quoted⟩] false (List.forall_mem_singleton.2 hliteral)
  | inWord marks quoted' literal =>
    exact .inWord (⟨c, quoted⟩ :: marks) quoted' (List.forall_mem_cons.2 ⟨hliteral, literal⟩)

theorem literal?_word {marks : List Mark}
    (h : ∀ mark ∈ marks, (mark.quoted || isOrdinary mark.char) = true) :
    (Lexeme.word marks).literal? = some (marks.map (·.char)) :=
  if_pos (List.all_eq_true.2 h)

theorem Begun.Matches.finished (h : Begun.Matches begun s.begun) :
    Agree (Begun.finished begun) s.finished := by
  obtain ⟨_, marks?⟩ := s
  cases h with
  | between => rfl
  | inWord marks quoted literal =>
    have hreverse := literal?_word fun mark hmark => literal mark (List.mem_reverse.1 hmark)
    simp [Agree, State.finished, Begun.finished, Lexeme.part?, Token.parts, hreverse]

theorem Agree.append (h : Agree tokens' lexemes') {moreTokens : List Token}
    {moreLexemes : List Lexeme} (hmore : Agree moreTokens moreLexemes) :
    Agree (tokens' ++ moreTokens) (lexemes' ++ moreLexemes) := by
  unfold Agree at *
  rw [List.map_append, h, hmore, List.flatMap_append, List.map_append]

theorem step_ordinary {c : Char} (h : isOrdinary c = true) (hbare : s.within = .bare)
    (next? : Option Char) : step s c next? = some ([], s.pushed .bare c false) := by
  have hne : ∀ {d : Char}, isOrdinary d = false → c ≠ d := by
    rintro d hd rfl
    exact Bool.false_ne_true (hd.symm.trans h)
  have hblank : separates c = false := by
    simp [separates, hne (by decide : isOrdinary ' ' = false),
      hne (by decide : isOrdinary '\t' = false)]
  have hoperator : c ∉ operators := by
    intro hmem
    have hall : (operators.all fun d => !isOrdinary d) = true := by decide
    simpa [h] using List.all_eq_true.1 hall c hmem
  unfold step
  rw [hbare]
  simp [hblank, hoperator, beginsConstruct, hne (by decide : isOrdinary '<' = false),
    hne (by decide : isOrdinary '#' = false), hne (by decide : isOrdinary '\'' = false),
    hne (by decide : isOrdinary '"' = false), hne (by decide : isOrdinary '\\' = false),
    hne (by decide : isOrdinary '$' = false), hne (by decide : isOrdinary '\x60' = false)]

theorem step_ordinaryInDouble {c : Char} (h : isOrdinaryInDouble c = true) (hquote : c ≠ '"')
    (hdouble : s.within = .double) (next? : Option Char) :
    step s c next? = some ([], s.pushed .double c true) := by
  have hne : ∀ {d : Char}, isOrdinaryInDouble d = false → c ≠ d := by
    rintro d hd rfl
    exact Bool.false_ne_true (hd.symm.trans h)
  have hdollar : c ≠ '$' := hne (by decide)
  unfold step
  rw [hdouble]
  simp [hquote, hdollar, beginsConstruct, bne_iff_ne.2 hdollar,
    hne (by decide : isOrdinaryInDouble '\\' = false),
    hne (by decide : isOrdinaryInDouble '\x60' = false)]

/-- Having read the character, both readers stand where they can go on together. -/
inductive Follows (s : State) (c : Char) (rest : List Char) : List Token → Prop where
  | step {first more : List Token} {quoting : Quoting} {begun : Option Begun}
      {emitted : List Lexeme} {s' : State} (reads : tokens quoting begun rest = some more)
      (steps : Shell.step s c rest.head? = some (emitted, s')) (agree : Agree first emitted)
      (within : s'.within = quoting.within) (same : Begun.Matches begun s'.begun) :
      Follows s c rest (first ++ more)

/-- Where no word ends, nothing comes out of either reader. -/
theorem follows_of_step {c : Char} {s' : State} {quoting : Quoting} {begun' : Option Begun}
    (hread : tokens quoting begun' text = some tokens')
    (hstep : step s c text.head? = some ([], s')) (hwithin : s'.within = quoting.within)
    (hbegun : Begun.Matches begun' s'.begun) : Follows s c text tokens' := by
  have hnothing : Agree [] [] := rfl
  exact .step hread hstep hnothing hwithin hbegun

theorem follows_single {c : Char} (hwithin : s.within = .single)
    (hbegun : Begun.Matches begun s.begun) (h : tokens .single begun (c :: text) = some tokens') :
    Follows s c text tokens' := by
  have hstep : step s c text.head? =
      if c = '\'' then some ([], ⟨.bare, s.begun⟩) else some ([], s.pushed .single c true) := by
    unfold step
    rw [hwithin]
  rw [tokens] at h
  split_ifs at h hstep with hquote
  · exact follows_of_step h hstep rfl hbegun
  · exact follows_of_step h hstep rfl (hbegun.pushed .single rfl)

theorem follows_double {c : Char} (hwithin : s.within = .double)
    (hbegun : Begun.Matches begun s.begun) (h : tokens .double begun (c :: text) = some tokens') :
    Follows s c text tokens' := by
  rw [tokens] at h
  split_ifs at h with hquote hordinary
  · have hstep : step s c text.head? = some ([], ⟨.bare, s.begun⟩) := by
      unfold step
      rw [hwithin]
      exact if_pos hquote
    exact follows_of_step h hstep rfl hbegun
  · exact follows_of_step h (step_ordinaryInDouble hordinary hquote hwithin _) rfl
      (hbegun.pushed .double rfl)

/-- The digits before `>` are a word to the shell as well. -/
theorem Begun.Matches.descriptor (h : Begun.Matches begun s.begun) {descriptor : List Char}
    (hdescriptor : Begun.descriptor? begun = some descriptor) :
    Agree [.output descriptor] (s.finished ++ [.operator '>']) := by
  have hword : Begun.finished begun = [.word descriptor] := by
    unfold Begun.descriptor? at hdescriptor
    split at hdescriptor
    · next word =>
      split_ifs at hdescriptor
      obtain rfl := Option.some.inj hdescriptor
      rfl
    · cases hdescriptor
  have hfinished := h.finished
  rw [hword] at hfinished
  unfold Agree at *
  rw [List.map_append, hfinished]
  rfl

theorem follows_bare {c : Char} (hwithin : s.within = .bare)
    (hbegun : Begun.Matches begun s.begun) (h : tokens .bare begun (c :: text) = some tokens') :
    Follows s c text tokens' := by
  have hstart : Begun.Matches none State.start.begun := .between
  rw [tokens] at h
  split_ifs at h with hblank hsingle hdouble houtput hordinary
  · have hstep : step s c text.head? = some (s.finished, .start) := by
      unfold step
      rw [hwithin]
      exact if_pos hblank
    obtain ⟨more, hmore, rfl⟩ := Option.map_eq_some_iff.1 h
    exact .step hmore hstep hbegun.finished rfl hstart
  · subst hsingle
    have hstep : step s '\'' text.head? = some ([], s.opened .single) := by
      unfold step
      rw [hwithin]
      rfl
    exact follows_of_step h hstep rfl (hbegun.opened .single)
  · subst hdouble
    have hstep : step s '"' text.head? = some ([], s.opened .double) := by
      unfold step
      rw [hwithin]
      rfl
    exact follows_of_step h hstep rfl (hbegun.opened .double)
  · subst houtput
    have hstep : step s '>' text.head? = some (s.finished ++ [.operator '>'], .start) := by
      unfold step
      rw [hwithin]
      rfl
    obtain ⟨descriptor, hdescriptor, hread⟩ := Option.bind_eq_some_iff.1 h
    obtain ⟨more, hmore, rfl⟩ := Option.map_eq_some_iff.1 hread
    exact .step hmore hstep (hbegun.descriptor hdescriptor) rfl hstart
  · exact follows_of_step h (step_ordinary hordinary hwithin _) rfl
      (hbegun.pushed .bare (by simp [hordinary]))

/-- **Whatever the reader of simple commands answers is what the shell reads.** -/
theorem lexemes_of_tokens {quoting : Quoting} (hwithin : s.within = quoting.within)
    (hbegun : Begun.Matches begun s.begun) (h : tokens quoting begun text = some tokens') :
    ∃ lexemes', lexemes s text = some lexemes' ∧ Agree tokens' lexemes' := by
  induction text generalizing quoting begun s tokens' with
  | nil =>
    unfold tokens at h
    split_ifs at h with hbare
    obtain rfl := Option.some.inj h
    refine ⟨s.finished, ?_, hbegun.finished⟩
    unfold lexemes
    rw [hwithin, hbare]
    rfl
  | cons c rest ih =>
    have hfollows : Follows s c rest tokens' := by
      cases quoting with
      | bare => exact follows_bare hwithin hbegun h
      | single => exact follows_single hwithin hbegun h
      | double => exact follows_double hwithin hbegun h
    cases hfollows with
    | step reads steps agree within same =>
      obtain ⟨more, hread, hagree⟩ := ih within same reads
      refine ⟨_, ?_, agree.append hagree⟩
      rw [lexemes_cons steps, hread]
      rfl

end Simple

/-! ## Quoted texts -/

/-- The word that a quoted text is. -/
theorem exists_lexemes_quote (value : String) :
    ∃ marks, (Lexeme.word marks).literal? = some value.toList ∧
      lexemes .start (quote value).toList = some [.word marks] := by
  obtain ⟨quoted, hspells⟩ := spells_quote value
  have htokens : tokens .bare none (quote value).toList = some [.word value.toList] := by
    have hread := hspells []
    rw [List.append_nil] at hread
    rw [hread, tokens, if_pos rfl, Begun.finished, List.reverse_reverse]
  obtain ⟨lexemes', hread, hagree⟩ := lexemes_of_tokens (s := .start) rfl .between htokens
  obtain ⟨lexeme, rfl, hpart⟩ := List.map_eq_singleton_iff.1 hagree
  cases lexeme with
  | word marks =>
    obtain ⟨text, hliteral, hsame⟩ := Option.map_eq_some_iff.1 hpart
    cases hsame
    exact ⟨marks, hliteral, hread⟩
  | operator c => cases hpart
  | comment => cases hpart

/-- **A quoted text is one word, whatever it is and wherever it stands.** The shell reads it as a
    word in which nothing is expanded and that is the text when the quotes are removed; and so it
    does in a command line, behind whatever else can be read there and with a blank on each side, or
    at the end. Hence no two texts are quoted alike. -/
theorem quote_is_one_literal_word :
    (∀ value : String, ∃ marks, (Lexeme.word marks).literal? = some value.toList ∧
      lexemes .start (quote value).toList = some [.word marks] ∧
      ∀ front before, lexemes .start front = some before → before.getLast? ≠ some .comment →
        ∀ blank back, separates blank = true → (∀ c ∈ back.head?, separates c = true) →
          lexemes .start (front ++ blank :: ((quote value).toList ++ back)) =
            (before ++ .word marks :: ·) <$> lexemes .start back) ∧
    Function.Injective quote := by
  constructor
  · intro value
    obtain ⟨marks, hliteral, hread⟩ := exists_lexemes_quote value
    refine ⟨marks, hliteral, hread, ?_⟩
    intro front before hfront hcomment blank back hblank hback
    rw [lexemes_append hblank hfront hcomment]
    cases back with
    | nil =>
      rw [List.append_nil, hread]
      rfl
    | cons c back =>
      have hc : separates c = true := hback c rfl
      rw [lexemes_append hc hread (by simp), lexemes_separator hc]
      cases lexemes .start back <;> simp
  · intro value other hsame
    obtain ⟨marks, hliteral, hread⟩ := exists_lexemes_quote value
    obtain ⟨marks', hliteral', hread'⟩ := exists_lexemes_quote other
    rw [hsame, hread'] at hread
    obtain rfl : marks' = marks := by simpa using hread
    rw [hliteral] at hliteral'
    exact String.toList_inj.1 (Option.some.inj hliteral')

/-- Behind an expansion and an operator, and with an operator behind it. -/
theorem argument_of_a_pipeline_is_one_word :
    let bare := fun word : String => Lexeme.word (word.toList.map (⟨·, false⟩))
    let before := [bare "echo", bare "$HOME", .operator '|', bare "ssh"]
    lexemes .start "echo $HOME | ssh".toList = some before ∧
      before.getLast? ≠ some .comment ∧
      ∃ marks, (Lexeme.word marks).literal? = some "it's #1".toList ∧
        lexemes .start "echo $HOME | ssh 'it'\"'\"'s #1' &".toList =
          some (before ++ [.word marks, .operator '&']) := by
  intro bare before
  have hfront : lexemes .start "echo $HOME | ssh".toList = some before := by decide +kernel
  have hcomment : before.getLast? ≠ some .comment := by decide +kernel
  obtain ⟨marks, hliteral, -, hembedded⟩ := quote_is_one_literal_word.1 "it's #1"
  have hread := hembedded _ before hfront hcomment ' ' " &".toList rfl (by simp; decide)
  refine ⟨hfront, hcomment, marks, hliteral, ?_⟩
  have hline : "echo $HOME | ssh".toList ++ ' ' :: ((quote "it's #1").toList ++ " &".toList) =
      "echo $HOME | ssh 'it'\"'\"'s #1' &".toList := by
    decide +kernel
  have hback : lexemes .start " &".toList = some [.operator '&'] := by decide +kernel
  rw [hline, hback] at hread
  rw [hread]
  rfl

/-- Text that is not quoted is no such word. -/
example : lexemes .start "a#b $HOME #c".toList =
    some [.word ("a#b".toList.map (⟨·, false⟩)), .word ("$HOME".toList.map (⟨·, false⟩)),
      .comment] := by
  decide +kernel

end Shell
end SshTemplate
