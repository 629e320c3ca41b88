import SshTemplate.Proofs.Rendering.Flattening
import SshTemplate.Proofs.Template.Spans

/-!
# `Proofs.Writing.Parts` — a written line is filled part by part

The lines of a host are written before they are filled, so what is filled is text in which keyword,
equals sign and arguments are no longer told apart. It comes to the same as filling the keyword and
each argument and writing the line then. What makes it so is that the characters that are put before
an argument begin with a blank and open nothing: a span that is begun before them is given up there,
and behind them reading starts afresh. So the pieces of a written line are those of its parts, with
the characters between them (`pieces_written`), and whatever goes by pieces goes by parts: what
filling gives, where it fails first, and where the spans are.
-/

set_option autoImplicit false

namespace SshTemplate

open Text Template

namespace Line

variable {indent : String} {lookup : String → Option String}

/-! ## Parts -/

/-- The parts of a line as it is written, each with the characters that are put before it. -/
def parts (indent : String) (line : Line) : List (List Char × String) :=
  (indent.toList, line.keyword) ::
    match line.args with
    | [arg] => [([' ', '=', ' '], arg)]
    | args => args.map fun arg => ([' '], arg)

/-- The line with its parts filled. -/
def filled (lookup : String → Option String) (line : Line) : Line :=
  ⟨substituteBound lookup line.keyword, line.args.map (substituteBound lookup)⟩

theorem toList_written (indent : String) (line : Line) :
    (line.written indent).toList =
      (line.parts indent).flatMap fun part => part.1 ++ part.2.toList := by
  obtain ⟨keyword, args⟩ := line
  have hspaced : ∀ arg : String, (" " ++ arg).toList = ' ' :: arg.toList := by
    intro arg
    rw [String.toList_append]
    rfl
  rcases args with _ | ⟨arg, _ | ⟨second, rest⟩⟩
  · simp [written, parts]
  · simp [written, parts]
  · simp [written, parts, String.toList_join, List.flatMap_map, hspaced]

theorem map_snd_parts (indent : String) (line : Line) :
    (line.parts indent).map Prod.snd = line.keyword :: line.args := by
  obtain ⟨keyword, args⟩ := line
  rcases args with _ | ⟨arg, _ | ⟨second, rest⟩⟩
  · rfl
  · rfl
  · simp [parts]

theorem parts_filled (indent : String) (line : Line) :
    (line.filled lookup).parts indent =
      (line.parts indent).map fun part => (part.1, substituteBound lookup part.2) := by
  obtain ⟨keyword, args⟩ := line
  rcases args with _ | ⟨arg, _ | ⟨second, rest⟩⟩
  · rfl
  · rfl
  · simp [parts, filled]

/-- The characters begin with a blank, and nothing behind it opens a span. -/
def IsSeparator (chars : List Char) : Prop :=
  ∃ blank rest, chars = blank :: rest ∧ isBlank blank = true ∧ '<' ∉ rest

/-- What is put before the arguments separates them from what stands before it. -/
theorem isSeparator_of_mem_parts {line : Line} {part : List Char × String}
    (h : part ∈ (line.parts indent).tail) : IsSeparator part.1 := by
  obtain ⟨keyword, args⟩ := line
  have hspaces : ∀ args : List String, part ∈ args.map (fun arg => ([' '], arg)) →
      IsSeparator part.1 := by
    intro args hpart
    obtain ⟨arg, -, rfl⟩ := List.mem_map.1 hpart
    exact ⟨' ', [], rfl, by decide, List.not_mem_nil⟩
  rcases args with _ | ⟨arg, _ | ⟨second, rest⟩⟩
  · exact absurd h List.not_mem_nil
  · obtain rfl := List.mem_singleton.1 h
    exact ⟨' ', ['=', ' '], rfl, by decide, by decide⟩
  · exact hspaces _ h

/-! ## Pieces -/

/-- The pieces of a text with separators in it are those of its parts. -/
theorem pieces_separated {parts : List (List Char × String)}
    (h : ∀ part ∈ parts, IsSeparator part.1) (front : List Char) :
    pieces (front ++ parts.flatMap fun part => part.1 ++ part.2.toList) =
      pieces front ++ parts.flatMap fun part => part.1.map Piece.char ++ pieces part.2.toList := by
  induction parts generalizing front with
  | nil => simp
  | cons part others ih =>
    obtain ⟨⟨blank, rest, hbefore, hblank, hrest⟩, hothers⟩ := List.forall_mem_cons.1 h
    have hbehind := piecesFrom_none_append hrest
      (part.2.toList ++ others.flatMap fun part => part.1 ++ part.2.toList)
    -- The blank ends what was begun, and reading starts afresh behind it.
    calc pieces (front ++ (part :: others).flatMap fun part => part.1 ++ part.2.toList)
        = pieces front ++ .char blank :: pieces (rest ++
            (part.2.toList ++ others.flatMap fun part => part.1 ++ part.2.toList)) := by
          rw [List.flatMap_cons, hbefore, List.append_assoc, List.cons_append]
          exact piecesFrom_append_blank none front hblank _
      _ = pieces front ++ .char blank :: (rest.map Piece.char ++ pieces
            (part.2.toList ++ others.flatMap fun part => part.1 ++ part.2.toList)) := by
          rw [pieces, pieces, hbehind]
          rfl
      _ = pieces front ++ (part :: others).flatMap fun part =>
            part.1.map Piece.char ++ pieces part.2.toList := by
          rw [ih hothers, List.flatMap_cons, hbefore]
          simp

/-- **The pieces of a written line are those of its parts**, with the characters between them. -/
theorem pieces_written (hindent : ∀ c ∈ indent.toList, isBlank c = true) (line : Line) :
    pieces (line.written indent).toList =
      (line.parts indent).flatMap fun part => part.1.map Piece.char ++ pieces part.2.toList := by
  have hopens : '<' ∉ indent.toList := fun hmem => absurd (hindent '<' hmem) (by decide)
  have hparts : line.parts indent = (indent.toList, line.keyword) :: (line.parts indent).tail := rfl
  have hseparated : ∀ part ∈ (line.parts indent).tail, IsSeparator part.1 :=
    fun part hpart => isSeparator_of_mem_parts hpart
  have hrest := pieces_separated hseparated line.keyword.toList
  rw [toList_written, hparts, List.flatMap_cons, List.flatMap_cons, List.append_assoc,
    List.append_assoc, ← hrest]
  exact piecesFrom_none_append hopens _

/-! ## Filling -/

/-- **Filling a written line is writing the filled line.** -/
theorem substituteBound_written (hindent : ∀ c ∈ indent.toList, isBlank c = true) (line : Line) :
    substituteBound lookup (line.written indent) = (line.filled lookup).written indent := by
  apply String.toList_inj.1
  rw [toList_substituteBound, replaced, pieces_written hindent, toList_written, parts_filled,
    List.flatMap_assoc, List.flatMap_map]
  refine List.flatMap_congr fun part _ => ?_
  have hchars : (part.1.map Piece.char).flatMap (replaceKnown lookup) = part.1 := by
    rw [List.flatMap_map]
    exact List.flatMap_singleton' part.1
  rw [List.flatMap_append, hchars, toList_substituteBound]
  rfl

/-- **Filling a written line fails as filling its parts one by one does.** -/
theorem substitute_written_eq_error_iff (hindent : ∀ c ∈ indent.toList, isBlank c = true)
    (line : Line) {issue : Issue} :
    substitute lookup (line.written indent) = .error issue ↔
      (line.keyword :: line.args).mapM (substitute lookup) = .error issue := by
  rw [substitute, map_eq_error_iff, pieces_written hindent, replaceAll_flatMap, map_eq_error_iff,
    ← map_snd_parts indent line, List.mapM_map, mapM_eq_error_iff, mapM_eq_error_iff]
  simp only [replaceAll_chars_append, Function.comp_apply, substitute, map_eq_error_iff,
    exists_map_eq_ok_iff]

/-! ## Where the spans are -/

/-- A span of one of the parts, at its place in the whole. -/
inductive SpanWithin : List (List Char × String) → Nat → List Char → Prop where
  | here {before : List Char} {part : String} {behind : List (List Char × String)} {start : Nat}
      {name : List Char} (span : SpanAt part.toList start name) :
      SpanWithin ((before, part) :: behind) (before.length + start) name
  | further {before : List Char} {part : String} {behind : List (List Char × String)} {start : Nat}
      {name : List Char} (span : SpanWithin behind start name) :
      SpanWithin ((before, part) :: behind) (before.length + part.toList.length + start) name

theorem not_standsAt_chars {chars : List Char} {start : Nat} {name : List Char} :
    ¬ StandsAt (chars.map Piece.char) start (.span name) := by
  rintro ⟨before, after, hsplit, -⟩
  have hmem : Piece.span name ∈ chars.map Piece.char := by
    rw [hsplit]
    exact List.mem_append_right before List.mem_cons_self
  obtain ⟨c, -, hc⟩ := List.mem_map.1 hmem
  cases hc

theorem standsAt_flatMap_iff {parts : List (List Char × String)} {start : Nat} {name : List Char} :
    StandsAt (parts.flatMap fun part => part.1.map Piece.char ++ pieces part.2.toList) start
        (.span name) ↔ SpanWithin parts start name := by
  induction parts generalizing start with
  | nil => exact ⟨fun h => absurd h not_standsAt_nil, fun h => by cases h⟩
  | cons part rest ih =>
    obtain ⟨before, part⟩ := part
    have hchars : ((before.map Piece.char).flatMap Piece.written).length = before.length := by
      rw [List.flatMap_map]
      exact congrArg List.length (List.flatMap_singleton' before)
    have hlength : ((before.map Piece.char ++ pieces part.toList).flatMap Piece.written).length =
        before.length + part.toList.length := by
      rw [List.flatMap_append, List.length_append, hchars, written_pieces]
    rw [List.flatMap_cons, standsAt_append_iff, standsAt_append_iff, hchars, hlength]
    simp only [← (isCut_pieces part.toList).spans, ih]
    constructor
    · rintro ((hchar | ⟨start, hspan, rfl⟩) | ⟨start, hspan, rfl⟩)
      · exact absurd hchar not_standsAt_chars
      · exact .here hspan
      · exact .further hspan
    · rintro (hspan | hspan)
      · exact Or.inl (Or.inr ⟨_, hspan, rfl⟩)
      · exact Or.inr ⟨_, hspan, rfl⟩

/-- **No span reaches from one part of a written line into another.** -/
theorem spanAt_written_iff (hindent : ∀ c ∈ indent.toList, isBlank c = true) (line : Line)
    {start : Nat} {name : List Char} :
    SpanAt (line.written indent).toList start name ↔ SpanWithin (line.parts indent) start name := by
  rw [(isCut_pieces _).spans, pieces_written hindent, standsAt_flatMap_iff]

/-! ## Quotation marks -/

/-- No argument has a quotation mark, and no span of one gets a value that has. -/
def NoQuotes (lookup : String → Option String) (args : List String) : Prop :=
  ∀ arg ∈ args, '"' ∉ arg.toList ∧ ∀ start name value, SpanAt arg.toList start name →
    lookup (String.ofList name) = some value → '"' ∉ value.toList

theorem not_quote_of_mem_filled {line : Line} (h : NoQuotes lookup line.args) :
    ∀ arg ∈ (line.filled lookup).args, '"' ∉ arg.toList := by
  intro filled hfilled hquote
  obtain ⟨arg, harg, rfl⟩ := List.mem_map.1 hfilled
  obtain ⟨hplain, hvalues⟩ := h arg harg
  rw [toList_substituteBound] at hquote
  rcases mem_replaced hquote with hquote | ⟨span, value, hspan, hvalue, hquote⟩
  · exact hplain hquote
  · obtain ⟨start, hspan⟩ := span_mem_pieces_iff.1 hspan
    exact hvalues start span value hspan hvalue hquote

/-- What the parts are filled with, if they can be, is the filled line. -/
theorem eq_filled_of_substitute {line : Line} {keyword : String} {args : List String}
    (hkeyword : substitute lookup line.keyword = .ok keyword)
    (hargs : line.args.mapM (substitute lookup) = .ok args) :
    (⟨keyword, args⟩ : Line) = line.filled lookup := by
  rw [eq_substituteBound_of_substitute hkeyword,
    eq_map_of_mapM_eq_ok (fun _ _ _ => eq_substituteBound_of_substitute) hargs]
  rfl

/-- **A written line is filled part by part.** Let a line be indented by blanks, and, unless it has
    exactly one argument, let neither the arguments nor the values of their spans have a quotation
    mark. Then the line can be written. If the keyword and all arguments can be filled, the filled
    line can be written too, and that is what the written line is filled to; if one of them cannot,
    the first of them decides how the written line fails. Its spans are those of the keyword and of
    the arguments, whatever brackets stand at their ends. -/
theorem written_line_is_filled_by_parts (lookup : String → Option String) {indent : String}
    (hindent : ∀ c ∈ indent.toList, isBlank c = true) (line : Line)
    (hquotes : line.args.length ≠ 1 → NoQuotes lookup line.args) :
    ∃ text, writeLine indent line = .ok text ∧
      (∀ keyword args, substitute lookup line.keyword = .ok keyword →
        List.Forall₂ (fun arg filled => substitute lookup arg = .ok filled) line.args args →
        ∃ filled, writeLine indent ⟨keyword, args⟩ = .ok filled ∧
          substitute lookup text = .ok filled) ∧
      (∀ issue, substitute lookup text = .error issue ↔
        ∃ before part after, line.keyword :: line.args = before ++ part :: after ∧
          (∀ other ∈ before, ∃ filled, substitute lookup other = .ok filled) ∧
          substitute lookup part = .error issue) ∧
      (text.toList = (line.parts indent).flatMap fun part => part.1 ++ part.2.toList) ∧
      ∀ start name, SpanAt text.toList start name ↔ SpanWithin (line.parts indent) start name := by
  have hwrite : writeLine indent line = .ok (line.written indent) :=
    writeLine_eq_ok_of_noQuote (fun hlength arg harg => (hquotes hlength arg harg).1) indent
  refine ⟨line.written indent, hwrite, fun keyword args hkeyword hargs => ?_, fun issue => ?_,
    toList_written indent line, fun start name => spanAt_written_iff hindent line⟩
  · have hargs := mapM_eq_ok_iff.2 hargs
    have hlength : (line.filled lookup).args.length = line.args.length := List.length_map _
    rw [eq_filled_of_substitute hkeyword hargs]
    refine ⟨(line.filled lookup).written indent, ?_, ?_⟩
    · refine writeLine_eq_ok_of_noQuote (fun hne => ?_) indent
      exact not_quote_of_mem_filled (hquotes (hlength ▸ hne))
    · cases hfilled : substitute lookup (line.written indent) with
      | ok filled =>
        rw [eq_substituteBound_of_substitute hfilled, substituteBound_written hindent]
      | error issue =>
        have herror := (substitute_written_eq_error_iff hindent line).1 hfilled
        rw [List.mapM_cons, hkeyword, hargs] at herror
        cases herror
  · rw [substitute_written_eq_error_iff hindent, mapM_eq_error_iff]

/-- The bracket that the keyword ends with opens nothing, and the last argument closes nothing. -/
theorem brackets_at_the_ends_stay :
    let line : Line := ⟨"Send<", ["<n>", "n>"]⟩
    let lookup : String → Option String := fun name => if name = "n" then some "1" else none
    (∀ c ∈ "  ".toList, isBlank c = true) ∧
      (line.args.length ≠ 1 → NoQuotes lookup line.args) ∧
      writeLine "  " line = .ok "  Send< <n> n>" ∧
      substitute lookup "  Send< <n> n>" = .ok "  Send< 1 n>" := by
  intro line lookup
  have hindent : ∀ c ∈ "  ".toList, isBlank c = true :=
    List.forall_mem_cons.2 ⟨by decide, List.forall_mem_singleton.2 (by decide)⟩
  have hvalue : ∀ name value, lookup name = some value → '"' ∉ value.toList := by
    intro name value h
    obtain ⟨-, h⟩ := Option.ite_none_right_eq_some.1 h
    obtain rfl := Option.some.inj h
    decide
  have hquotes : NoQuotes lookup line.args := by
    have hplain : ∀ arg ∈ line.args, '"' ∉ arg.toList :=
      List.forall_mem_cons.2 ⟨by decide, List.forall_mem_singleton.2 (by decide)⟩
    exact fun arg harg => ⟨hplain arg harg, fun _ name value _ h => hvalue _ value h⟩
  obtain ⟨text, hwrite, hfills, -⟩ :=
    written_line_is_filled_by_parts lookup hindent line fun _ => hquotes
  obtain ⟨filled, hwritten, hfilled⟩ := hfills "Send<" ["1", "n>"] (by cbv)
    (.cons (by cbv) (.cons (by cbv) .nil))
  obtain rfl : "  Send< <n> n>" = text := Except.ok.inj hwrite
  obtain rfl : "  Send< 1 n>" = filled := Except.ok.inj hwritten
  exact ⟨hindent, fun _ => hquotes, hwrite, hfilled⟩

end Line
end SshTemplate
