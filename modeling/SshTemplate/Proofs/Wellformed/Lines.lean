import Mathlib
import SshTemplate.Directive
import SshTemplate.Proofs.Template.Filling

/-!
# `Proofs.Wellformed.Lines` — what a line that is read looks like

The two written forms of a line are told apart by the number of arguments. A line with one argument
may hold anything; a line with any other number came from the second form, so its keyword is one
word and each of its arguments is a value (`IsValue`): not empty, and without a quotation mark, an
equals sign or a line break. Directives keep this: what they bind, pass on or choose from are
arguments of lines with several arguments.

What reading and classifying accept is said once for each, by the forms that a line can have
(`Line.Form`, `Directive.Form`); what is known of a line or of a directive follows by cases.
-/

set_option autoImplicit false

namespace SshTemplate

open Text
open Template (Variables substituteBound)

/-! ## Values -/

/-- A text that can stand among other arguments. -/
structure IsValue (text : String) : Prop where
  nonempty : text ≠ ""
  noQuote : '"' ∉ text.toList
  noEquals : '=' ∉ text.toList
  noBreak : '\n' ∉ text.toList

/-- Filling a value with values gives a value. -/
theorem IsValue.substituteBound {lookup : String → Option String} {text : String}
    (htext : IsValue text) (hlookup : ∀ name value, lookup name = some value → IsValue value) :
    IsValue (substituteBound lookup text) := by
  have hnot : ∀ c, c ∉ text.toList → (∀ value, IsValue value → c ∉ value.toList) →
      c ∉ (Template.substituteBound lookup text).toList := by
    intro c hc hvalues hmem
    rw [Template.toList_substituteBound] at hmem
    rcases Template.mem_replaced hmem with hmem | ⟨span, value, -, hvalue, hmem⟩
    · exact hc hmem
    · exact hvalues value (hlookup _ value hvalue) hmem
  refine ⟨?_, hnot _ htext.noQuote fun _ h => h.noQuote,
    hnot _ htext.noEquals fun _ h => h.noEquals, hnot _ htext.noBreak fun _ h => h.noBreak⟩
  intro hempty
  have hreplaced : Template.replaced lookup text.toList = [] := by
    rw [← Template.toList_substituteBound, hempty]
    rfl
  refine Template.replaced_ne_nil ?_ (fun name value h => (hlookup name value h).nonempty) hreplaced
  exact fun hnil => htext.nonempty (String.toList_eq_nil_iff.1 hnil)

/-! ## Arguments -/

namespace Line

theorem mem_finished {word : List Char} {arg : String} (h : arg ∈ finished word) :
    word ≠ [] ∧ arg = String.ofList word.reverse := by
  unfold finished at h
  cases word with
  | nil => exact absurd h (by simp)
  | cons c rest => exact ⟨by simp, List.mem_singleton.1 h⟩

/-- A non-empty argument without a quotation mark, of which every character is one of `chars`. -/
structure MadeOf (chars : List Char) (arg : String) : Prop where
  nonempty : arg ≠ ""
  noQuote : '"' ∉ arg.toList
  subset : ∀ c ∈ arg.toList, c ∈ chars

theorem MadeOf.mono {chars more : List Char} {arg : String} (h : MadeOf chars arg)
    (hmore : ∀ c ∈ chars, c ∈ more) : MadeOf more arg :=
  ⟨h.nonempty, h.noQuote, fun c hc => hmore c (h.subset c hc)⟩

theorem madeOf_finished {word : List Char} (hquote : '"' ∉ word) :
    ∀ arg ∈ finished word, MadeOf word arg := by
  intro arg harg
  obtain ⟨hne, rfl⟩ := mem_finished harg
  refine ⟨?_, ?_, ?_⟩
  · intro hempty
    exact hne (by simpa using congrArg String.toList hempty)
  · rw [String.toList_ofList]
    exact fun hmem => hquote (List.mem_reverse.1 hmem)
  · intro c hc
    rw [String.toList_ofList] at hc
    exact List.mem_reverse.1 hc

/-- Every argument that is read is made of the word begun and of the text behind it. -/
theorem madeOf_readArguments {inQuote : Bool} {word text : List Char} {args : List String}
    (h : readArguments inQuote word text = .ok args) (hword : '"' ∉ word) :
    ∀ arg ∈ args, MadeOf (word ++ text) arg := by
  have hnil : '"' ∉ ([] : List Char) := List.not_mem_nil
  -- Where a word ends, it is an argument, and the others are made of what stands behind it.
  have hends : ∀ {word rest : List Char} {c : Char} {others : List String}, '"' ∉ word →
      (∀ arg ∈ others, MadeOf ([] ++ rest) arg) →
        ∀ arg ∈ finished word ++ others, MadeOf (word ++ c :: rest) arg := by
    intro word rest c others hquote hothers arg harg
    rcases List.mem_append.1 harg with harg | harg
    · exact (madeOf_finished hquote arg harg).mono fun d hd => List.mem_append_left _ hd
    · refine (hothers arg harg).mono fun d hd => ?_
      exact List.mem_append_right _ (List.mem_cons_of_mem _ hd)
  -- Where it goes on, it has one character more.
  have hgoes : ∀ {word rest : List Char} {c : Char},
      ∀ d ∈ (c :: word) ++ rest, d ∈ word ++ c :: rest := by
    intro word rest c d hd
    simp only [List.mem_append, List.mem_cons] at hd ⊢
    tauto
  fun_induction readArguments inQuote word text generalizing args with
  | case1 word => cases h
  | case2 inQuote word hq =>
    obtain rfl := Except.ok.inj h
    intro arg harg
    rw [List.append_nil]
    exact madeOf_finished hword arg harg
  | case3 word rest ih =>
    obtain ⟨others, hothers, rfl⟩ := exists_of_map_eq_ok h
    exact hends hword (ih hothers hnil)
  | case4 word c rest hc ih =>
    intro arg harg
    exact (ih h (by simp [hword, Ne.symm hc]) arg harg).mono hgoes
  | case5 inQuote word rest hq hempty ih =>
    intro arg harg
    refine (ih h hnil arg harg).mono fun c hc => ?_
    exact List.mem_append_right _ (List.mem_cons_of_mem _ hc)
  | case6 inQuote word rest hq hempty => cases h
  | case7 inQuote word c rest hq hc hblank ih =>
    obtain ⟨others, hothers, rfl⟩ := exists_of_map_eq_ok h
    exact hends hword (ih hothers hnil)
  | case8 inQuote word c rest hq hc hblank ih =>
    intro arg harg
    exact (ih h (by simp [hword, Ne.symm hc]) arg harg).mono hgoes

/-! ## Lines -/

theorem mem_of_mem_trimStart {s : List Char} {c : Char} (h : c ∈ trimStart s) : c ∈ s :=
  (List.dropWhile_sublist _).subset h

theorem mem_of_mem_trimEnd {s : List Char} {c : Char} (h : c ∈ trimEnd s) : c ∈ s := by
  unfold trimEnd at h
  exact List.mem_reverse.1 ((List.dropWhile_sublist _).subset (List.mem_reverse.1 h))

theorem mem_of_mem_trim {s : List Char} {c : Char} (h : c ∈ trim s) : c ∈ s :=
  mem_of_mem_trimStart (mem_of_mem_trimEnd h)

/-- A trimmed text does not begin with a blank. -/
theorem not_isBlank_of_trim_eq_cons {s rest : List Char} {c : Char} (h : trim s = c :: rest) :
    isBlank c = false := by
  have hstart : ∃ more, trimStart s = c :: more := by
    have hprefix : trim s <+: trimStart s := by
      unfold trim trimEnd
      exact List.reverse_suffix.1 (by
        rw [List.reverse_reverse]
        exact List.dropWhile_suffix _)
    rw [h] at hprefix
    obtain ⟨tail, htail⟩ := hprefix
    exact ⟨rest ++ tail, htail.symm⟩
  obtain ⟨more, hmore⟩ := hstart
  unfold trimStart at hmore
  have hhead := List.head?_dropWhile_not isBlank s
  rw [hmore] at hhead
  simpa using hhead

/-- A line with several arguments, or with none: its keyword is one word, its arguments are
    values. -/
structure IsPlain (line : Line) : Prop where
  keyword : line.keyword ≠ ""
  noBlank : ∀ c ∈ line.keyword.toList, isBlank c = false
  noEquals : '=' ∉ line.keyword.toList
  args : ∀ arg ∈ line.args, IsValue arg

/-- The first word of a text that begins with one, and what stands behind it. -/
theorem firstWord_of_cons {c : Char} (text : List Char) (hc : isBlank c = false) :
    ∃ keyword arguments, (cutFirst? isBlank (c :: text)).getD (c :: text, []) =
        (keyword, arguments) ∧
      keyword ≠ [] ∧ (∀ d ∈ keyword, isBlank d = false) ∧ (∀ d ∈ keyword, d ∈ c :: text) ∧
      ∀ d ∈ arguments, d ∈ c :: text := by
  cases hcut : cutFirst? isBlank (c :: text) with
  | none =>
    exact ⟨c :: text, [], rfl, by simp, cutFirst?_eq_none_iff.1 hcut, fun d hd => hd,
      fun d hd => absurd hd (by simp)⟩
  | some cut =>
    obtain ⟨keyword, arguments⟩ := cut
    obtain ⟨blank, hblank, hsplit, hword⟩ := eq_append_of_cutFirst? hcut
    refine ⟨keyword, arguments, rfl, ?_, hword, ?_, ?_⟩
    · rintro rfl
      obtain ⟨rfl, -⟩ := List.cons.inj hsplit
      exact absurd hblank (by simp [hc])
    · intro d hd
      rw [hsplit]
      exact List.mem_append_left _ hd
    · intro d hd
      rw [hsplit]
      exact List.mem_append_right _ (List.mem_cons_of_mem _ hd)

/-- **The two written forms of a line**, by its trimmed text. -/
inductive Form (text : List Char) : Line → Prop where
  /-- `Keyword = value`, up to the first equals sign and behind it. -/
  | sole {keyword value : List Char} (cut : text = keyword ++ '=' :: value)
      (first : '=' ∉ keyword) :
      Form text ⟨String.ofList (trimEnd keyword), [String.ofList (trimStart value)]⟩
  /-- `Keyword a b`, without an equals sign. -/
  | several {keyword arguments : List Char} {args : List String} (noEquals : '=' ∉ text)
      (word : (cutFirst? isBlank text).getD (text, []) = (keyword, arguments))
      (read : readArguments false [] (trim arguments) = .ok args) :
      Form text ⟨String.ofList keyword, args⟩

/-- Whatever is read is written in one of the two forms. -/
theorem form_of_read {raw : String} {line : Line} (h : read raw = .ok line) :
    Form (trim raw.toList) line := by
  unfold read at h
  dsimp only at h
  cases hcut : cutFirst? (· = '=') (trim raw.toList) with
  | some cut =>
    obtain ⟨keyword, value⟩ := cut
    obtain ⟨c, hc, hsplit, hkeyword⟩ := eq_append_of_cutFirst? hcut
    obtain rfl : c = '=' := by simpa using hc
    rw [hcut] at h
    obtain rfl := Except.ok.inj h
    exact .sole hsplit fun hmem => absurd (hkeyword '=' hmem) (by simp)
  | none =>
    rw [hcut] at h
    obtain ⟨args, hargs, rfl⟩ := exists_of_map_eq_ok h
    exact .several (fun hmem => absurd (cutFirst?_eq_none_iff.1 hcut '=' hmem) (by simp)) rfl hargs

/-- **A line that has not exactly one argument is plain.** -/
theorem isPlain_of_read {raw : String} {line : Line} (h : read raw = .ok line)
    (hremark : isRemark raw = false) (hbreak : '\n' ∉ raw.toList) (hargs : line.args.length ≠ 1) :
    line.IsPlain := by
  have hform := form_of_read h
  have hbreak' : '\n' ∉ trim raw.toList := fun hmem => hbreak (mem_of_mem_trim hmem)
  cases htrim : trim raw.toList with
  | nil =>
    unfold isRemark at hremark
    rw [htrim] at hremark
    cases hremark
  | cons c text =>
    rw [htrim] at hform hbreak'
    cases hform with
    | sole cut first => exact absurd rfl hargs
    | several noEquals word hread =>
      obtain ⟨keyword, arguments, hword, hne, hblank, hkeyword, hrest⟩ :=
        firstWord_of_cons text (not_isBlank_of_trim_eq_cons htrim)
      obtain ⟨rfl, rfl⟩ := Prod.mk.inj (word.symm.trans hword)
      refine ⟨?_, ?_, ?_, ?_⟩
      · intro hempty
        exact hne (by simpa using congrArg String.toList hempty)
      · intro d hd
        rw [String.toList_ofList] at hd
        exact hblank d hd
      · rw [String.toList_ofList]
        exact fun hmem => noEquals (hkeyword _ hmem)
      · intro arg harg
        have hmade := madeOf_readArguments hread List.not_mem_nil arg harg
        have hsubset : ∀ d ∈ arg.toList, d ∈ c :: text := fun d hd =>
          hrest d (mem_of_mem_trim (hmade.subset d hd))
        exact ⟨hmade.nonempty, hmade.noQuote, fun hmem => noEquals (hsubset _ hmem),
          fun hmem => hbreak' (hsubset _ hmem)⟩

end Line

/-! ## Directives -/

/-- A line that a section can hold: one that is not part of the template language, and is plain if
    it has not exactly one argument. -/
structure Line.WellFormed (line : Line) : Prop where
  notHost : line.keyword ≠ "Host"
  notDirective : line.keyword.toList.head? ≠ some '@'
  plain : line.args.length ≠ 1 → line.IsPlain

namespace Directive

/-- What a directive holds can have been written. -/
def WellFormed : Directive → Prop
  | literal line => line.WellFormed
  | withVariable declared => ∀ token ∈ declared.domain, IsValue token
  | assign _ value => IsValue value
  | includes _ passed => ∀ arg ∈ passed, IsValue arg
  | _ => True

/-- **What a line has to look like to be classified as a directive.** -/
inductive Form : Line → Directive → Prop where
  | host (name : String) : Form ⟨"Host", [name]⟩ (.host name)
  | hostAttrs (name : String) : Form ⟨"@HostAttrs", [name]⟩ (.hostAttrs name)
  | withVariable (name : String) (domain : List String) :
      Form ⟨"@with", name :: domain⟩ (.withVariable ⟨name, domain⟩)
  | inherits (name : String) : Form ⟨"@is", [name]⟩ (.inherits name)
  | via (gateway : String) : Form ⟨"@via", [gateway]⟩ (.via gateway)
  | identity (name : String) : Form ⟨"@identity", [name]⟩ (.identity name)
  | key (name fingerprint : String) (more : List String) :
      Form ⟨"@key", name :: fingerprint :: more⟩ (.key name (fingerprint :: more))
  | includes (source : String) (passed : List String) :
      Form ⟨"@include", source :: passed⟩ (.includes source passed)
  | assign (name value : String) : Form ⟨"@set", [name, value]⟩ (.assign name value)
  | args (name : String) (names : List String) :
      Form ⟨"@args", name :: names⟩ (.args (name :: names))
  | literal {line : Line} (notHost : line.keyword ≠ "Host")
      (notDirective : line.keyword.toList.head? ≠ some '@') : Form line (.literal line)

theorem eq_of_unary {form : String} {args : List String} {make : String → Directive}
    {directive : Directive} (h : unary form args make = .ok directive) :
    ∃ name, args = [name] ∧ directive = make name := by
  unfold unary at h
  split at h
  · exact ⟨_, rfl, (Except.ok.inj h).symm⟩
  · cases h

/-- Whatever is classified has the form of its directive. -/
theorem form_of_ofLine {line : Line} {directive : Directive} (h : ofLine line = .ok directive) :
    Form line directive := by
  obtain ⟨keyword, args⟩ := line
  unfold ofLine at h
  dsimp only at h
  split at h
  · obtain ⟨name, rfl, rfl⟩ := eq_of_unary h
    exact .host name
  · obtain ⟨name, rfl, rfl⟩ := eq_of_unary h
    exact .hostAttrs name
  · split at h
    · obtain rfl := Except.ok.inj h
      exact .withVariable _ _
    · cases h
  · obtain ⟨name, rfl, rfl⟩ := eq_of_unary h
    exact .inherits name
  · obtain ⟨gateway, rfl, rfl⟩ := eq_of_unary h
    exact .via gateway
  · obtain ⟨name, rfl, rfl⟩ := eq_of_unary h
    exact .identity name
  · split at h
    · obtain rfl := Except.ok.inj h
      exact .key _ _ _
    · cases h
  · split at h
    · obtain rfl := Except.ok.inj h
      exact .includes _ _
    · cases h
  · split at h
    · obtain rfl := Except.ok.inj h
      exact .assign _ _
    · cases h
  · split at h
    · obtain rfl := Except.ok.inj h
      exact .args _ _
    · cases h
  · next hhost _ _ _ _ _ _ _ _ _ =>
    split at h
    · cases h
    · next hat =>
      obtain rfl := Except.ok.inj h
      exact .literal hhost hat

theorem wellFormed_of_ofLine {line : Line} {directive : Directive}
    (h : ofLine line = .ok directive) (hplain : line.args.length ≠ 1 → line.IsPlain) :
    directive.WellFormed := by
  -- Behind a first argument, all arguments are values.
  have hbehind : ∀ {first : String} {rest : List String}, line.args = first :: rest →
      ∀ arg ∈ rest, IsValue arg := by
    intro first rest hargs arg harg
    have hlength := List.length_pos_of_mem harg
    refine (hplain ?_).args arg (hargs ▸ List.mem_cons_of_mem _ harg)
    rw [hargs, List.length_cons]
    omega
  cases form_of_ofLine h with
  | withVariable name domain => exact hbehind rfl
  | includes source passed => exact hbehind rfl
  | assign name value => exact hbehind rfl value (List.mem_singleton_self value)
  | literal notHost notDirective => exact ⟨notHost, notDirective, hplain⟩
  | _ => trivial

end Directive
end SshTemplate
