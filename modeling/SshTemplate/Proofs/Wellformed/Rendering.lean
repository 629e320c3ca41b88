import SshTemplate.Proofs.Rendering.Failures
import SshTemplate.Proofs.Writing.Parts

/-!
# `Proofs.Wellformed.Rendering` — what is written of a document that has been read

Writing a line of several arguments checks that none of them holds a quotation mark, and for a
document that has been read the check never fails: its arguments are values. The check is made
before the spans are filled, and nothing is checked afterwards. It need not be: the values of
template variables are spelled with characters of their tokens, digits and signs, and those of the
document are values, so filling brings in no character that neither a value nor a number can hold
(`not_mem_of_filled`): no quotation mark into an argument, and no line break into a line.
-/

set_option autoImplicit false

namespace SshTemplate

open Template (Combination bound crossProduct substituteBound)

namespace Contents

variable {own : Contents} {keys : KeyLibrary} {place : Section × Nat} {combination : Combination}

section Characters

variable {c : Char}

/-- A character that no value holds, and that spells no number, is in no value of a domain that can
    have been written. -/
theorem not_mem_of_mem_values (hvalues : ∀ text, IsValue text → c ∉ text.toList)
    (hdigit : c.isDigit = false) (hsign : c ≠ '-') {declared : TemplateVariable}
    (h : declared.WellFormed) {value : String} (hvalue : value ∈ declared.values) :
    c ∉ value.toList := by
  unfold TemplateVariable.values at hvalue
  cases hdomain : Template.domainValues declared.domain with
  | error issue =>
    rw [hdomain] at hvalue
    exact absurd hvalue List.not_mem_nil
  | ok values =>
    rw [hdomain] at hvalue
    obtain ⟨token, htoken, parts, hparts, hmem⟩ :=
      Template.exists_of_mem_domainValues hdomain hvalue
    intro hc
    rcases Template.mem_tokenValues hparts hmem hc with hc | hc | hc
    · exact hvalues token (h token htoken) hc
    · exact absurd hc (by simp [hdigit])
    · exact hsign hc

/-- **Filling brings no such character into a text.** -/
theorem not_mem_of_filled (hvalues : ∀ text, IsValue text → c ∉ text.toList)
    (hdigit : c.isDigit = false) (hsign : c ≠ '-') (hown : own.WellFormed)
    (hplace : place ∈ own.hostPlaces) (hc : combination ∈ crossProduct place.1.axes)
    {text : String} (htext : c ∉ text.toList) : c ∉ (own.filled combination text).toList := by
  have hs : place.1 ∈ own.sections := List.mem_of_getElem? (section_of_mem_hostPlaces hplace)
  intro hmem
  unfold filled at hmem
  rw [Template.toList_substituteBound] at hmem
  rcases Template.mem_replaced hmem with hmem | ⟨span, value, -, hvalue, hmem⟩
  · exact htext hmem
  · rcases Template.mem_of_bound hc hvalue with ⟨axis, haxis, haxisValue⟩ | hbinding
    · obtain ⟨declared, hdeclared, rfl⟩ := List.mem_map.1 haxis
      have hwritten := (hown.sections _ hs).domains declared hdeclared
      exact not_mem_of_mem_values hvalues hdigit hsign hwritten haxisValue hmem
    · exact hvalues value (isValue_of_get? hown.values _ value hbinding) hmem

end Characters

/-- **Filling brings no quotation mark into a text.** -/
theorem not_quote_of_filled (hown : own.WellFormed) (hplace : place ∈ own.hostPlaces)
    (hc : combination ∈ crossProduct place.1.axes) {text : String} (htext : '"' ∉ text.toList) :
    '"' ∉ (own.filled combination text).toList :=
  not_mem_of_filled (fun _ hvalue => hvalue.noQuote) (by decide) (by decide) hown hplace hc htext

/-- **Filling breaks no line.** -/
theorem not_break_of_filled (hown : own.WellFormed) (hplace : place ∈ own.hostPlaces)
    (hc : combination ∈ crossProduct place.1.axes) {text : String} (htext : '\n' ∉ text.toList) :
    '\n' ∉ (own.filled combination text).toList :=
  not_mem_of_filled (fun _ hvalue => hvalue.noBreak) (by decide) (by decide) hown hplace hc htext

theorem isBlank_of_mem_indentation : ∀ c ∈ indentation.toList, Text.isBlank c = true := by
  intro c hc
  obtain rfl : c = ' ' := by simpa [indentation] using hc
  decide

/-- **A filled line has the parts of the line, filled**, and no quotation mark in its arguments. -/
theorem filled_written (hown : own.WellFormed) (hplace : place ∈ own.hostPlaces)
    (hc : combination ∈ crossProduct place.1.axes) {line : Line}
    (hline : line ∈ own.inherited keys place.2) (hlength : line.args.length ≠ 1) :
    own.filled combination (line.written indentation) =
        indentation ++ own.filled combination line.keyword ++
          String.join (line.args.map fun arg => " " ++ own.filled combination arg) ∧
      ∀ arg ∈ line.args, '"' ∉ (own.filled combination arg).toList := by
  have hfilled : own.filled combination (line.written indentation) =
      (line.filled (bound combination own.bindings)).written indentation :=
    Line.substituteBound_written isBlank_of_mem_indentation line
  constructor
  · have hlength' : (line.filled (bound combination own.bindings)).args.length ≠ 1 := by
      simpa [Line.filled] using hlength
    rw [hfilled, Line.written_of_length_ne_one indentation hlength']
    unfold Line.filled
    rw [List.map_map]
    rfl
  · intro arg harg
    refine not_quote_of_filled hown hplace hc ?_
    rcases mem_inherited (index_of_mem_hostPlaces hplace) hline with ⟨s, hs, hmem⟩ | hone
    · exact ((((hown.sections s hs).lines line hmem).plain hlength).args arg harg).noQuote
    · exact absurd hone hlength

end Contents

namespace Document

variable {out : Outside} {locator text : String} {document : Document}

theorem stanzaOf_mem_stanzas (hread : ReadAs out locator text document) {keys : KeyLibrary}
    {rendering : Rendering} (h : document.render keys = .ok rendering) {own : Contents}
    (hown : own ∈ document.preorder) {place : Section × Nat} (hplace : place ∈ own.hostPlaces)
    {combination : Combination} (hc : combination ∈ crossProduct place.1.axes) :
    own.stanzaOf keys place combination ∈ rendering.stanzas := by
  rw [stanzas_of_marked (marked_of_readAs hread) h]
  refine List.mem_cons_of_mem _ (List.mem_flatMap.2 ⟨own, hown, ?_⟩)
  exact List.mem_flatMap.2 ⟨place, hplace, List.mem_map_of_mem hc⟩

/-- **Documents that have been read are well-formed, and so they can be written.** Whatever is read,
    with whatever it includes: every document of the tree is well-formed, and so are its contents
    behind each of the lines that it was read from, and whatever was supplied to it is values. So no
    rendering fails because a line cannot be written; and in the stanzas, the arguments of a line
    that has not exactly one are the arguments of the line, filled, and hold no quotation mark. -/
theorem read_documents_can_be_written (hread : ReadAs out locator text document) :
    (∀ own ∈ document.preorder, own.WellFormed ∧
      ∃ account, Inside out ⟨.start locator false .empty, none, text, document⟩ account ∧
        account.document.contents = own) ∧
    (∀ account, Inside out ⟨.start locator false .empty, none, text, document⟩ account →
      SuppliesValues account.supplied ∧
      ∀ before behind, Text.lines account.text = before ++ behind →
        (before.foldl (Contents.after account.supplied) account.start).WellFormed) ∧
    ∀ keys : KeyLibrary,
      (∀ holder name cause, document.render keys ≠ .error (.output holder name cause)) ∧
      ∀ rendering, document.render keys = .ok rendering →
        ∀ own ∈ document.preorder, ∀ place ∈ own.hostPlaces,
          ∀ combination ∈ crossProduct place.1.axes,
            own.stanzaOf keys place combination ∈ rendering.stanzas ∧
            ∀ line ∈ own.inherited keys place.2, line.args.length ≠ 1 →
              own.filled combination (line.written indentation) =
                  indentation ++ own.filled combination line.keyword ++
                    String.join (line.args.map fun arg => " " ++ own.filled combination arg) ∧
                ∀ arg ∈ line.args, '"' ∉ (own.filled combination arg).toList := by
  have hwell := wellFormed_of_readAs hread
  refine ⟨fun own hown => ⟨hwell own hown, exists_inside document hread own hown⟩, ?_, ?_⟩
  · intro account hinside
    have hsound := hinside.sound (sound_of_readAs hread)
    exact ⟨hsound.supplies, fun before behind hlines => hsound.wellFormed_prefix hlines⟩
  · intro keys
    constructor
    · intro holder name cause h
      obtain ⟨_, _, _, hresolve⟩ := ((render_eq_error_iff hwell).1 h).exists_resolve
      cases hresolve
    · intro rendering h own hown place hplace combination hc
      refine ⟨stanzaOf_mem_stanzas hread h hown hplace hc, fun line hline hlength => ?_⟩
      exact Contents.filled_written (hwell own hown) hplace hc hline hlength

def quayText : String := "@set word far\n@with n 1 2\nHost near<n>\nSend <n> <word>"

/-- A host with a line of two arguments, each of which is a span. -/
def quayDocument : Document :=
  ⟨{ Contents.start "quay" false .empty with
      bindings := Dictionary.empty.insert "word" "far"
      sections := [⟨"near<n>", .host [⟨"n", ["1", "2"]⟩], [⟨"Send", ["<n>", "<word>"]⟩], [], []⟩] },
    []⟩

theorem readAs_quay : ReadAs harbour.outside "quay" quayText quayDocument := by
  have hlines : Text.lines quayText =
      ["@set word far", "@with n 1 2", "Host near<n>", "Send <n> <word>"] := by
    cbv
  refine ⟨1, ?_⟩
  unfold readWithin
  rw [hlines,
    readLines_of_obey (by cbv) (by cbv : _ = Except.ok (.assign "word" "far")) (by simp)
      (by cbv : _ = Except.ok { Contents.start "quay" false .empty with
        bindings := Dictionary.empty.insert "word" "far" }),
    readLines_of_obey (by cbv) (by cbv : _ = Except.ok (.withVariable ⟨"n", ["1", "2"]⟩)) (by simp)
      rfl,
    readLines_of_obey (by cbv) (by cbv : _ = Except.ok (.host "near<n>")) (by simp) rfl,
    readLines_of_obey (by cbv) (by cbv : _ = Except.ok (.literal ⟨"Send", ["<n>", "<word>"]⟩))
      (by simp) rfl]
  rfl

theorem quay_can_be_written :
    let near := (⟨"near<n>", .host [⟨"n", ["1", "2"]⟩], [⟨"Send", ["<n>", "<word>"]⟩], [], []⟩, 0)
    ReadAs harbour.outside "quay" quayText quayDocument ∧ quayDocument.contents.WellFormed ∧
      ∃ rendering, quayDocument.render (.empty "") = .ok rendering ∧
        quayDocument.contents.stanzaOf (.empty "") near [("n", "2")] ∈ rendering.stanzas ∧
        quayDocument.contents.filled [("n", "2")]
            (Line.written indentation ⟨"Send", ["<n>", "<word>"]⟩) = "    Send 2 far" := by
  intro near
  obtain ⟨hwell, -, hall⟩ := read_documents_can_be_written readAs_quay
  have htop : quayDocument.contents ∈ quayDocument.preorder := by simp [quayDocument, preorder]
  have hplace : near ∈ quayDocument.contents.hostPlaces := by decide
  have haxes : near.1.axes = [("n", ["1", "2"])] := by cbv
  have hc : [("n", "2")] ∈ crossProduct near.1.axes := by
    rw [haxes]
    decide
  have hstanzas : quayDocument.contents.allStanzas (.empty "") =
      ⟨[], .ok [⟨some "near1", ["Host = near1", "    Send 1 far"]⟩,
        ⟨some "near2", ["Host = near2", "    Send 2 far"]⟩]⟩ := by
    unfold Contents.allStanzas
    cbv
  have hexpands : quayDocument.contents.Expands (.empty "") :=
    Contents.expands_of_eq_ok (by cbv : _ = Except.ok []) (congrArg Logged.outcome hstanzas)
  obtain ⟨rendering, hrender⟩ :=
    exists_renderAfter_eq_ok quayDocument ∅ (List.forall_mem_singleton.2 hexpands)
  have hlines : quayDocument.contents.inherited (.empty "") 0 = [⟨"Send", ["<n>", "<word>"]⟩] := by
    cbv
  obtain ⟨hstanza, hwritten⟩ :=
    (hall (.empty "")).2 _ hrender quayDocument.contents htop near hplace [("n", "2")] hc
  refine ⟨readAs_quay, (hwell _ htop).1, _, hrender, hstanza, ?_⟩
  rw [(hwritten ⟨"Send", ["<n>", "<word>"]⟩ (by simp [near, hlines]) (by decide)).1]
  cbv

end Document
end SshTemplate
