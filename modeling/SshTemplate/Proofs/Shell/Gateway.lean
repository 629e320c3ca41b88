import SshTemplate.Proofs.Shell.Quoted
import SshTemplate.Proofs.Wellformed.Rendering

/-!
# `Proofs.Shell.Gateway` — the command that a gateway is reached with

A line `@via <gateway>` becomes the value of a `ProxyCommand` line, a command for a shell, in which
the gateway is one word. The value is followed here from the text to the stanzas. The line is held
by the section that was opened last and stays in it (`holds_via`), so every host that the section is
inherited by has it. The spans of the gateway that are bound before the line are
replaced there and then; the others are filled for each combination, when the gateway has long been
quoted (`filled_gatewayLine`).

So the shell reads the gateway as one word where what is filled in late holds no single quote
(`Shell.spells_filled`); what is bound before the line may hold any character, because it is quoted
with the rest. And the word is the gateway with every span replaced once where what was replaced
first is settled. Both conditions are needed, since the quotes and the spans of a value that is
filled in late, or read again, are as good as those of the line (`straitDocument`).
-/

set_option autoImplicit false

namespace SshTemplate

open Template (Combination bound crossProduct substituteBound eitherOf Settled Spanless)

/-! ## The line of a gateway -/

namespace Contents

variable {supplied : Option (List String)} {own later : Contents} {directive : Directive}
variable {directives : List Directive} {index : Nat} {line : Line}

/-- The section at `index` has the line. -/
def Holds (own : Contents) (index : Nat) (line : Line) : Prop :=
  ∃ s, own.sections[index]? = some s ∧ line ∈ s.lines

/-- The line that a gateway becomes; its variables have been replaced. -/
def gatewayLine (gateway : String) : Line := ⟨"ProxyCommand", [gatewayCommand gateway]⟩

/-- **The section that was opened last has the line.** -/
theorem holds_via {gateway : String} {earlier after : List Directive}
    (h : own.obeyAll supplied (earlier ++ .via gateway :: after) = .ok later)
    (hnone : own.sections = []) (hindex : (earlier.filter Directive.opens).length = index + 1) :
    ∃ here, own.obeyAll supplied earlier = .ok here ∧
      later.Holds index (gatewayLine (here.resolve gateway)) := by
  obtain ⟨here, s, body, hhere, hs⟩ := exists_filed_of_obeyAll h rfl hnone hindex
  refine ⟨here, hhere, _, hs, List.mem_append_right _ ?_⟩
  exact List.mem_filterMap.2 ⟨_, List.mem_cons_self, rfl⟩

variable {keys : KeyLibrary} {place : Section × Nat}

/-- Every host that a section is inherited by has the section's lines and then those of its
    identities, without others between them. -/
theorem HostExpands.exists_block (h : own.HostExpands keys place)
    (hreaches : own.Reaches [] place.2 index) {s : Section} (hs : own.sections[index]? = some s) :
    ∃ parts, List.Forall₂ (own.IdentityBlock keys) s.identities parts ∧
      s.lines ++ parts.flatten <:+: own.inherited keys place.2 := by
  obtain ⟨order, hcontributes⟩ := h.contributes
  obtain ⟨blocks, hblocks, houtcome⟩ := hcontributes.blocks
  obtain ⟨block, hblock, t, parts, ht, hparts, rfl⟩ :=
    exists_of_mem_right hblocks.flip ((hcontributes.reached index).2 hreaches)
  obtain rfl := Option.some.inj (hs.symm.trans ht)
  have hinherited : own.inherited keys place.2 = blocks.flatten := by
    unfold inherited
    rw [houtcome]
  rw [hinherited]
  exact ⟨parts, hparts, List.infix_of_mem_flatten hblock⟩

/-- What a section has, every host has that the section is inherited by. -/
theorem HostExpands.mem_inherited (h : own.HostExpands keys place)
    (hreaches : own.Reaches [] place.2 index) (hline : own.Holds index line) :
    line ∈ own.inherited keys place.2 := by
  obtain ⟨s, hs, hmem⟩ := hline
  obtain ⟨parts, -, hblock⟩ := h.exists_block hreaches hs
  exact hblock.subset (List.mem_append_left _ hmem)

/-! ## The filled line -/

variable {combination : Combination} {gateway : String}

/-- The command, with what is left of the spans in the gateway filled. -/
def filledCommand (own : Contents) (combination : Combination) (gateway : String) : String :=
  "ssh " ++ own.filled combination (Shell.quote gateway) ++ " nc %h %p 2> /dev/null"

/-- Only what stands in the gateway is filled. -/
theorem filled_gatewayLine :
    own.filled combination ((gatewayLine gateway).written indentation) =
      indentation ++ "ProxyCommand = " ++ own.filledCommand combination gateway := by
  have hblank : Text.isBlank ' ' = true := by decide
  have hfront : Spanless "    ProxyCommand = ssh".toList := by decide
  have hback : Spanless "nc %h %p 2> /dev/null".toList := by decide
  have hwritten : ((gatewayLine gateway).written indentation).toList =
      "    ProxyCommand = ssh".toList ++ ' ' :: ((Shell.quote gateway).toList ++
        ' ' :: "nc %h %p 2> /dev/null".toList) := by
    simp [gatewayLine, Line.written, gatewayCommand, indentation]
  apply String.toList_inj.1
  unfold filledCommand filled
  rw [Template.toList_substituteBound, hwritten, Template.replaced_append_blank _ hblank,
    Template.replaced_append_blank _ hblank, ← Template.toList_substituteBound,
    ← Template.toList_substituteBound, ← Template.toList_substituteBound, hfront.substituteBound,
    hback.substituteBound]
  simp [indentation]

/-- **The shell reads the gateway as one word** where nothing that is filled in holds a single
    quote. -/
theorem readCommand_filledCommand
    (h : Shell.QuoteFree (bound combination own.bindings) gateway.toList) :
    Shell.readCommand (own.filledCommand combination gateway) =
      some ⟨["ssh", own.filled combination gateway, "nc", "%h", "%p"], [("2", "/dev/null")]⟩ :=
  Shell.readCommand_of_spells (Shell.spells_filled h)

end Contents

/-! ## Documents that have been read -/

namespace Document

variable {out : Outside} {whole account : Account}

theorem Inside.mem_preorder (h : Inside out whole account) :
    ∀ own ∈ account.document.preorder, own ∈ whole.document.preorder := by
  induction h with
  | whole => exact fun own hown => hown
  | @included outer request child s reply around requested included classified answered read ih =>
    intro own hown
    refine ih own ?_
    obtain ⟨⟨contents, includes⟩, houter⟩ : ∃ document, outer.document = document := ⟨_, rfl⟩
    rw [houter] at included ⊢
    rw [preorder]
    exact List.mem_cons_of_mem _ (mem_preorderAll.2 ⟨child, included, hown⟩)

theorem Inside.contents_mem_preorder (h : Inside out whole account) :
    account.document.contents ∈ whole.document.preorder := by
  refine h.mem_preorder _ ?_
  obtain ⟨⟨contents, includes⟩, hdocument⟩ : ∃ document, account.document = document := ⟨_, rfl⟩
  rw [hdocument, preorder]
  exact List.mem_cons_self

/-- **A gateway is one word of the command that reaches it**, where nothing that is filled in late
    holds a single quote. Wherever in a tree of documents a text says `@via <gateway>`, the line
    belongs to the section that was opened last; and every stanza of every host that the section is
    inherited by has a `ProxyCommand` line, of which the value is the command. The shell reads it as
    `ssh`, the gateway, `nc`, `%h` and `%p`, with the error output sent off, if no span that was
    left in the gateway is named with a single quote or filled with one. And the gateway is then the
    one of the line, with every span replaced once — by what is bound before the line, or else by
    the combination and the variables of the document — if what was replaced first is settled. -/
theorem gateway_is_one_word {locator text : String} {document : Document}
    (hread : ReadAs out locator text document) {keys : KeyLibrary} {rendering : Rendering}
    (hrender : document.render keys = .ok rendering)
    (hinside : Inside out ⟨.start locator false .empty, none, text, document⟩ account)
    {earlier after : List Directive} {gateway : String} {index : Nat}
    (htext : Directive.ofText account.text = earlier ++ .via gateway :: after)
    (hindex : (earlier.filter Directive.opens).length = index + 1) :
    let own := account.document.contents
    ∃ here, account.start.obeyAll account.supplied earlier = .ok here ∧
      ∀ place ∈ own.hostPlaces, own.Reaches [] place.2 index →
        ∀ combination ∈ crossProduct place.1.axes,
          let left := here.resolve gateway
          let command := own.filledCommand combination left
          own.stanzaOf keys place combination ∈ rendering.stanzas ∧
          indentation ++ "ProxyCommand = " ++ command ∈
            (own.stanzaOf keys place combination).lines ∧
          (Shell.QuoteFree (bound combination own.bindings) left.toList →
            Shell.readCommand command =
              some ⟨["ssh", own.filled combination left, "nc", "%h", "%p"],
                [("2", "/dev/null")]⟩) ∧
          (Settled here.bindings.get? gateway.toList →
            own.filled combination left =
              substituteBound (eitherOf here.bindings.get? (bound combination own.bindings))
                gateway) := by
  obtain ⟨⟨_, _, _, hfresh⟩, -, chain, hread'⟩ := hinside.sound (sound_of_readAs hread)
  obtain ⟨-, hobey⟩ := obeyAll_of_readFrom hread'
  rw [htext] at hobey
  obtain ⟨here, hhere, hholds⟩ := Contents.holds_via hobey (by rw [hfresh]; rfl) hindex
  intro own
  refine ⟨here, hhere, fun place hplace hreaches combination hc => ?_⟩
  have hown := hinside.contents_mem_preorder
  have hexpands := ((stanzas_renderAfter document ∅ rendering hrender).2 _ hown).hosts place hplace
  refine ⟨stanzaOf_mem_stanzas hread hrender hown hplace hc, ?_,
    Contents.readCommand_filledCommand, fun hsettled => hsettled.substituteBound_substituteBound⟩
  refine List.mem_cons_of_mem _ (List.mem_map.2 ⟨_, hexpands.mem_inherited hreaches hholds, ?_⟩)
  exact Contents.filled_gatewayLine

def ferryText : String := "@set user it's\n@with gw a b\nHost near<gw>\n@via <user>@<gw>"

/-- A gateway of two spans, of which the first is bound before the line, to a text with a single
    quote. -/
def ferryDocument : Document :=
  ⟨{ Contents.start "ferry" false .empty with
      bindings := Dictionary.empty.insert "user" "it's"
      sections := [⟨"near<gw>", .host [⟨"gw", ["a", "b"]⟩], [Contents.gatewayLine "it's@<gw>"], [],
        []⟩] },
    []⟩

theorem lines_ferry : Text.lines ferryText =
    ["@set user it's", "@with gw a b", "Host near<gw>", "@via <user>@<gw>"] := by
  cbv

theorem readAs_ferry : ReadAs harbour.outside "ferry" ferryText ferryDocument := by
  refine ⟨1, ?_⟩
  unfold readWithin
  rw [lines_ferry,
    readLines_of_obey (by cbv) (by cbv : _ = Except.ok (.assign "user" "it's")) (by simp)
      (by cbv : _ = Except.ok { Contents.start "ferry" false .empty with
        bindings := Dictionary.empty.insert "user" "it's" }),
    readLines_of_obey (by cbv) (by cbv : _ = Except.ok (.withVariable ⟨"gw", ["a", "b"]⟩)) (by simp)
      rfl,
    readLines_of_obey (by cbv) (by cbv : _ = Except.ok (.host "near<gw>")) (by simp) rfl,
    readLines_of_obey (by cbv) (by cbv : _ = Except.ok (.via "<user>@<gw>")) (by simp) rfl]
  rfl

theorem ofText_ferry : Directive.ofText ferryText =
    [.assign "user" "it's", .withVariable ⟨"gw", ["a", "b"]⟩, .host "near<gw>"] ++
      .via "<user>@<gw>" :: [] := by
  have hset : Directive.ofRaw? "@set user it's" = some (.assign "user" "it's") :=
    Directive.ofRaw?_eq_some_iff.2 ⟨by cbv, by cbv⟩
  have hwith : Directive.ofRaw? "@with gw a b" = some (.withVariable ⟨"gw", ["a", "b"]⟩) :=
    Directive.ofRaw?_eq_some_iff.2 ⟨by cbv, by cbv⟩
  have hhost : Directive.ofRaw? "Host near<gw>" = some (.host "near<gw>") :=
    Directive.ofRaw?_eq_some_iff.2 ⟨by cbv, by cbv⟩
  have hvia : Directive.ofRaw? "@via <user>@<gw>" = some (.via "<user>@<gw>") :=
    Directive.ofRaw?_eq_some_iff.2 ⟨by cbv, by cbv⟩
  unfold Directive.ofText
  rw [lines_ferry]
  simp only [List.filterMap_cons, List.filterMap_nil, hset, hwith, hhost, hvia]
  rfl

theorem ferry_is_one_word :
    let command := "ssh 'it'\"'\"'s@a' nc %h %p 2> /dev/null"
    ReadAs harbour.outside "ferry" ferryText ferryDocument ∧
      ∃ rendering, ferryDocument.render (.empty "") = .ok rendering ∧
        (∃ stanza ∈ rendering.stanzas, indentation ++ "ProxyCommand = " ++ command ∈ stanza.lines) ∧
        Shell.readCommand command =
          some ⟨["ssh", "it's@a", "nc", "%h", "%p"], [("2", "/dev/null")]⟩ := by
  intro command
  let near : Section × Nat :=
    (⟨"near<gw>", .host [⟨"gw", ["a", "b"]⟩], [Contents.gatewayLine "it's@<gw>"], [], []⟩, 0)
  have hstanzas : (ferryDocument.contents.allStanzas (.empty "")).outcome =
      .ok [⟨some "neara", ["Host = neara",
          "    ProxyCommand = ssh 'it'\"'\"'s@a' nc %h %p 2> /dev/null"]⟩,
        ⟨some "nearb", ["Host = nearb",
          "    ProxyCommand = ssh 'it'\"'\"'s@b' nc %h %p 2> /dev/null"]⟩] := by
    decide +kernel
  have hglobals : ferryDocument.contents.globals = .ok [] := by
    decide +kernel
  have hexpands : ferryDocument.contents.Expands (.empty "") :=
    Contents.expands_of_eq_ok hglobals hstanzas
  obtain ⟨rendering, hrender⟩ :=
    exists_renderAfter_eq_ok ferryDocument ∅ (List.forall_mem_singleton.2 hexpands)
  obtain ⟨here, hhere, hall⟩ := gateway_is_one_word readAs_ferry hrender .whole ofText_ferry rfl
  have hplace : near ∈ ferryDocument.contents.hostPlaces := by decide
  have hc : [("gw", "a")] ∈ crossProduct near.1.axes := by decide
  obtain ⟨hstanza, hline, hword, hsettled⟩ := hall near hplace (.here List.not_mem_nil) _ hc
  have hbindings : here.bindings = Dictionary.empty.insert "user" "it's" := by
    obtain rfl := Except.ok.inj hhere
    rfl
  have hleft : here.resolve "<user>@<gw>" = "it's@<gw>" := by
    rw [Contents.resolve, hbindings]
    decide +kernel
  have hcommand : ferryDocument.contents.filledCommand [("gw", "a")] "it's@<gw>" = command := by
    decide +kernel
  have hfree : Shell.QuoteFree (bound [("gw", "a")] ferryDocument.contents.bindings)
      "it's@<gw>".toList := by
    decide +kernel
  rw [hleft, hbindings] at hsettled
  have hword' := hsettled <| Template.settled_of_not_mem (by decide) fun name value hvalue => by
    obtain rfl := List.mem_singleton.1 (Dictionary.mem_values_of_get? hvalue)
    decide
  rw [hleft, hcommand] at hline hword
  refine ⟨readAs_ferry, rendering, hrender, ⟨_, hstanza, hline⟩, ?_⟩
  rw [hword hfree, hword']
  decide +kernel

def straitText : String :=
  "@with gw it's\nHost near\n@via <gw>\n@set far <n>\n@with n 1\nHost far\n@via <far>"

/-- Two gateways: one is filled late with a text that holds a single quote, the other is bound
    before the line to a text that is a span. -/
def straitDocument : Document :=
  ⟨{ Contents.start "strait" false .empty with
      bindings := Dictionary.empty.insert "far" "<n>"
      sections := [
        ⟨"near", .host [⟨"gw", ["it's"]⟩], [Contents.gatewayLine "<gw>"], [], []⟩,
        ⟨"far", .host [⟨"n", ["1"]⟩], [Contents.gatewayLine "<n>"], [], []⟩] },
    []⟩

theorem readAs_strait : ReadAs harbour.outside "strait" straitText straitDocument := by
  have hlines : Text.lines straitText = ["@with gw it's", "Host near", "@via <gw>",
      "@set far <n>", "@with n 1", "Host far", "@via <far>"] := by
    cbv
  refine ⟨1, ?_⟩
  unfold readWithin
  rw [hlines,
    readLines_of_obey (by cbv) (by cbv : _ = Except.ok (.withVariable ⟨"gw", ["it's"]⟩)) (by simp)
      rfl,
    readLines_of_obey (by cbv) (by cbv : _ = Except.ok (.host "near")) (by simp) rfl,
    readLines_of_obey (by cbv) (by cbv : _ = Except.ok (.via "<gw>")) (by simp) rfl,
    readLines_of_obey (by cbv) (by cbv : _ = Except.ok (.assign "far" "<n>")) (by simp) rfl,
    readLines_of_obey (by cbv) (by cbv : _ = Except.ok (.withVariable ⟨"n", ["1"]⟩)) (by simp) rfl,
    readLines_of_obey (by cbv) (by cbv : _ = Except.ok (.host "far")) (by simp) rfl,
    readLines_of_obey (by cbv) (by cbv : _ = Except.ok (.via "<far>")) (by simp) rfl]
  rfl

/-- **What is filled in late can break out of the word**, and what was replaced first is read again.
    The first command is none, because its last quotes are left open; the gateway is `it's`. The
    second goes to `1`; the gateway, with its span replaced once, is `<n>`. -/
theorem strait_breaks_out :
    let near := "ssh 'it's' nc %h %p 2> /dev/null"
    let far := "ssh '1' nc %h %p 2> /dev/null"
    let bindings := straitDocument.contents.bindings
    ReadAs harbour.outside "strait" straitText straitDocument ∧
      ∃ rendering, straitDocument.render (.empty "") = .ok rendering ∧
        rendering.stanzas = [⟨none, []⟩,
          ⟨some "near", ["Host = near", indentation ++ "ProxyCommand = " ++ near]⟩,
          ⟨some "far", ["Host = far", indentation ++ "ProxyCommand = " ++ far]⟩] ∧
        Shell.readCommand near = none ∧
        substituteBound (eitherOf (fun _ => none) (bound [("gw", "it's")] bindings)) "<gw>" =
          "it's" ∧
        Shell.readCommand far = some ⟨["ssh", "1", "nc", "%h", "%p"], [("2", "/dev/null")]⟩ ∧
        substituteBound (eitherOf bindings.get? (bound [("n", "1")] bindings)) "<far>" = "<n>" := by
  intro near far bindings
  have hstanzas : (straitDocument.contents.allStanzas (.empty "")).outcome =
      .ok [⟨some "near", ["Host = near", indentation ++ "ProxyCommand = " ++ near]⟩,
        ⟨some "far", ["Host = far", indentation ++ "ProxyCommand = " ++ far]⟩] := by
    decide +kernel
  have hglobals : straitDocument.contents.globals = .ok [] := by
    decide +kernel
  have hexpands : straitDocument.contents.Expands (.empty "") :=
    Contents.expands_of_eq_ok hglobals hstanzas
  obtain ⟨rendering, hrender⟩ :=
    exists_renderAfter_eq_ok straitDocument ∅ (List.forall_mem_singleton.2 hexpands)
  refine ⟨readAs_strait, rendering, hrender, ?_, by decide +kernel, by decide +kernel,
    by decide +kernel, by decide +kernel⟩
  rw [stanzas_of_marked (marked_of_readAs readAs_strait) hrender]
  decide +kernel

end Document
end SshTemplate
