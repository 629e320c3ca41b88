import SshTemplate.Proofs.Reading.Cycles
import SshTemplate.Proofs.Sources.Addresses

/-!
# `Proofs.Reading.Schemes` — locators under a foreign scheme

Only paths, `https` and `file` URLs are included, so a locator under any other scheme is to be
refused. What is refused, though, is a *URL* under another scheme: a text that cannot be read as a
URL at all is a path, and the scheme in front of it does not count. So the refusal hangs on what the
reader of URLs makes of the text (`foreign_address_is_refused`), and `http://` with nothing behind it
is asked for like any file of that name (`hostless_locator_is_path`).

Without two slashes nothing behind the colon can be malformed: `ssh:host` is always refused, and so
is everything else of that shape, unless the scheme is one of those that need a host.
-/

set_option autoImplicit false

namespace SshTemplate

/-! ## What a foreign locator is -/

namespace Source

variable {read : UrlReader} {locator : String} {scheme rest : List Char}

/-- A scheme begins with a letter, and a tilde is none. -/
theorem resolveTilde_of_under (h : Url.Under scheme rest locator) (home : Option String) :
    resolveTilde home locator = locator := by
  obtain ⟨word, ⟨first, more, rfl, hfirst, -⟩, hlocator, -⟩ := h
  have hne : first ≠ '~' := by
    rintro rfl
    exact absurd hfirst (by decide)
  unfold resolveTilde
  rw [hlocator, List.cons_append]
  split
  · next heq => exact absurd (List.cons.inj heq).1 hne
  · next heq => exact absurd (List.cons.inj heq).1 hne
  · rfl

theorem classify_of_foreign_url (hkeeps : Url.KeepsScheme read)
    (h : Url.Foreign locator scheme rest) (hurl : (read locator).isSome = true)
    (home : Option String) :
    classify read home locator = .error (.disallowedScheme (String.ofList scheme)) := by
  obtain ⟨url, hread⟩ := Option.isSome_iff_exists.1 hurl
  have hscheme := hkeeps locator scheme rest url h.under hread
  have hhttps : url.scheme ≠ "https" := fun heq => h.not_https (by rw [← heq, hscheme]; simp)
  have hfile : url.scheme ≠ "file" := fun heq => h.not_file (by rw [← heq, hscheme]; simp)
  unfold classify
  rw [hread]
  dsimp only
  rw [if_neg hhttps, if_neg hfile, hscheme]

theorem classify_of_foreign_text (h : Url.Foreign locator scheme rest) (hurl : read locator = none)
    (home : Option String) : classify read home locator = .ok (.path locator) := by
  unfold classify
  rw [hurl]
  dsimp only
  rw [resolveTilde_of_under h.under]

end Source

namespace Document

/-! ## Including a foreign locator -/

/-- The next line includes a document under the locator, as it stands when variables have been
    replaced. -/
def NextIncludes (current : Frame) (locator : String) : Prop :=
  ∃ raw rest source args, current.rest = raw :: rest ∧ ¬ Line.isRemark raw = true ∧
    Directive.read raw = .ok (.includes source args) ∧
    current.document.contents.resolve source = locator

variable {out : Outside} {asked : List Source} {current : Frame} {outer : List Frame}
variable {locator : String}

/-- A refusal comes before the fetcher is asked. -/
theorem next_of_refused {refusal : Refusal} (h : NextIncludes current locator)
    (hs : out.classify locator = .error refusal) :
    next out (.reading asked current outer) =
      .ended asked (.error (.security current.document.contents.locator locator refusal)) := by
  obtain ⟨raw, rest, source, args, hrest, hr, hread, rfl⟩ := h
  rw [next_of_line hrest hr, stepLine_of_include hread, openInclude_of_refused hs]
  simp [Logged.fail]

theorem atInclude_of_classified {s : Source} (h : NextIncludes current locator)
    (hs : out.classify locator = .ok s) : AtInclude out current s := by
  obtain ⟨raw, rest, source, args, hrest, hr, hread, rfl⟩ := h
  exact ⟨raw, rest, source, args, hrest, hr, hread, hs⟩

/-- What including a foreign address comes to. -/
def Frame.foreignError (frame : Frame) (locator : String) (scheme : List Char) : Error :=
  .security frame.document.contents.locator locator (.disallowedScheme (String.ofList scheme))

/-- **A foreign URL is refused, and a foreign locator that is no URL is a path.** The refusal comes
    exactly if the reader accepts the text. Where no host is needed and none is begun by two slashes,
    it always does; where a host is needed, slashes alone are no URL. A line that includes a foreign
    URL ends the reading at once, with nothing asked for; a line that includes another foreign
    locator includes the file of that name. -/
theorem foreign_address_is_refused {readUrl : UrlReader} (hkeeps : Url.KeepsScheme readUrl)
    {scheme rest : List Char} (h : Url.Foreign locator scheme rest) :
    (∀ home, Source.classify readUrl home locator =
        .error (.disallowedScheme (String.ofList scheme)) ↔ (readUrl locator).isSome = true) ∧
    (∀ home, readUrl locator = none →
      Source.classify readUrl home locator = .ok (.path locator)) ∧
    (Url.ReadsHostless readUrl → scheme ∉ Url.hostSchemes →
      (∀ authority, Url.stripped rest ≠ '/' :: '/' :: authority) →
        ∀ home, Source.classify readUrl home locator =
          .error (.disallowedScheme (String.ofList scheme))) ∧
    (Url.NeedsHost readUrl → scheme ∈ Url.hostSchemes → (∀ c ∈ rest, c = '/' ∨ c = '\\') →
      ∀ home, Source.classify readUrl home locator = .ok (.path locator)) ∧
    ∀ out asked current outer, out.readUrl = readUrl → NextIncludes current locator →
      ((readUrl locator).isSome = true →
        next out (.reading asked current outer) =
          .ended asked (.error (current.foreignError locator scheme)) ∧
        ∀ around top text n, out = around.outside →
          (next out)^[n] (firstState out top text) = .reading asked current outer →
            read around top text = ⟨asked, .error (current.foreignError locator scheme)⟩) ∧
      (readUrl locator = none → AtInclude out current (.path locator)) := by
  have hrefused := Source.classify_of_foreign_url hkeeps h
  have hpath : readUrl locator = none → ∀ home,
      Source.classify readUrl home locator = .ok (.path locator) :=
    Source.classify_of_foreign_text h
  refine ⟨fun home => ⟨fun herror => ?_, fun hurl => hrefused hurl home⟩,
    fun home hnone => hpath hnone home,
    fun hhostless hscheme hslashes => hrefused (hhostless _ _ _ h.under hscheme h.not_file hslashes),
    fun hneeds hscheme hslashes => hpath (hneeds _ _ _ h.under hscheme hslashes), ?_⟩
  · by_contra hurl
    rw [hpath (Option.not_isSome_iff_eq_none.1 hurl) home] at herror
    cases herror
  · rintro out asked current outer rfl hnext
    refine ⟨fun hurl => ?_, fun hnone => atInclude_of_classified hnext (hpath hnone out.home)⟩
    have hended : next out (.reading asked current outer) =
        .ended asked (.error (current.foreignError locator scheme)) :=
      next_of_refused hnext (hrefused hurl out.home)
    refine ⟨hended, fun around top text n hout hstate => ?_⟩
    subst hout
    exact read_of_next_ended hstate hended

theorem ssh_address_is_refused :
    Url.KeepsScheme Address.reader ∧ Url.ReadsHostless Address.reader ∧
      Url.Foreign "SSH:host" "ssh".toList "host".toList ∧
      Source.classify Address.reader (some "/home") "SSH:host" =
        .error (.disallowedScheme "ssh") := by
  have hforeign : Url.Foreign "SSH:host" "ssh".toList "host".toList :=
    ⟨⟨['S', 'S', 'H'], ⟨'S', ['S', 'H'], rfl, rfl, by simp⟩, by decide, by decide⟩, by decide,
      by decide⟩
  obtain ⟨-, -, hplain, -⟩ := foreign_address_is_refused Address.keepsScheme_reader hforeign
  refine ⟨Address.keepsScheme_reader, Address.readsHostless_reader, hforeign,
    hplain Address.readsHostless_reader (by decide) (fun authority => ?_) (some "/home")⟩
  have hstripped : Url.stripped "host".toList = "host".toList := by decide
  rw [hstripped]
  simp

/-- Not every foreign locator is refused: without its host `http://` is no URL, and so it is a
    path. -/
theorem hostless_locator_is_path :
    Url.Foreign "http://" "http".toList "//".toList ∧
      (∀ readUrl home, Url.NeedsHost readUrl →
        Source.classify readUrl home "http://" = .ok (.path "http://")) ∧
      ¬ ∀ readUrl home locator scheme rest, Url.KeepsScheme readUrl → Url.ReadsHostless readUrl →
        Url.NeedsHost readUrl → Url.Foreign locator scheme rest →
          ∃ found, Source.classify readUrl home locator = .error (.disallowedScheme found) := by
  have hforeign : Url.Foreign "http://" "http".toList "//".toList :=
    ⟨⟨['h', 't', 't', 'p'], ⟨'h', ['t', 't', 'p'], rfl, rfl, by simp⟩, by decide, by decide⟩,
      by decide, by decide⟩
  have hpath : ∀ readUrl home, Url.NeedsHost readUrl →
      Source.classify readUrl home "http://" = .ok (.path "http://") := fun readUrl home hneeds =>
    Source.classify_of_foreign_text hforeign
      (hneeds _ _ _ hforeign.under (by simp [Url.hostSchemes]) (by simp)) home
  refine ⟨hforeign, hpath, fun hall => ?_⟩
  obtain ⟨found, hfound⟩ := hall Address.reader none "http://" _ _ Address.keepsScheme_reader
    Address.readsHostless_reader Address.needsHost_reader hforeign
  rw [hpath _ _ Address.needsHost_reader] at hfound
  cases hfound

end Document
end SshTemplate
