import Mathlib.Logic.Basic
import SshTemplate.Template.Combinations
import SshTemplate.Logged

/-!
# `Proofs.Template.Domains` — which tokens and domains have no values

Reading a range goes through its text once and stops at the first thing that is wrong. What a range
looks like is said here without that order (`Spells`): a step behind the last slash, or none, and
two integers with two dots between them. A token in braces that spells no range, or one that is too
long, is the only kind of token that has no values (`exists_tokenValues_eq_error_iff`), and a domain
has none at the first such token.
-/

set_option autoImplicit false

namespace SshTemplate
namespace Template

open Text

namespace Range

/-- The bounds of a range are what stands before its last slash, and the step is what stands behind
    it; without a slash, all of it is the bounds, and the step is one. -/
inductive Stepped : List Char → List Char → Int → Prop where
  | one {inner : List Char} (unsplit : '/' ∉ inner) : Stepped inner inner 1
  | last {bounds text : List Char} {step : Int} (unsplit : '/' ∉ text)
      (number : readInteger? (trim text) = some step) : Stepped (bounds ++ '/' :: text) bounds step

/-- The text between the braces of a range. -/
inductive Spells (inner : List Char) (range : Range) : Prop where
  | intro {bounds low high : List Char} (stepped : Stepped inner bounds range.step)
      (parts : splitAtDots bounds = [low, high])
      (start : readInteger? (trim low) = some range.start)
      (stop : readInteger? (trim high) = some range.stop)
      (width : range.width =
        if byteLength low = byteLength high then some (byteLength high) else none)

theorem braced?_eq_some_iff {token inner : List Char} :
    braced? token = some inner ↔ token = '{' :: (inner ++ ['}']) := by
  constructor
  · intro h
    unfold braced? at h
    split at h
    · next rest =>
      split at h
      · next reversed hreverse =>
        obtain rfl := Option.some.inj h
        rw [← List.reverse_reverse rest, hreverse, List.reverse_cons]
      · cases h
    · cases h
  · rintro rfl
    simp [braced?]

theorem not_isSlash {text : List Char} (h : '/' ∉ text) : ∀ c ∈ text, decide (c = '/') = false := by
  intro c hc
  rw [decide_eq_false_iff_not]
  rintro rfl
  exact h hc

theorem stepped_iff {inner bounds : List Char} {step : Int} :
    Stepped inner bounds step ↔
      (cutLast? (· = '/') inner = none ∧ bounds = inner ∧ step = 1) ∨
        ∃ text, cutLast? (· = '/') inner = some (bounds, text) ∧
          readInteger? (trim text) = some step := by
  constructor
  · rintro (hunsplit | ⟨hunsplit, hnumber⟩)
    · exact Or.inl ⟨cutLast?_eq_none_iff.2 (not_isSlash hunsplit), rfl, rfl⟩
    · refine Or.inr ⟨_, cutLast?_eq_some_iff.2 ⟨'/', by simp, rfl, ?_⟩, hnumber⟩
      exact not_isSlash hunsplit
  · rintro (⟨hcut, rfl, rfl⟩ | ⟨text, hcut, hnumber⟩)
    · exact .one fun hmem => absurd (cutLast?_eq_none_iff.1 hcut '/' hmem) (by simp)
    · obtain ⟨c, hc, rfl, hafter⟩ := cutLast?_eq_some_iff.1 hcut
      obtain rfl : c = '/' := by simpa using hc
      exact .last (fun hmem => absurd (hafter '/' hmem) (by simp)) hnumber

/-- An integer of a range. -/
def readNumber (token : String) (text : List Char) : Except Issue Int :=
  match readInteger? (trim text) with
  | some value => .ok value
  | none => .error (.rangeNotInteger token)

/-- Reading a range, from where its step has been read. -/
def readStepped (token : String) (bounds : List Char) (step : Int) : Except Issue Range :=
  if step_pos : 1 ≤ step then
    match splitAtDots bounds with
    | [low, high] => do
      let start ← readNumber token low
      let stop ← readNumber token high
      let width := if byteLength low = byteLength high then some (byteLength high) else none
      let range : Range := ⟨start, stop, step, width, step_pos⟩
      if valueLimit < range.count then .error (.rangeFormat token) else .ok range
    | _ => .error (.rangeFormat token)
  else .error (.rangeFormat token)

theorem read_eq (token : String) (inner : List Char) :
    read token inner = match cutLast? (· = '/') inner with
      | none => readStepped token inner 1
      | some (bounds, text) => readNumber token text >>= readStepped token bounds := by
  unfold read
  cases cutLast? (· = '/') inner with
  | none => rfl
  | some cut =>
    obtain ⟨bounds, text⟩ := cut
    dsimp only [readNumber]
    cases readInteger? (trim text) with
    | none => rfl
    | some step => rfl

theorem readNumber_eq_ok_iff {token : String} {text : List Char} {value : Int} :
    readNumber token text = .ok value ↔ readInteger? (trim text) = some value := by
  unfold readNumber
  cases readInteger? (trim text) with
  | none => simp
  | some other => simp

theorem readStepped_eq_ok_iff {token : String} {bounds : List Char} {step : Int} {range : Range} :
    readStepped token bounds step = .ok range ↔
      range.step = step ∧ range.count ≤ valueLimit ∧
        ∃ low high, splitAtDots bounds = [low, high] ∧
          readInteger? (trim low) = some range.start ∧
          readInteger? (trim high) = some range.stop ∧
          range.width =
            if byteLength low = byteLength high then some (byteLength high) else none := by
  constructor
  · intro h
    unfold readStepped at h
    split at h
    · split at h
      · next low high hparts =>
        obtain ⟨start, hstart, h⟩ := exists_of_bind_eq_ok h
        obtain ⟨stop, hstop, h⟩ := exists_of_bind_eq_ok h
        rcases ite_eq_iff.1 h with ⟨-, h⟩ | ⟨hcount, h⟩
        · cases h
        · obtain rfl := Except.ok.inj h
          exact ⟨rfl, Nat.le_of_not_lt hcount, low, high, hparts, readNumber_eq_ok_iff.1 hstart,
            readNumber_eq_ok_iff.1 hstop, rfl⟩
      · cases h
    · cases h
  · rintro ⟨rfl, hcount, low, high, hparts, hstart, hstop, hwidth⟩
    obtain ⟨start, stop, step, width, step_pos⟩ := range
    subst hwidth
    unfold readStepped
    rw [dif_pos step_pos, hparts]
    dsimp only
    rw [readNumber_eq_ok_iff.2 hstart, readNumber_eq_ok_iff.2 hstop]
    exact if_neg (Nat.not_lt.2 hcount)

/-- **A range is read off what spells one**, unless it has too many values. -/
theorem read_eq_ok_iff {token : String} {inner : List Char} {range : Range} :
    read token inner = .ok range ↔ Spells inner range ∧ range.count ≤ valueLimit := by
  have hread : read token inner = .ok range ↔ ∃ bounds, Stepped inner bounds range.step ∧
      readStepped token bounds range.step = .ok range := by
    rw [read_eq]
    simp only [stepped_iff]
    cases hcut : cutLast? (· = '/') inner with
    | none =>
      constructor
      · intro h
        have hstep := (readStepped_eq_ok_iff.1 h).1
        exact ⟨inner, Or.inl ⟨rfl, rfl, hstep⟩, hstep ▸ h⟩
      · rintro ⟨bounds, ⟨-, rfl, hstep⟩ | ⟨text, hnone, -⟩, h⟩
        · exact hstep ▸ h
        · cases hnone
    | some cut =>
      obtain ⟨front, text⟩ := cut
      constructor
      · intro h
        obtain ⟨step, hnumber, h⟩ := exists_of_bind_eq_ok h
        obtain rfl := (readStepped_eq_ok_iff.1 h).1
        exact ⟨front, Or.inr ⟨text, rfl, readNumber_eq_ok_iff.1 hnumber⟩, h⟩
      · rintro ⟨bounds, ⟨hsome, -⟩ | ⟨other, hsame, hnumber⟩, h⟩
        · cases hsome
        · obtain ⟨rfl, rfl⟩ := Prod.mk.inj (Option.some.inj hsame)
          dsimp only
          rw [readNumber_eq_ok_iff.2 hnumber]
          exact h
  rw [hread]
  constructor
  · rintro ⟨bounds, hstepped, h⟩
    obtain ⟨-, hcount, low, high, hparts, hstart, hstop, hwidth⟩ := readStepped_eq_ok_iff.1 h
    exact ⟨.intro hstepped hparts hstart hstop hwidth, hcount⟩
  · rintro ⟨⟨hstepped, hparts, hstart, hstop, hwidth⟩, hcount⟩
    exact ⟨_, hstepped,
      readStepped_eq_ok_iff.2 ⟨rfl, hcount, _, _, hparts, hstart, hstop, hwidth⟩⟩

end Range

/-- A token in braces that spells no range, or one with too many values. -/
def FaultyToken (token : String) : Prop :=
  ∃ inner, token.toList = '{' :: (inner ++ ['}']) ∧
    ∀ range, Range.Spells inner range → valueLimit < range.count

/-- **A token has no values exactly if it is faulty.** -/
theorem exists_tokenValues_eq_error_iff {token : String} :
    (∃ issue, tokenValues token = .error issue) ↔ FaultyToken token := by
  unfold tokenValues FaultyToken
  simp only [← Range.braced?_eq_some_iff]
  cases Range.braced? token.toList with
  | none => simp
  | some inner =>
    have hfails : (∃ issue, Range.read token inner = .error issue) ↔
        ∀ range, Range.Spells inner range → valueLimit < range.count := by
      constructor
      · rintro ⟨issue, hissue⟩ range hspells
        refine Nat.lt_of_not_le fun hcount => ?_
        have hread : Range.read token inner = .ok range :=
          Range.read_eq_ok_iff.2 ⟨hspells, hcount⟩
        exact absurd (hissue.symm.trans hread) (by simp)
      · intro h
        cases hread : Range.read token inner with
        | error issue => exact ⟨issue, rfl⟩
        | ok range =>
          obtain ⟨hspells, hcount⟩ := Range.read_eq_ok_iff.1 hread
          exact absurd (h range hspells) (Nat.not_lt.2 hcount)
    simp only [Option.some.injEq, exists_eq_left']
    rw [← hfails]
    exact exists_congr fun issue => map_eq_error_iff

/-! ## Domains -/

/-- A domain is malformed at its first malformed token. -/
theorem domainValues_eq_error_iff {tokens : List String} {issue : Issue} :
    domainValues tokens = .error issue ↔
      ∃ before token after, tokens = before ++ token :: after ∧
        (∀ other ∈ before, ∃ values, tokenValues other = .ok values) ∧
        tokenValues token = .error issue :=
  map_eq_error_iff.trans mapM_eq_error_iff

theorem exists_domainValues_eq_ok_iff {tokens : List String} :
    (∃ values, domainValues tokens = .ok values) ↔
      ∀ token ∈ tokens, ∃ values, tokenValues token = .ok values := by
  constructor
  · rintro ⟨values, h⟩
    obtain ⟨lists, hlists, -⟩ := exists_of_map_eq_ok h
    exact forall_of_mapM_eq_ok hlists
  · intro h
    cases hdomain : domainValues tokens with
    | ok values => exact ⟨values, rfl⟩
    | error issue =>
      obtain ⟨before, token, after, rfl, -, htoken⟩ := domainValues_eq_error_iff.1 hdomain
      obtain ⟨values, hvalues⟩ := h token (by simp)
      exact absurd (htoken.symm.trans hvalues) (by simp)

theorem ofVariables_eq_error_iff {declarations : List TemplateVariable} {issue : Issue} :
    Combinations.ofVariables declarations = .error issue ↔
      ∃ before declared after, declarations = before ++ declared :: after ∧
        (∀ other ∈ before, ∃ values, domainValues other.domain = .ok values) ∧
        domainValues declared.domain = .error issue := by
  unfold Combinations.ofVariables
  rw [bind_eq_error_iff, mapM_eq_error_iff]
  simp only [map_eq_error_iff, exists_map_eq_ok_iff]
  constructor
  · rintro (h | ⟨axes, -, h⟩)
    · exact h
    · cases h
  · exact Or.inl

end Template
end SshTemplate
