import SshTemplate.Proofs.Template.Domains
import SshTemplate.Proofs.Template.Numerals

/-!
# `Proofs.Template.Ranges` — what a domain token comes to

`Domains.lean` says which tokens have no values. Here is the whole decision: which of the two issues
a malformed token has, and what the values of the others are. `Decision` lists the seven ways a
token can go, each with everything that has to hold for it; they exclude each other, and
`token_values_are_decided` says that a token goes the way that is listed and no other.

The values are described one by one (`Listing`): the value at place `k` is `k` steps from the start,
there is one at every place that is not above the end, and its text is settled by the texts of the
bounds. Nothing in that knows about the size of words. That the same values come out of 64-bit words
and a difference in 128 bits, without a sum or a difference that does not fit, is a statement of its
own (`InWords`), about all words there are.
-/

set_option autoImplicit false

namespace SshTemplate
namespace Template

open Text

namespace Range

/-! ## Parts of a range -/

/-- What stands before the last slash and behind it; without a slash, all of it and nothing. -/
inductive CutAtSlash : List Char → List Char → Option (List Char) → Prop where
  | uncut {inner : List Char} (unsplit : '/' ∉ inner) : CutAtSlash inner inner none
  | cut {bounds text : List Char} (unsplit : '/' ∉ text) :
      CutAtSlash (bounds ++ '/' :: text) bounds (some text)

theorem cutAtSlash_iff {inner bounds : List Char} {text : Option (List Char)} :
    CutAtSlash inner bounds text ↔
      (cutLast? (· = '/') inner = none ∧ bounds = inner ∧ text = none) ∨
        ∃ behind, cutLast? (· = '/') inner = some (bounds, behind) ∧ text = some behind := by
  constructor
  · intro h
    cases h with
    | uncut unsplit => exact Or.inl ⟨cutLast?_eq_none_iff.2 (not_isSlash unsplit), rfl, rfl⟩
    | cut unsplit =>
      refine Or.inr ⟨_, cutLast?_eq_some_iff.2 ⟨'/', by simp, rfl, ?_⟩, rfl⟩
      exact not_isSlash unsplit
  · rintro (⟨hcut, rfl, rfl⟩ | ⟨behind, hcut, rfl⟩)
    · exact .uncut fun hmem => absurd (cutLast?_eq_none_iff.1 hcut '/' hmem) (by simp)
    · obtain ⟨c, hc, rfl, hafter⟩ := cutLast?_eq_some_iff.1 hcut
      obtain rfl : c = '/' := by simpa using hc
      exact .cut fun hmem => absurd (hafter '/' hmem) (by simp)

theorem exists_cutAtSlash (inner : List Char) : ∃ bounds text, CutAtSlash inner bounds text := by
  cases hcut : cutLast? (· = '/') inner with
  | none => exact ⟨inner, none, cutAtSlash_iff.2 (Or.inl ⟨hcut, rfl, rfl⟩)⟩
  | some cut => exact ⟨cut.1, some cut.2, cutAtSlash_iff.2 (Or.inr ⟨cut.2, hcut, rfl⟩)⟩

/-- The step is what the text behind the slash is a numeral for, or one. -/
inductive StepIs : Option (List Char) → Int → Prop where
  | one : StepIs none 1
  | given {text : List Char} {step : Int} (number : Numeral (trim text) step) :
      StepIs (some text) step

/-- The parts are what stands between the pairs of dots, each pair the leftmost one there is: no
    part holds a pair, and none but the last ends with a dot, which would begin an earlier one. -/
inductive DotParts : List Char → List (List Char) → Prop where
  | last {part : List Char} (whole : ¬ ['.', '.'] <:+: part) : DotParts part [part]
  | pair {part rest : List Char} {parts : List (List Char)}
      (whole : ¬ ['.', '.'] <:+: part ++ ['.']) (behind : DotParts rest parts) :
      DotParts (part ++ '.' :: '.' :: rest) (part :: parts)

theorem splitAtDots_of_ne {c : Char} {rest : List Char} (h : ¬ (c = '.' ∧ rest.head? = some '.'))
    {part : List Char} {parts : List (List Char)} (hrest : splitAtDots rest = part :: parts) :
    splitAtDots (c :: rest) = (c :: part) :: parts := by
  unfold splitAtDots
  split
  · next heq => exact absurd heq (by simp)
  · next heq =>
    obtain ⟨rfl, rfl⟩ := List.cons.inj heq
    exact absurd ⟨rfl, rfl⟩ h
  · next heq =>
    obtain ⟨rfl, rfl⟩ := List.cons.inj heq
    rw [hrest]

/-- A pair of dots is in a text if it is at the front or behind the first character. -/
theorem dots_infix_cons_iff {c : Char} {rest : List Char} :
    ['.', '.'] <:+: c :: rest ↔ (c = '.' ∧ rest.head? = some '.') ∨ ['.', '.'] <:+: rest := by
  have hfront : ['.', '.'] <+: c :: rest ↔ c = '.' ∧ rest.head? = some '.' := by
    rw [List.cons_prefix_cons]
    cases rest with
    | nil => simp
    | cons d more => simp [eq_comm]
  rw [List.infix_cons_iff, hfront]

theorem splitAtDots_of_whole {part : List Char} (h : ¬ ['.', '.'] <:+: part) :
    splitAtDots part = [part] := by
  induction part with
  | nil => rfl
  | cons c rest ih =>
    obtain ⟨hfront, hrest⟩ := not_or.1 (mt dots_infix_cons_iff.2 h)
    exact splitAtDots_of_ne hfront (ih hrest)

theorem splitAtDots_of_pair {part : List Char} (h : ¬ ['.', '.'] <:+: part ++ ['.'])
    (rest : List Char) :
    splitAtDots (part ++ '.' :: '.' :: rest) = part :: splitAtDots rest := by
  induction part with
  | nil => rfl
  | cons c more ih =>
    obtain ⟨hfront, hmore⟩ := not_or.1 (mt dots_infix_cons_iff.2 h)
    refine splitAtDots_of_ne (fun hdots => hfront ⟨hdots.1, ?_⟩) (ih hmore)
    cases more with
    | nil => rfl
    | cons d others => exact hdots.2

theorem DotParts.splitAtDots_eq {text : List Char} {parts : List (List Char)}
    (h : DotParts text parts) : splitAtDots text = parts := by
  induction h with
  | last whole => exact splitAtDots_of_whole whole
  | pair whole _ ih => rw [splitAtDots_of_pair whole, ih]

/-- A character that begins no pair of dots goes to the first part. -/
theorem DotParts.cons {c : Char} {text part : List Char} {parts : List (List Char)}
    (hfront : ¬ (c = '.' ∧ text.head? = some '.')) (h : DotParts text (part :: parts)) :
    DotParts (c :: text) ((c :: part) :: parts) := by
  cases h with
  | last whole => exact .last fun hin => (dots_infix_cons_iff.1 hin).elim hfront whole
  | @pair _ rest _ whole behind =>
    have hwhole : ¬ ['.', '.'] <:+: c :: part ++ ['.'] := by
      intro hin
      rcases dots_infix_cons_iff.1 hin with hdots | hin
      · apply hfront
        refine ⟨hdots.1, ?_⟩
        cases part with
        | nil => rfl
        | cons d others => exact hdots.2
      · exact whole hin
    exact .pair hwhole behind

theorem dotParts_splitAtDots (text : List Char) : DotParts text (splitAtDots text) := by
  induction text using splitAtDots.induct with
  | case1 => exact .last (by decide)
  | case2 rest ih => exact @DotParts.pair [] _ _ (by decide) ih
  | case3 c rest hnot hempty ih =>
    rw [hempty] at ih
    cases ih
  | case4 c rest hnot part parts hsplit ih =>
    have hfront : ¬ (c = '.' ∧ rest.head? = some '.') := by
      rintro ⟨rfl, hhead⟩
      cases rest with
      | nil => cases hhead
      | cons d more =>
        obtain rfl : d = '.' := by simpa using hhead
        exact hnot more rfl rfl
    rw [splitAtDots_of_ne hfront hsplit]
    rw [hsplit] at ih
    exact ih.cons hfront

/-- **A text has one list of parts between its pairs of dots.** -/
theorem dotParts_iff {text : List Char} {parts : List (List Char)} :
    DotParts text parts ↔ splitAtDots text = parts := by
  constructor
  · exact DotParts.splitAtDots_eq
  · intro h
    rw [← h]
    exact dotParts_splitAtDots text

/-! ## The values -/

/-- The values of a range whose bounds are spelled `low` and `high`, place by place. -/
structure Listing (low high : List Char) (start stop step : Int) (values : List String) :
    Prop where
  /-- There is a value at a place if as many steps do not lead above the end, -/
  reached : ∀ k : Nat, k < values.length ↔ start + k * step ≤ stop
  count : (values.length : Int) = max 0 ((stop - start) / step + 1)
  limited : values.length ≤ 1000000
  distinct : values.Nodup
  /-- and read as an integer it is so many steps from the start. -/
  number : ∀ (k : Nat) (text : String), values[k]? = some text →
    Numeral text.toList (start + k * step)
  /-- Bounds of one width are the width of every value, filled up behind the sign. -/
  padded : byteLength low = byteLength high → ∀ (k : Nat) (text : String),
    values[k]? = some text → text.length = byteLength low ∧
      ∃ zeros, text.toList = signOf (start + k * step) ++
        (List.replicate zeros '0' ++ Nat.toDigits 10 (start + k * step).natAbs)
  /-- Otherwise values are written as integers are. -/
  plain : byteLength low ≠ byteLength high → ∀ (k : Nat) (text : String),
    values[k]? = some text → text = toString (start + k * step)

/-- A listing settles every text. -/
theorem Listing.unique {low high : List Char} {start stop step : Int} {values others : List String}
    (h : Listing low high start stop step values) (h' : Listing low high start stop step others) :
    values = others := by
  have hlength : values.length = others.length := by
    have hcount := h.count.trans h'.count.symm
    omega
  apply List.ext_getElem hlength
  intro k hk hk'
  have hleft : values[k]? = some values[k] := List.getElem?_eq_getElem hk
  have hright : others[k]? = some others[k] := List.getElem?_eq_getElem hk'
  by_cases hwidth : byteLength low = byteLength high
  · obtain ⟨hlen, zeros, htext⟩ := h.padded hwidth k _ hleft
    obtain ⟨hlen', zeros', htext'⟩ := h'.padded hwidth k _ hright
    -- Both are of one length, so both have the same zeros.
    have hzeros : zeros = zeros' := by
      rw [← String.length_toList, htext] at hlen
      rw [← String.length_toList, htext'] at hlen'
      simp only [List.length_append, List.length_replicate] at hlen hlen'
      omega
    apply String.toList_inj.1
    rw [htext, htext', hzeros]
  · rw [h.plain hwidth k _ hleft, h'.plain hwidth k _ hright]

theorem lt_count_iff {range : Range} {k : Nat} :
    k < range.count ↔ range.start + k * range.step ≤ range.stop := by
  have hpos : 0 < range.step := Int.lt_of_lt_of_le (by decide) range.step_pos
  have hquotient : (k : Int) ≤ (range.stop - range.start) / range.step ↔
      k * range.step ≤ range.stop - range.start := Int.le_ediv_iff_mul_le hpos
  have hproduct : 0 ≤ (k : Int) * range.step := Int.mul_nonneg (by omega) (by omega)
  unfold count
  split <;> omega

theorem count_eq (range : Range) :
    (range.count : Int) = max 0 ((range.stop - range.start) / range.step + 1) := by
  have hpos : 0 < range.step := Int.lt_of_lt_of_le (by decide) range.step_pos
  unfold count
  split
  · next h =>
    have hnonneg : 0 ≤ (range.stop - range.start) / range.step :=
      Int.ediv_nonneg (by omega) (by omega)
    omega
  · next h =>
    have hneg : (range.stop - range.start) / range.step < 0 :=
      Int.ediv_neg_of_neg_of_pos (by omega) hpos
    omega

theorem count_le_iff {range : Range} :
    range.count ≤ valueLimit ↔
      (range.start ≤ range.stop → (range.stop - range.start) / range.step < 1000000) := by
  unfold count valueLimit
  split <;> omega

/-- **A range is listed in full.** -/
theorem listing_values {low high : List Char} {range : Range}
    (hlow : Numeral (trim low) range.start) (hhigh : Numeral (trim high) range.stop)
    (hwidth : range.width =
      if byteLength low = byteLength high then some (byteLength high) else none)
    (hlimit : range.count ≤ valueLimit) :
    Listing low high range.start range.stop range.step (range.values.map range.written) := by
  have hpos : 0 < range.step := Int.lt_of_lt_of_le (by decide) range.step_pos
  have hlength : (range.values.map range.written).length = range.count := by
    unfold values
    simp
  have hat : ∀ (k : Nat) (text : String), (range.values.map range.written)[k]? = some text →
      range.start ≤ range.start + k * range.step ∧ range.start + k * range.step ≤ range.stop ∧
        text = range.written (range.start + k * range.step) := by
    intro k text htext
    have hk : k < range.count := by
      rw [← hlength]
      exact (List.getElem?_eq_some_iff.1 htext).1
    have hproduct : 0 ≤ (k : Int) * range.step := Int.mul_nonneg (by omega) (by omega)
    refine ⟨by omega, lt_count_iff.1 hk, ?_⟩
    unfold values at htext
    rw [List.getElem?_map, List.getElem?_map, List.getElem?_range hk] at htext
    exact (Option.some.inj htext).symm
  have hword : ∀ value, range.start ≤ value → value ≤ range.stop → IsWord value := by
    intro value hstart hstop
    have h1 := hlow.isWord
    have h2 := hhigh.isWord
    unfold IsWord at h1 h2 ⊢
    omega
  have hnumber : ∀ (k : Nat) (text : String),
      (range.values.map range.written)[k]? = some text →
        Numeral text.toList (range.start + k * range.step) := by
    intro k text htext
    obtain ⟨hstart, hstop, rfl⟩ := hat k text htext
    unfold written
    rw [String.toList_ofList]
    cases range.width with
    | none => exact numeral_decimal (hword _ hstart hstop)
    | some width => exact numeral_zeroPadded (hword _ hstart hstop) width
  have htrim : ∀ text : List Char, (trim text).length ≤ byteLength text := by
    intro text
    refine Nat.le_trans ?_ (length_le_byteLength text)
    unfold trim trimEnd trimStart
    have h1 := (List.dropWhile_sublist isBlank (l := text)).length_le
    have h2 := (List.dropWhile_sublist isBlank (l := (text.dropWhile isBlank).reverse)).length_le
    rw [List.length_reverse] at h2 ⊢
    omega
  refine ⟨fun k => ?_, ?_, ?_, ?_, hnumber, fun hsame k text htext => ?_,
    fun hdiffer k text htext => ?_⟩
  · rw [hlength]
    exact lt_count_iff
  · rw [hlength]
    exact count_eq range
  · rw [hlength]
    exact hlimit
  · apply List.pairwise_iff_getElem.2
    intro i j hi hj hij heq
    have hleft := hnumber i _ (List.getElem?_eq_getElem hi)
    have hsame := hleft.unique (heq ▸ hnumber j _ (List.getElem?_eq_getElem hj))
    have hmul : (i : Int) * range.step = j * range.step := by omega
    have hindex := Int.eq_of_mul_eq_mul_right (by omega) hmul
    omega
  · obtain ⟨hstart, hstop, rfl⟩ := hat k text htext
    have hle := length_decimal_le hlow hhigh hstart hstop (htrim low) (hsame ▸ htrim high)
    rw [if_pos hsame] at hwidth
    unfold written
    rw [hwidth, ← String.length_toList, String.toList_ofList, ← hsame]
    exact ⟨length_zeroPadded hle, _, zeroPadded_eq _ _⟩
  · obtain ⟨hstart, hstop, rfl⟩ := hat k text htext
    rw [if_neg hdiffer] at hwidth
    unfold written
    rw [hwidth]
    exact ofList_decimal _

/-! ## Reading -/

/-- The token is in braces, and these are the bounds and the step that stand between them. -/
inductive Steps (token : String) (bounds : List Char) (step : Int) : Prop where
  | intro {inner : List Char} {text : Option (List Char)}
      (braced : token.toList = '{' :: (inner ++ ['}'])) (cut : CutAtSlash inner bounds text)
      (step : StepIs text step)

theorem readNumber_of_numeral {token : String} {text : List Char} {value : Int}
    (h : Numeral (trim text) value) : readNumber token text = .ok value :=
  readNumber_eq_ok_iff.2 (readInteger?_eq_some_iff.2 h)

theorem readNumber_of_unread {token : String} {text : List Char}
    (h : ∀ value, ¬ Numeral (trim text) value) :
    readNumber token text = .error (.rangeNotInteger token) := by
  unfold readNumber
  rw [readInteger?_eq_none_iff.2 h]

theorem tokenValues_of_braced {token : String} {inner : List Char}
    (h : token.toList = '{' :: (inner ++ ['}'])) :
    tokenValues token =
      (fun range : Range => range.values.map range.written) <$> read token inner := by
  unfold tokenValues
  rw [braced?_eq_some_iff.2 h]
  rfl

theorem tokenValues_of_steps {token : String} {bounds : List Char} {step : Int}
    (h : Steps token bounds step) :
    tokenValues token =
      (fun range : Range => range.values.map range.written) <$> readStepped token bounds step := by
  obtain ⟨braced, cut, hstep⟩ := h
  rw [tokenValues_of_braced braced, read_eq]
  rcases cutAtSlash_iff.1 cut with ⟨hcut, rfl, rfl⟩ | ⟨behind, hcut, rfl⟩
  · cases hstep
    rw [hcut]
  · cases hstep with
    | given number =>
      rw [hcut]
      show _ <$> (readNumber token behind >>= readStepped token bounds) = _
      rw [readNumber_of_numeral number]
      rfl

/-- The range with these bounds, which are spelled `low` and `high`. -/
def ofBounds (low high : List Char) (start stop : Int) {step : Int} (forward : 1 ≤ step) : Range :=
  ⟨start, stop, step, if byteLength low = byteLength high then some (byteLength high) else none,
    forward⟩

theorem readStepped_of_parts {token : String} {bounds low high : List Char} {step : Int}
    (forward : 1 ≤ step) (h : DotParts bounds [low, high]) :
    readStepped token bounds step = (do
      let start ← readNumber token low
      let stop ← readNumber token high
      if valueLimit < (ofBounds low high start stop forward).count then
        .error (.rangeFormat token)
      else .ok (ofBounds low high start stop forward)) := by
  unfold readStepped
  rw [dif_pos forward, dotParts_iff.1 h]
  rfl

/-- What a token comes to once its bounds have been read. -/
theorem tokenValues_of_bounds {token : String} {bounds low high : List Char}
    {start stop step : Int} (hsteps : Steps token bounds step) (forward : 1 ≤ step)
    (hsplit : DotParts bounds [low, high]) (hlow : Numeral (trim low) start)
    (hhigh : Numeral (trim high) stop) :
    tokenValues token =
      if valueLimit < (ofBounds low high start stop forward).count then .error (.rangeFormat token)
      else .ok ((ofBounds low high start stop forward).values.map
        (ofBounds low high start stop forward).written) := by
  rw [tokenValues_of_steps hsteps, readStepped_of_parts forward hsplit,
    readNumber_of_numeral hlow, readNumber_of_numeral hhigh]
  show _ <$> (if valueLimit < (ofBounds low high start stop forward).count then _ else _) = _
  by_cases h : valueLimit < (ofBounds low high start stop forward).count
  · rw [if_pos h, if_pos h]
    rfl
  · rw [if_neg h, if_neg h]
    rfl

/-! ## The decision -/

/-- The ways a token can go, in the order in which they are told apart. -/
inductive Decision (token : String) : Except Issue (List String) → Prop where
  /-- A token that is not in two braces stands for itself. -/
  | literal (bare : ∀ inner, token.toList ≠ '{' :: (inner ++ ['}'])) :
      Decision token (.ok [token])
  | stepUnread {inner bounds text : List Char} (braced : token.toList = '{' :: (inner ++ ['}']))
      (cut : CutAtSlash inner bounds (some text)) (unread : ∀ step, ¬ Numeral (trim text) step) :
      Decision token (.error (.rangeNotInteger token))
  | stepTooSmall {bounds : List Char} {step : Int} (steps : Steps token bounds step)
      (small : step < 1) : Decision token (.error (.rangeFormat token))
  | notTwoBounds {bounds : List Char} {step : Int} {parts : List (List Char)}
      (steps : Steps token bounds step) (forward : 1 ≤ step) (split : DotParts bounds parts)
      (number : parts.length ≠ 2) : Decision token (.error (.rangeFormat token))
  | boundUnread {bounds low high : List Char} {step : Int} (steps : Steps token bounds step)
      (forward : 1 ≤ step) (split : DotParts bounds [low, high])
      (unread : (∀ start, ¬ Numeral (trim low) start) ∨ ∀ stop, ¬ Numeral (trim high) stop) :
      Decision token (.error (.rangeNotInteger token))
  | tooMany {bounds low high : List Char} {start stop step : Int} (steps : Steps token bounds step)
      (forward : 1 ≤ step) (split : DotParts bounds [low, high])
      (first : Numeral (trim low) start) (last : Numeral (trim high) stop) (below : start ≤ stop)
      (many : 1000000 ≤ (stop - start) / step) : Decision token (.error (.rangeFormat token))
  | listed {bounds low high : List Char} {start stop step : Int} {values : List String}
      (steps : Steps token bounds step) (forward : 1 ≤ step) (split : DotParts bounds [low, high])
      (first : Numeral (trim low) start) (last : Numeral (trim high) stop)
      (few : start ≤ stop → (stop - start) / step < 1000000)
      (listing : Listing low high start stop step values) : Decision token (.ok values)

theorem tokenValues_of_decision {token : String} {result : Except Issue (List String)}
    (h : Decision token result) : tokenValues token = result := by
  cases h with
  | literal bare =>
    have hnone : braced? token.toList = none :=
      Option.eq_none_iff_forall_ne_some.2 fun inner h => bare inner (braced?_eq_some_iff.1 h)
    unfold tokenValues
    rw [hnone]
  | stepUnread braced cut unread =>
    rcases cutAtSlash_iff.1 cut with ⟨_, _, hnone⟩ | ⟨behind, hcut, hsome⟩
    · cases hnone
    · obtain rfl := Option.some.inj hsome
      rw [tokenValues_of_braced braced, read_eq, hcut]
      show _ <$> (readNumber token _ >>= readStepped token _) = _
      rw [readNumber_of_unread unread]
      rfl
  | stepTooSmall steps small =>
    rw [tokenValues_of_steps steps]
    unfold readStepped
    rw [dif_neg (by omega)]
    rfl
  | notTwoBounds steps forward split number =>
    rw [tokenValues_of_steps steps]
    unfold readStepped
    rw [dif_pos forward]
    split
    · next low high hparts =>
      rw [← dotParts_iff.1 split, hparts] at number
      exact absurd rfl number
    · rfl
  | @boundUnread bounds low high step steps forward split unread =>
    rw [tokenValues_of_steps steps, readStepped_of_parts forward split]
    -- Either bound gives the same issue, so it does not show which is read first.
    by_cases hlow : ∃ start, Numeral (trim low) start
    · obtain ⟨start, hstart⟩ := hlow
      have hhigh := unread.resolve_left fun h => h start hstart
      rw [readNumber_of_numeral hstart, readNumber_of_unread hhigh]
      rfl
    · rw [readNumber_of_unread (not_exists.1 hlow)]
      rfl
  | tooMany steps forward split first last below many =>
    rw [tokenValues_of_bounds steps forward split first last, if_pos]
    exact Nat.lt_of_not_le fun hle => Int.not_lt.2 many (count_le_iff.1 hle below)
  | @listed bounds low high start stop step values steps forward split first last few listing =>
    have hlimit : (ofBounds low high start stop forward).count ≤ valueLimit := count_le_iff.2 few
    have hlisting : Listing low high start stop step _ := listing_values first last rfl hlimit
    rw [tokenValues_of_bounds steps forward split first last, if_neg (Nat.not_lt.2 hlimit)]
    exact congrArg Except.ok (hlisting.unique listing)

theorem exists_decision (token : String) : ∃ result, Decision token result := by
  by_cases hbraced : ∃ inner, token.toList = '{' :: (inner ++ ['}'])
  · obtain ⟨inner, hbraced⟩ := hbraced
    obtain ⟨bounds, text, hcut⟩ := exists_cutAtSlash inner
    by_cases hstep : ∃ step, StepIs text step
    · obtain ⟨step, hstep⟩ := hstep
      have hsteps : Steps token bounds step := ⟨hbraced, hcut, hstep⟩
      by_cases hforward : 1 ≤ step
      · have hsplit := dotParts_splitAtDots bounds
        by_cases hnumber : (splitAtDots bounds).length = 2
        · have htwo : ∃ low high, splitAtDots bounds = [low, high] := by
            match splitAtDots bounds, hnumber with
            | [low, high], _ => exact ⟨low, high, rfl⟩
          obtain ⟨low, high, htwo⟩ := htwo
          rw [htwo] at hsplit
          by_cases hlow : ∃ start, Numeral (trim low) start
          · by_cases hhigh : ∃ stop, Numeral (trim high) stop
            · obtain ⟨start, hstart⟩ := hlow
              obtain ⟨stop, hstop⟩ := hhigh
              let range := ofBounds low high start stop hforward
              by_cases hlimit : range.count ≤ valueLimit
              · exact ⟨_, .listed hsteps hforward hsplit hstart hstop (count_le_iff.1 hlimit)
                  (@listing_values _ _ range hstart hstop rfl hlimit)⟩
              · obtain ⟨hbelow, hmany⟩ := Classical.not_imp.1 (mt count_le_iff.2 hlimit)
                exact ⟨_, .tooMany hsteps hforward hsplit hstart hstop hbelow (Int.not_lt.1 hmany)⟩
            · exact ⟨_, .boundUnread hsteps hforward hsplit (Or.inr (not_exists.1 hhigh))⟩
          · exact ⟨_, .boundUnread hsteps hforward hsplit (Or.inl (not_exists.1 hlow))⟩
        · exact ⟨_, .notTwoBounds hsteps hforward hsplit hnumber⟩
      · exact ⟨_, .stepTooSmall hsteps (Int.not_le.1 hforward)⟩
    · cases text with
      | none => exact absurd ⟨1, .one⟩ hstep
      | some text =>
        exact ⟨_, .stepUnread hbraced hcut fun step h => hstep ⟨step, .given h⟩⟩
  · exact ⟨_, .literal (not_exists.1 hbraced)⟩

/-! ## Words -/

/-- Counting in words of 64 bits: a sum that does not fit is not taken, and ends the counting as one
    above the end does. -/
def countInWords (start stop step : BitVec 64) : Nat → Option (BitVec 64)
  | 0 => if start.toInt ≤ stop.toInt then some start else none
  | k + 1 =>
    match countInWords start stop step k with
    | none => none
    | some value =>
      if value.saddOverflow step then none
      else if (value + step).toInt ≤ stop.toInt then some (value + step) else none

/-- What a range comes to in words is what it is. -/
structure InWords (start stop step : BitVec 64) : Prop where
  /-- The difference of the bounds fits into 128 bits, -/
  fits : (stop.signExtend 128).ssubOverflow (start.signExtend 128) = false
  difference : (stop.signExtend 128 - start.signExtend 128).toInt = stop.toInt - start.toInt
  /-- and dividing it by the step gives the number of steps that there is room for. -/
  quotient : start.toInt ≤ stop.toInt →
    ((stop.signExtend 128 - start.signExtend 128).sdiv (step.signExtend 128)).toInt =
      (stop.toInt - start.toInt) / step.toInt
  /-- The step without its sign is the same number. -/
  stride : (step.toNat : Int) = step.toInt
  counted : ∀ k : Nat, (countInWords start stop step k).map BitVec.toInt =
    if start.toInt + k * step.toInt ≤ stop.toInt then some (start.toInt + k * step.toInt) else none

theorem toInt_countInWords {start stop step : BitVec 64} (hstep : 0 < step.toInt) (k : Nat) :
    (countInWords start stop step k).map BitVec.toInt =
      if start.toInt + k * step.toInt ≤ stop.toInt then some (start.toInt + k * step.toInt)
      else none := by
  have hstop : stop.toInt < 2 ^ 63 := BitVec.toInt_lt
  have hstart : -2 ^ 63 ≤ start.toInt := BitVec.le_toInt start
  induction k with
  | zero =>
    unfold countInWords
    simp only [Int.natCast_zero, Int.zero_mul, Int.add_zero]
    split <;> rfl
  | succ k ih =>
    have hnext : start.toInt + (k + 1 : Nat) * step.toInt =
        start.toInt + k * step.toInt + step.toInt := by
      rw [Int.natCast_add, Int.add_mul, Int.natCast_one, Int.one_mul, Int.add_assoc]
    have hproduct : 0 ≤ (k : Int) * step.toInt := Int.mul_nonneg (by omega) (by omega)
    rw [hnext]
    unfold countInWords
    cases hvalue : countInWords start stop step k with
    | none =>
      rw [hvalue] at ih
      -- What lies above the end is not reached by one more step.
      have habove : ¬ start.toInt + k * step.toInt ≤ stop.toInt := by
        intro hle
        rw [if_pos hle] at ih
        cases ih
      rw [if_neg (by omega)]
      rfl
    | some value =>
      rw [hvalue] at ih
      have hat : value.toInt = start.toInt + k * step.toInt := by
        rcases ite_eq_iff.1 ih.symm with ⟨-, h⟩ | ⟨-, h⟩
        · exact (Option.some.inj h).symm
        · cases h
      dsimp only
      by_cases hover : value.saddOverflow step = true
      · -- A sum that does not fit is above every word.
        have hbig : 2 ^ 63 ≤ value.toInt + step.toInt := by
          unfold BitVec.saddOverflow at hover
          simp only [Bool.or_eq_true, decide_eq_true_eq] at hover
          omega
        rw [if_pos hover, if_neg (by omega)]
        rfl
      · have hsum : (value + step).toInt = start.toInt + k * step.toInt + step.toInt := by
          rw [BitVec.toInt_add_of_not_saddOverflow hover, hat]
        rw [if_neg hover, hsum]
        split
        · exact congrArg some hsum
        · rfl

/-- **No step of a range overflows**, whatever its bounds and its step are. -/
theorem inWords {start stop step : BitVec 64} (hstep : 0 < step.toInt) :
    InWords start stop step := by
  have hwiden : ∀ word : BitVec 64, (word.signExtend 128).toInt = word.toInt := fun word =>
    BitVec.toInt_signExtend_of_le (by decide)
  have hlow : ∀ word : BitVec 64, -2 ^ 63 ≤ word.toInt := fun word => BitVec.le_toInt word
  have hhigh : ∀ word : BitVec 64, word.toInt < 2 ^ 63 := fun word => BitVec.toInt_lt
  have h1 := hlow start
  have h2 := hhigh start
  have h3 := hlow stop
  have h4 := hhigh stop
  have hfits : (stop.signExtend 128).ssubOverflow (start.signExtend 128) = false := by
    unfold BitVec.ssubOverflow
    rw [hwiden, hwiden, Bool.or_eq_false_iff, decide_eq_false_iff_not, decide_eq_false_iff_not]
    omega
  have hdifference : (stop.signExtend 128 - start.signExtend 128).toInt =
      stop.toInt - start.toInt := by
    rw [BitVec.toInt_sub_of_not_ssubOverflow (by simp [hfits]), hwiden, hwiden]
  refine ⟨hfits, hdifference, fun hle => ?_, ?_, toInt_countInWords hstep⟩
  · have hdivisor : step.signExtend 128 ≠ -1#128 := by
      intro h
      have hvalue := congrArg BitVec.toInt h
      rw [hwiden] at hvalue
      have hone : (-1#128).toInt = -1 := by decide
      omega
    rw [BitVec.toInt_sdiv_of_ne_or_ne _ _ (Or.inr hdivisor), hdifference, hwiden]
    exact Int.tdiv_eq_ediv_of_nonneg (by omega)
  · have hmsb : step.msb = false := by
      rw [BitVec.msb_eq_toInt]
      exact decide_eq_false (by omega)
    exact (BitVec.toInt_eq_toNat_of_msb hmsb).symm

end Range

/-- **What a token comes to.** The ways a token can go are listed by `Decision`: it comes to what is
    listed for it and to nothing else, so the first thing that is wrong decides between the issues,
    and the values of a range are those of its listing. The listing is exact for all bounds and steps
    of 64 bits: counting in words meets no sum that does not fit below the end, and the difference
    of the bounds fits into 128 bits. -/
theorem token_values_are_decided (token : String) (result : Except Issue (List String)) :
    (tokenValues token = result ↔ Range.Decision token result) ∧
      ∀ start stop step : BitVec 64, 0 < step.toInt → Range.InWords start stop step := by
  refine ⟨⟨?_, Range.tokenValues_of_decision⟩, fun start stop step h => Range.inWords h⟩
  rintro rfl
  obtain ⟨other, hother⟩ := Range.exists_decision token
  rw [Range.tokenValues_of_decision hother]
  exact hother

theorem padded_token_is_decided :
    Range.Decision "\x7b -3..+14/5\x7d" (.ok ["-03", "002", "007", "012"]) ∧
      0 < (0x7FFFFFFFFFFFFFFF#64).toInt ∧
      Range.InWords 0x8000000000000000#64 0x7FFFFFFFFFFFFFFF#64 0x7FFFFFFFFFFFFFFF#64 := by
  have hvalues : tokenValues "\x7b -3..+14/5\x7d" = .ok ["-03", "002", "007", "012"] := by rfl
  have hstep : 0 < (0x7FFFFFFFFFFFFFFF#64).toInt := by decide
  refine ⟨?_, hstep, ?_⟩
  · exact (token_values_are_decided _ _).1.1 hvalues
  · exact (token_values_are_decided "" (.ok [])).2 _ _ _ hstep

end Template
end SshTemplate
