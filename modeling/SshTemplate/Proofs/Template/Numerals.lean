import Mathlib.Algebra.Group.Nat.Defs
import SshTemplate.Text.Numeral

/-!
# `Proofs.Template.Numerals` — integers and how they are spelled

`readInteger?` looks at a sign, at digits and at two limits. What it accepts is said here as a
relation between a text and an integer (`Numeral`), with core's own value of a digit string, and the
two agree (`readInteger?_eq_some_iff`). Everything that is written as an integer is then a numeral
for it: reading it again gives it back, filled up with zeros or not.

The widths are what a range leans on. A numeral between two others needs no more characters than the
longer of them (`length_decimal_le`), the sign included — so a value that is filled up to the width
of both bounds has exactly that width.
-/

set_option autoImplicit false

namespace SshTemplate
namespace Text

/-! ## Numerals -/

/-- A magnitude behind a sign. -/
inductive Signed (magnitude : Int) : List Char → Int → Prop where
  | bare : Signed magnitude [] magnitude
  | plus : Signed magnitude ['+'] magnitude
  | minus : Signed magnitude ['-'] (-magnitude)

/-- The integers of 64 bits with a sign. -/
def IsWord (value : Int) : Prop := -0x8000000000000000 ≤ value ∧ value < 0x8000000000000000

instance (value : Int) : Decidable (IsWord value) := inferInstanceAs (Decidable (_ ∧ _))

/-- The text is a sign, or none, and at least one decimal digit, for a value of 64 bits. -/
inductive Numeral : List Char → Int → Prop where
  | intro {sign digits : List Char} {value : Int} (some : digits ≠ [])
      (decimal : ∀ c ∈ digits, c.isDigit = true)
      (signed : Signed (Nat.ofDigitChars 10 digits 0) sign value) (word : IsWord value) :
      Numeral (sign ++ digits) value

theorem digitsValue_eq (digits : List Char) :
    digitsValue digits = Nat.ofDigitChars 10 digits 0 := by
  unfold digitsValue
  rw [Nat.ofDigitChars_eq_foldl]
  congr 1
  funext value c
  rw [Nat.mul_comm]

/-- A sign is cut off in front of digits, and a text without digits behind its sign is left over
    with something that is none. -/
theorem cutSign_digits {sign digits : List Char} {magnitude value : Int} (hsome : digits ≠ [])
    (hdigits : ∀ c ∈ digits, c.isDigit = true) (hsigned : Signed magnitude sign value) :
    cutSign (sign ++ digits) = (decide (sign = ['-']), digits) := by
  cases hsigned with
  | plus => rfl
  | minus => rfl
  | bare =>
    cases digits with
    | nil => exact absurd rfl hsome
    | cons c rest =>
      have hc : c.isDigit = true := hdigits c (by simp)
      have hminus : c ≠ '-' := by
        intro h
        rw [h] at hc
        exact absurd hc (by decide)
      have hplus : c ≠ '+' := by
        intro h
        rw [h] at hc
        exact absurd hc (by decide)
      unfold cutSign
      split
      · next h => exact absurd (List.cons.inj h).1 hminus
      · next h => exact absurd (List.cons.inj h).1 hplus
      · simp

theorem exists_cutSign (s : List Char) (magnitude : Int) :
    ∃ sign, s = sign ++ (cutSign s).2 ∧
      Signed magnitude sign (if (cutSign s).1 then -magnitude else magnitude) := by
  unfold cutSign
  split
  · exact ⟨['-'], rfl, .minus⟩
  · exact ⟨['+'], rfl, .plus⟩
  · exact ⟨[], rfl, .bare⟩

/-- **What is read as an integer is a numeral for it.** -/
theorem readInteger?_eq_some_iff {s : List Char} {value : Int} :
    readInteger? s = some value ↔ Numeral s value := by
  constructor
  · intro h
    obtain ⟨sign, hsplit, hsigned⟩ :=
      exists_cutSign s (Nat.ofDigitChars 10 (cutSign s).2 0 : Int)
    unfold readInteger? at h
    simp only [digitsValue_eq] at h
    generalize (if (cutSign s).1 = true then -(Nat.ofDigitChars 10 (cutSign s).2 0 : Int)
      else Nat.ofDigitChars 10 (cutSign s).2 0) = read at h hsigned
    split at h
    · cases h
    · next hdigits =>
      split at h
      · next hword =>
        obtain rfl := Option.some.inj h
        rw [Bool.or_eq_true, not_or, Bool.not_eq_true', Bool.not_eq_false,
          List.all_eq_true] at hdigits
        rw [hsplit]
        exact .intro (mt List.isEmpty_iff.2 hdigits.1) hdigits.2 hsigned hword
      · cases h
  · rintro ⟨hsome, hdigits, hsigned, hword⟩
    rename_i sign digits
    have hcut := cutSign_digits hsome hdigits hsigned
    have hall : (digits.isEmpty || !digits.all Char.isDigit) = false := by
      rw [Bool.or_eq_false_iff, Bool.not_eq_false', List.all_eq_true]
      exact ⟨List.isEmpty_eq_false_iff.2 hsome, hdigits⟩
    have hvalue : (if decide (sign = ['-']) = true then -(Nat.ofDigitChars 10 digits 0 : Int)
        else Nat.ofDigitChars 10 digits 0) = value := by
      cases hsigned with
      | bare => rfl
      | plus => rfl
      | minus => rfl
    unfold readInteger?
    simp only [hcut, hall, digitsValue_eq, hvalue, Bool.false_eq_true, if_false]
    exact if_pos hword

theorem Numeral.unique {s : List Char} {a b : Int} (ha : Numeral s a) (hb : Numeral s b) :
    a = b := by
  rw [← readInteger?_eq_some_iff] at ha hb
  exact Option.some.inj (ha.symm.trans hb)

theorem readInteger?_eq_none_iff {s : List Char} :
    readInteger? s = none ↔ ∀ value, ¬ Numeral s value := by
  rw [Option.eq_none_iff_forall_ne_some]
  exact forall_congr' fun value => not_congr readInteger?_eq_some_iff

theorem Numeral.isWord {s : List Char} {value : Int} (h : Numeral s value) : IsWord value := by
  cases h with
  | intro _ _ _ word => exact word

/-! ## Integers that are written -/

/-- The sign of an integer that is written. -/
def signOf (value : Int) : List Char := if value < 0 then ['-'] else []

theorem signed_signOf (value : Int) : Signed value.natAbs (signOf value) value := by
  unfold signOf
  by_cases h : value < 0
  · rw [if_pos h]
    have hvalue : value = -(value.natAbs : Int) := by omega
    rw [hvalue, Int.natAbs_neg, Int.natAbs_natCast]
    exact .minus
  · rw [if_neg h]
    have hvalue : value = (value.natAbs : Int) := by omega
    rw [hvalue, Int.natAbs_natCast]
    exact .bare

/-- Zeros in front of the digits change nothing. -/
theorem numeral_padded {value : Int} (h : IsWord value) (zeros : Nat) :
    Numeral (signOf value ++ (List.replicate zeros '0' ++ Nat.toDigits 10 value.natAbs)) value := by
  have hvalue : Nat.ofDigitChars 10 (List.replicate zeros '0' ++ Nat.toDigits 10 value.natAbs) 0 =
      value.natAbs := by
    rw [Nat.ofDigitChars_append, Nat.ofDigitChars_replicate_zero, Nat.mul_zero,
      Nat.ofDigitChars_ten_toDigits]
  refine .intro ?_ ?_ ?_ h
  · simp
  · intro c hc
    rcases List.mem_append.1 hc with hc | hc
    · rw [(List.mem_replicate.1 hc).2]
      rfl
    · exact Nat.isDigit_of_mem_toDigits (by decide) (by decide) hc
  · rw [hvalue]
    exact signed_signOf value

theorem zeroPadded_eq (width : Nat) (value : Int) :
    zeroPadded width value = signOf value ++ (List.replicate
      (width - (signOf value).length - (Nat.toDigits 10 value.natAbs).length) '0' ++
        Nat.toDigits 10 value.natAbs) := by
  unfold zeroPadded signOf
  rw [List.append_assoc]

theorem decimal_eq (value : Int) :
    decimal value = signOf value ++ Nat.toDigits 10 value.natAbs := rfl

theorem numeral_zeroPadded {value : Int} (h : IsWord value) (width : Nat) :
    Numeral (zeroPadded width value) value := by
  rw [zeroPadded_eq]
  exact numeral_padded h _

theorem numeral_decimal {value : Int} (h : IsWord value) : Numeral (decimal value) value := by
  rw [decimal_eq]
  exact numeral_padded h 0

/-- Plain decimal is how integers are shown. -/
theorem ofList_decimal (value : Int) : String.ofList (decimal value) = toString value := by
  rw [decimal_eq]
  unfold signOf
  cases value with
  | ofNat n => simp [toString, Int.repr, Nat.repr_eq_ofList_toDigits]
  | negSucc n =>
    rw [if_pos (Int.negSucc_lt_zero n), String.ofList_append]
    simp [toString, Int.repr, Nat.repr_eq_ofList_toDigits]

/-! ## Widths -/

theorem ofDigitChars_lt {digits : List Char} (h : ∀ c ∈ digits, c.isDigit = true) :
    Nat.ofDigitChars 10 digits 0 < 10 ^ digits.length := by
  induction digits with
  | nil => simp
  | cons c rest ih =>
    obtain ⟨hc, hrest⟩ := List.forall_mem_cons.1 h
    have hless := ih hrest
    have hdigit : c.toNat - '0'.toNat ≤ 9 := by
      have hbounds := (Char.isDigit_iff_toNat.1 hc).2
      have hnine : '9'.toNat = '0'.toNat + 9 := rfl
      omega
    rw [Nat.ofDigitChars_cons, Nat.ofDigitChars_eq_ofDigitChars_zero, Nat.mul_zero, Nat.zero_add,
      List.length_cons, Nat.pow_succ]
    have hmul := Nat.mul_le_mul_left (10 ^ rest.length) hdigit
    omega

/-- How large the value of a numeral can be, by the characters behind its sign. -/
theorem Numeral.natAbs_lt {s : List Char} {value : Int} (h : Numeral s value) :
    value.natAbs < 10 ^ (s.length - (signOf value).length) ∧ (signOf value).length < s.length := by
  cases h with
  | @intro sign digits _ hsome hdigits hsigned _ =>
    have hlt := ofDigitChars_lt hdigits
    have hpos := List.length_pos_iff.2 hsome
    rw [List.length_append]
    -- A minus in front of zeros is a sign that is not written again.
    have hgrow : ∀ more, 10 ^ digits.length ≤ 10 ^ (more + digits.length) := fun more =>
      Nat.pow_le_pow_right (by decide) (Nat.le_add_left _ _)
    have hbare : signOf (Nat.ofDigitChars 10 digits 0 : Int) = [] := by
      unfold signOf
      rw [if_neg (by omega)]
    cases hsigned with
    | bare =>
      rw [hbare]
      simp only [Int.natAbs_natCast, List.length_nil, Nat.sub_zero, Nat.zero_add]
      exact ⟨hlt, hpos⟩
    | plus =>
      rw [hbare]
      have hmore := hgrow 1
      simp only [Int.natAbs_natCast, List.length_nil, Nat.sub_zero, List.length_singleton]
      exact ⟨by omega, by omega⟩
    | minus =>
      unfold signOf
      have hmore := hgrow 1
      split
      · simp only [Int.natAbs_neg, Int.natAbs_natCast, List.length_singleton]
        rw [Nat.add_sub_cancel_left]
        exact ⟨hlt, by omega⟩
      · simp only [Int.natAbs_neg, Int.natAbs_natCast, List.length_nil, List.length_singleton,
          Nat.sub_zero]
        exact ⟨by omega, by omega⟩

theorem length_decimal_le_of_natAbs {value : Int} {width : Nat}
    (h : value.natAbs < 10 ^ (width - (signOf value).length))
    (hsign : (signOf value).length < width) : (decimal value).length ≤ width := by
  have hdigits : (Nat.toDigits 10 value.natAbs).length ≤ width - (signOf value).length :=
    (Nat.length_toDigits_le_iff (by decide) (by omega)).2 h
  rw [decimal_eq, List.length_append]
  omega

/-- **A value between two numerals is no longer than the longer of them.** -/
theorem length_decimal_le {low high : List Char} {start stop value : Int} {width : Nat}
    (hlow : Numeral low start) (hhigh : Numeral high stop) (hstart : start ≤ value)
    (hstop : value ≤ stop) (hlowWidth : low.length ≤ width) (hhighWidth : high.length ≤ width) :
    (decimal value).length ≤ width := by
  have hgrow : ∀ {a b : Nat}, a ≤ b → 10 ^ a ≤ 10 ^ b := fun h =>
    Nat.pow_le_pow_right (by decide) h
  by_cases hneg : value < 0
  · -- Below zero the lower bound has the more digits, and it has a sign as well.
    obtain ⟨hlt, hsign⟩ := hlow.natAbs_lt
    have hsame : signOf value = signOf start := by
      unfold signOf
      rw [if_pos hneg, if_pos (by omega)]
    rw [← hsame] at hlt hsign
    have hpow : 10 ^ (low.length - (signOf value).length) ≤
        10 ^ (width - (signOf value).length) := hgrow (by omega)
    exact length_decimal_le_of_natAbs (by omega) (by omega)
  · obtain ⟨hlt, hsign⟩ := hhigh.natAbs_lt
    have hsame : signOf value = signOf stop := by
      unfold signOf
      rw [if_neg hneg, if_neg (by omega)]
    rw [← hsame] at hlt hsign
    have hpow : 10 ^ (high.length - (signOf value).length) ≤
        10 ^ (width - (signOf value).length) := hgrow (by omega)
    exact length_decimal_le_of_natAbs (by omega) (by omega)

theorem length_zeroPadded {value : Int} {width : Nat} (h : (decimal value).length ≤ width) :
    (zeroPadded width value).length = width := by
  rw [decimal_eq, List.length_append] at h
  rw [zeroPadded_eq, List.length_append, List.length_append, List.length_replicate]
  omega

end Text
end SshTemplate
