/-
Numbers printed with a fixed number of places.

# Lengths

A number is printed as the digits of a whole number, with zeros in front where
there are too few of them, and a point before the last places. So the length
goes by the number of digits (`length_pointBefore`), and rounding keeps the
order: the text of a larger magnitude is not shorter
(`length_fixedMagnitude_mono`).

# Values

The digits around the point, read together, are the number that was rounded,
as zeros at the front do not count (`digitsValue_placed`), and the length of
the second part is the number of places. So the text denotes the rounded
number divided by a power of ten.

Rounding is to the nearest whole number, and to the even one where two are
equally near (`NearestEven`). That is shown from the division with rest: the
rest is at most half of the divisor where it rounds down, and at least half
where it rounds up (`nearestEven_divHalfEven`). Read as a decimal number, the
text is therefore the nearest one with so many places (`roundsTo_fixed`).

A number that is positive may be printed as zero, and is so exactly if it is
half of the last place or less (`RoundsTo.pos_iff`).
-/
import Mathlib.Algebra.Order.Field.Basic
import Mathlib.Algebra.Order.Field.Rat
import Mathlib.Tactic.Linarith
import SerialEndpoint.Number.Decimal
import SerialEndpoint.Proofs.Number.Rounding

namespace SerialEndpoint

-- ============================================================== digits

/-- Digits with zeros before them, so that one can stand before the point. -/
def placed (places : Nat) (digits : List Char) : List Char :=
  List.replicate (places + 1 - digits.length) '0' ++ digits

theorem length_placed (places : Nat) (digits : List Char) :
    (placed places digits).length = max (places + 1) digits.length := by
  unfold placed
  rw [List.length_append, List.length_replicate]
  omega

/-- The point stands before the last places, and behind a digit. -/
theorem pointBefore_split {places : Nat} (hplaces : places ≠ 0) (digits : List Char) :
    ∃ whole fraction, pointBefore places digits = whole ++ '.' :: fraction
      ∧ whole ++ fraction = placed places digits ∧ whole ≠ [] ∧ fraction.length = places := by
  have hlength := length_placed places digits
  refine ⟨(placed places digits).take ((placed places digits).length - places),
    (placed places digits).drop ((placed places digits).length - places), ?_, ?_, ?_, ?_⟩
  · exact if_neg hplaces
  · exact List.take_append_drop _ _
  · rw [← List.length_pos_iff, List.length_take]
    omega
  · rw [List.length_drop]
    omega

theorem length_pointBefore (places : Nat) (digits : List Char) :
    (pointBefore places digits).length
      = max (places + 1) digits.length + if places = 0 then 0 else 1 := by
  rw [← length_placed]
  split
  · rename_i hnone
    subst hnone
    show ((placed 0 digits).take _).length = _
    exact congrArg List.length (List.take_length ..)
  · rename_i hplaces
    obtain ⟨whole, fraction, hsplit, hdigits, -, -⟩ := pointBefore_split hplaces digits
    rw [hsplit, ← hdigits, List.length_append, List.length_append, List.length_cons,
      Nat.add_assoc]

/-- A larger number has no fewer digits. -/
theorem length_toDigits_mono {n n' : Nat} (h : n ≤ n') :
    (Nat.toDigits 10 n).length ≤ (Nat.toDigits 10 n').length := by
  have hpos : 0 < (Nat.toDigits 10 n').length := Nat.length_toDigits_pos
  rw [Nat.length_toDigits_le_iff (by decide) hpos]
  exact Nat.lt_of_le_of_lt h ((Nat.length_toDigits_le_iff (by decide) hpos).1 (Nat.le_refl _))

theorem length_fixedMagnitude_mono (places : Nat) {u v : Nat} (h : u ≤ v) :
    (fixedMagnitude places u).length ≤ (fixedMagnitude places v).length := by
  have hrounded := divHalfEven_mono Binary64.unitsPerOne_pos
    (Nat.mul_le_mul_right (Nat.pow 10 places) h)
  have hdigits := length_toDigits_mono hrounded
  unfold fixedMagnitude
  rw [length_pointBefore, length_pointBefore]
  omega

-- =============================================================== values

/-- Zeros at the front do not count. -/
theorem digitsValue_placed (places n : Nat) :
    digitsValue (placed places (Nat.toDigits 10 n)) = n := by
  have hzeros : ∀ k, (List.replicate k '0').foldl
      (fun n c => 10 * n + (c.toNat - '0'.toNat)) 0 = 0 := by
    intro k
    induction k with
    | zero => rfl
    | succ k ih =>
        rw [List.replicate_succ, List.foldl_cons]
        exact ih
  unfold digitsValue placed
  rw [List.foldl_append, hzeros]
  exact Nat.ofDigitChars_toDigits (by decide) (by decide)

/-- The text of a magnitude is digits around a point, and these are the
digits of what it was rounded to. -/
theorem fixedMagnitude_split {places : Nat} (hplaces : places ≠ 0) (units : Nat) :
    ∃ whole fraction, fixedMagnitude places units = whole ++ '.' :: fraction
      ∧ whole ≠ [] ∧ fraction.length = places
      ∧ (∀ c ∈ whole ++ fraction, c.isDigit = true)
      ∧ digitsValue (whole ++ fraction)
          = divHalfEven (units * 10 ^ places) Binary64.unitsPerOne := by
  unfold fixedMagnitude
  rw [Nat.pow_eq]
  generalize divHalfEven (units * 10 ^ places) Binary64.unitsPerOne = n
  obtain ⟨whole, fraction, hsplit, hdigits, hwhole, hlength⟩ :=
    pointBefore_split hplaces (Nat.toDigits 10 n)
  refine ⟨whole, fraction, hsplit, hwhole, hlength, ?_, ?_⟩
  · rw [hdigits]
    intro c hc
    rcases List.mem_append.1 hc with hc | hc
    · rw [List.eq_of_mem_replicate hc]
      decide
    · exact Nat.isDigit_of_mem_toDigits (by decide) (by decide) hc
  · rw [hdigits, digitsValue_placed]

-- ================================================ the nearest number

/-- The exact value of a finite number. -/
def Binary64.value? : Binary64 → Option ℚ
  | finite negative units => some ((if negative then -1 else 1) * (units / unitsPerOne))
  | _ => none

theorem value?_finite (units : Nat) :
    (Binary64.finite false units).value? = some ((units : ℚ) / Binary64.unitsPerOne) := by
  show some ((if false then -1 else 1) * ((units : ℚ) / Binary64.unitsPerOne)) = _
  rw [if_neg Bool.false_ne_true, one_mul]

/-- A whole number that is nearest to a number, and even if another one is
as near. -/
structure NearestEven (n : Nat) (x : ℚ) : Prop where
  near : |x - n| ≤ 1 / 2
  even : |x - n| = 1 / 2 → n % 2 = 0

theorem nearestEven_divHalfEven (num : Nat) {den : Nat} (hden : 0 < den) :
    NearestEven (divHalfEven num den) (num / den) := by
  have hpos : (0 : ℚ) < den := Nat.cast_pos.2 hden
  have hsplit : (num : ℚ) / den = (num / den : Nat) + ((num % den : Nat) : ℚ) / den := by
    rw [eq_comm, ← mul_left_inj' hpos.ne', add_mul, div_mul_cancel₀ _ hpos.ne',
      div_mul_cancel₀ _ hpos.ne']
    exact_mod_cast Nat.div_add_mod' num den
  have hrest : (0 : ℚ) ≤ ((num % den : Nat) : ℚ) / den :=
    div_nonneg (Nat.cast_nonneg _) hpos.le
  have hless : ((num % den : Nat) : ℚ) / den < 1 := by
    rw [div_lt_one hpos]
    exact_mod_cast Nat.mod_lt num hden
  have hhalf : ((num % den : Nat) : ℚ) / den = 1 / 2 → 2 * (num % den) = den := by
    intro h
    rw [div_eq_iff hpos.ne'] at h
    have hdouble : 2 * ((num % den : Nat) : ℚ) = den := by rw [h]; ring
    exact_mod_cast hdouble
  rw [hsplit]
  rcases divHalfEven_cases num den with ⟨hdown, hsmall⟩ | ⟨hup, hlarge⟩
  -- rounded down: the distance is the rest
  · have hnear : ((num % den : Nat) : ℚ) / den ≤ 1 / 2 := by
      rw [div_le_iff₀ hpos]
      have hcast : 2 * ((num % den : Nat) : ℚ) ≤ den := by exact_mod_cast hsmall
      linarith
    have hdistance : |((num / den : Nat) : ℚ) + ((num % den : Nat) : ℚ) / den
        - (divHalfEven num den : ℚ)| = ((num % den : Nat) : ℚ) / den := by
      rw [hdown, add_sub_cancel_left, abs_of_nonneg hrest]
    refine ⟨?_, fun htie => divHalfEven_half (hhalf ?_)⟩
    · rw [hdistance]
      exact hnear
    · rw [← hdistance]
      exact htie
  -- rounded up: the distance is what the rest lacks of one
  · have hnear : 1 - ((num % den : Nat) : ℚ) / den ≤ 1 / 2 := by
      have hcast : (den : ℚ) ≤ 2 * ((num % den : Nat) : ℚ) := by exact_mod_cast hlarge
      have hover : 1 / 2 ≤ ((num % den : Nat) : ℚ) / den := by
        rw [le_div_iff₀ hpos]
        linarith
      linarith
    have hdistance : |((num / den : Nat) : ℚ) + ((num % den : Nat) : ℚ) / den
        - (divHalfEven num den : ℚ)| = 1 - ((num % den : Nat) : ℚ) / den := by
      rw [hup, abs_of_nonpos]
      · push_cast
        ring
      · push_cast
        linarith
    refine ⟨?_, fun htie => divHalfEven_half (hhalf ?_)⟩
    · rw [hdistance]
      exact hnear
    · rw [hdistance] at htie
      linarith

/-- The nearest whole number is zero for one half and less. -/
theorem nearestEven_zero_iff {n : Nat} {x : ℚ} (h : NearestEven n x) : n = 0 ↔ x ≤ 1 / 2 := by
  obtain ⟨hlow, hhigh⟩ := abs_le.1 h.near
  constructor
  · rintro rfl
    rw [Nat.cast_zero, sub_zero] at hhigh
    exact hhigh
  · intro hsmall
    have hone : n ≤ 1 := by
      have hcast : (n : ℚ) ≤ 1 := by linarith
      exact_mod_cast hcast
    rcases Nat.le_one_iff_eq_zero_or_eq_one.1 hone with hzero | rfl
    · exact hzero
    · -- as near as zero is, and odd
      have htie : |x - (1 : Nat)| = 1 / 2 := by
        rw [Nat.cast_one, abs_of_nonpos (by linarith)]
        push_cast at hlow
        linarith
      exact absurd (h.even htie) (by decide)

/-- The number that digits around a point denote. -/
def decimalValue (whole places : String) : ℚ :=
  digitsValue (whole.toList ++ places.toList) / 10 ^ places.length

/-- A number with some places that is nearest to a number, its last digit
even if another one is as near. -/
def RoundsTo (places : Nat) (x value : ℚ) : Prop :=
  ∃ n : Nat, value = n / 10 ^ places ∧ NearestEven n (x * 10 ^ places)

theorem RoundsTo.nonneg {places : Nat} {x value : ℚ} (h : RoundsTo places x value) :
    0 ≤ value := by
  obtain ⟨n, rfl, -⟩ := h
  exact div_nonneg (Nat.cast_nonneg _) (pow_nonneg (by norm_num) _)

/-- Half of the last place and less is rounded to zero. -/
theorem RoundsTo.pos_iff {places : Nat} {x value : ℚ} (h : RoundsTo places x value) :
    0 < value ↔ 1 / 2 / 10 ^ places < x := by
  obtain ⟨n, rfl, hnear⟩ := h
  have hscale : (0 : ℚ) < 10 ^ places := pow_pos (by norm_num) _
  rw [div_lt_iff₀ hscale, div_pos_iff_of_pos_right hscale, Nat.cast_pos, Nat.pos_iff_ne_zero,
    Ne, nearestEven_zero_iff hnear, not_le]

/-- A number that is printed with places, and read again. -/
theorem roundsTo_fixed {places : Nat} (hplaces : places ≠ 0) (units : Nat) :
    ∃ whole fraction : String,
      (Binary64.finite false units).fixed places = whole ++ "." ++ fraction
        ∧ whole ≠ "" ∧ fraction ≠ ""
        ∧ (∀ c ∈ whole.toList ++ fraction.toList, c.isDigit = true)
        ∧ decimalValue whole fraction
            = divHalfEven (units * 10 ^ places) Binary64.unitsPerOne / 10 ^ places
        ∧ RoundsTo places (units / Binary64.unitsPerOne) (decimalValue whole fraction) := by
  obtain ⟨whole, fraction, hsplit, hwhole, hlength, hdigits, hvalue⟩ :=
    fixedMagnitude_split hplaces units
  have hdecimal : decimalValue (String.ofList whole) (String.ofList fraction)
      = divHalfEven (units * 10 ^ places) Binary64.unitsPerOne / 10 ^ places := by
    unfold decimalValue
    rw [String.toList_ofList, String.toList_ofList, String.length_ofList, hvalue, hlength]
  refine ⟨String.ofList whole, String.ofList fraction, ?_, ?_, ?_, ?_, hdecimal, ?_⟩
  · rw [← String.toList_inj]
    simp only [String.toList_append, String.toList_ofList]
    rw [List.append_assoc]
    exact (String.toList_ofList (l := _)).trans hsplit
  · intro hempty
    rw [← String.toList_inj, String.toList_ofList] at hempty
    exact hwhole hempty
  · intro hempty
    rw [← String.toList_inj, String.toList_ofList] at hempty
    rw [hempty] at hlength
    exact hplaces hlength.symm
  · simpa only [String.toList_ofList] using hdigits
  · refine ⟨_, hdecimal, ?_⟩
    have hnear := nearestEven_divHalfEven (units * 10 ^ places) Binary64.unitsPerOne_pos
    have hscaled : ((units * 10 ^ places : Nat) : ℚ) / Binary64.unitsPerOne
        = units / Binary64.unitsPerOne * 10 ^ places := by
      push_cast
      exact mul_div_right_comm _ _ _
    rwa [hscaled] at hnear

end SerialEndpoint
