/-
Rounding keeps the order.

# Division

A quotient is rounded down to at most the half and up from it
(`divHalfEven_cases`), at the half itself to the even number. So a larger
dividend does not give less (`divHalfEven_mono`): the only way for the order
to break would be two dividends with one whole part, the smaller one rounded
up and the larger one down, and both would then be at the half and equal.

# Quotients

A quotient is rounded to a whole number of some power of two, so many bits of
it being dropped that 53 are left (`units_lt`). A larger quotient may be
rounded to a larger power; but the larger power only sets in where the smaller
one has reached it (`units_ge`), so a power of two is between the two results
(`roundedUnits_mono`). What is a double already is not rounded at all
(`roundedUnits_whole`).

# Operations

The numbers from zero on are ordered by `Upto`, with infinity as the last of
them. A product and a quotient are rounded from the exact fraction, so they
keep this order in their first number, past the largest double as well
(`Upto.mul`, `Upto.div`).

The exponent of the smallest unit is large enough to be a burden as a numeral.
It stands behind a name where a proof needs that the unit is a power of two
(`unitsPerOne_eq`).
-/
import Mathlib.Data.Nat.Log
import Mathlib.Tactic.Ring
import SerialEndpoint.Number.Binary64

namespace SerialEndpoint

-- ==================================================== rounded division

/-- The quotient is rounded down to at most the half, and up from it. -/
theorem divHalfEven_cases (num den : Nat) :
    (divHalfEven num den = num / den ∧ 2 * (num % den) ≤ den)
      ∨ (divHalfEven num den = num / den + 1 ∧ den ≤ 2 * (num % den)) := by
  unfold divHalfEven
  simp only
  split
  · exact .inl ⟨rfl, by omega⟩
  · split
    · exact .inr ⟨rfl, by omega⟩
    · split
      · exact .inl ⟨rfl, by omega⟩
      · exact .inr ⟨rfl, by omega⟩

theorem divHalfEven_half {num den : Nat} (h : 2 * (num % den) = den) :
    divHalfEven num den % 2 = 0 := by
  unfold divHalfEven
  simp only
  split_ifs <;> omega

theorem le_divHalfEven {num den m : Nat} (hden : 0 < den) (h : m * den ≤ num) :
    m ≤ divHalfEven num den := by
  have hquotient : m ≤ num / den := (Nat.le_div_iff_mul_le hden).2 h
  rcases divHalfEven_cases num den with ⟨hcase, -⟩ | ⟨hcase, -⟩
  · rw [hcase]
    exact hquotient
  · rw [hcase]
    exact Nat.le_succ_of_le hquotient

theorem divHalfEven_le {num den m : Nat} (h : num ≤ m * den) : divHalfEven num den ≤ m := by
  rcases Nat.eq_zero_or_pos den with rfl | hden
  · have hnone : num = 0 := Nat.le_zero.1 h
    subst hnone
    exact Nat.zero_le m
  have hquotient : num / den ≤ m := Nat.div_le_of_le_mul (by rwa [Nat.mul_comm])
  rcases divHalfEven_cases num den with ⟨hcase, -⟩ | ⟨hcase, hhalf⟩
  · rw [hcase]
    exact hquotient
  · -- if the quotient were the bound itself, nothing would be left over
    rw [hcase]
    refine Nat.lt_of_le_of_ne hquotient fun hbound => ?_
    have hsplit := Nat.div_add_mod num den
    rw [hbound, Nat.mul_comm] at hsplit
    omega

theorem divHalfEven_mul {den : Nat} (hden : 0 < den) (m : Nat) :
    divHalfEven (m * den) den = m :=
  Nat.le_antisymm (divHalfEven_le (Nat.le_refl _)) (le_divHalfEven hden (Nat.le_refl _))

theorem divHalfEven_mono {num num' den : Nat} (hden : 0 < den) (h : num ≤ num') :
    divHalfEven num den ≤ divHalfEven num' den := by
  have hquotient : num / den ≤ num' / den := Nat.div_le_div_right h
  rcases Nat.lt_or_eq_of_le hquotient with hlt | heq
  · calc divHalfEven num den ≤ num / den + 1 :=
          divHalfEven_le (Nat.le_of_lt (Nat.lt_mul_of_div_lt (Nat.lt_succ_self _) hden))
      _ ≤ divHalfEven num' den :=
          le_divHalfEven hden ((Nat.le_div_iff_mul_le hden).1 hlt)
  · -- the same quotient, so what is left over decides
    have hsplit := Nat.div_add_mod num den
    have hsplit' := Nat.div_add_mod num' den
    rw [heq] at hsplit
    have hrest : num % den ≤ num' % den := by omega
    unfold divHalfEven
    simp only [heq]
    split_ifs <;> omega

theorem divHalfUp_le {num den m : Nat} (h : num ≤ m * den) : divHalfUp num den ≤ m := by
  unfold divHalfUp
  rcases Nat.eq_zero_or_pos den with rfl | hpos
  · simp
  · have hdouble : 0 < 2 * den := by omega
    refine Nat.lt_succ_iff.1 ((Nat.div_lt_iff_lt_mul hdouble).2 ?_)
    have hexpand : (m + 1) * (2 * den) = 2 * (m * den) + 2 * den := by ring
    rw [hexpand]
    omega

namespace Binary64

-- =============================================================== units

/-- The exponent of the unit stands behind a name: nothing here needs it
as a numeral. -/
theorem unitsPerOne_eq {places : Nat} (h : 1074 = places) : unitsPerOne = 2 ^ places := by
  unfold unitsPerOne
  rw [h, Nat.pow_eq]

theorem unitsPerOne_pos : 0 < unitsPerOne := by
  obtain ⟨places, hplaces⟩ : ∃ places, 1074 = places := ⟨_, rfl⟩
  rw [unitsPerOne_eq hplaces]
  exact Nat.two_pow_pos places

/-- How many bits of a quotient are rounded away. -/
def dropped (num den : Nat) : Nat := (num * unitsPerOne / den).log2 - 52

/-- The count of units that a quotient is rounded to. -/
def roundedUnits (num den : Nat) : Nat :=
  divHalfEven (num * unitsPerOne) (den * 2 ^ dropped num den) * 2 ^ dropped num den

theorem ofRatio_eq (negative : Bool) (num den : Nat) :
    ofRatio negative num den = if roundedUnits num den < unitsLimit
      then finite negative (roundedUnits num den) else infinite negative := rfl

/-- What is left of a quotient has at most 53 bits. -/
theorem units_lt (num den : Nat) (hden : 0 < den) :
    num * unitsPerOne < 2 ^ 53 * (den * 2 ^ dropped num den) := by
  have hlog : (num * unitsPerOne / den).log2 < dropped num den + 53 := by
    unfold dropped
    omega
  have hquotient : num * unitsPerOne / den < 2 ^ (dropped num den + 53) := by
    rcases Nat.eq_zero_or_pos (num * unitsPerOne / den) with hzero | hpos
    · rw [hzero]
      exact Nat.two_pow_pos _
    · exact (Nat.log2_lt (Nat.pos_iff_ne_zero.1 hpos)).1 hlog
  calc num * unitsPerOne < 2 ^ (dropped num den + 53) * den :=
        (Nat.div_lt_iff_lt_mul hden).1 hquotient
    _ = 2 ^ 53 * (den * 2 ^ dropped num den) := by rw [Nat.pow_add]; ring

/-- Bits are only rounded away if 53 are left. -/
theorem units_ge {num den : Nat} (hden : 0 < den) (hdropped : dropped num den ≠ 0) :
    2 ^ 52 * (den * 2 ^ dropped num den) ≤ num * unitsPerOne := by
  have hlog : dropped num den + 52 ≤ (num * unitsPerOne / den).log2 := by
    unfold dropped at hdropped ⊢
    omega
  have hsome : num * unitsPerOne / den ≠ 0 := by
    intro hzero
    rw [hzero, Nat.log2_zero] at hlog
    omega
  calc 2 ^ 52 * (den * 2 ^ dropped num den) = 2 ^ (dropped num den + 52) * den := by
        rw [Nat.pow_add]; ring
    _ ≤ num * unitsPerOne := (Nat.le_div_iff_mul_le hden).1 ((Nat.le_log2 hsome).1 hlog)

theorem dropped_mono {num num' : Nat} (den : Nat) (h : num ≤ num') :
    dropped num den ≤ dropped num' den := by
  have hquotient : num * unitsPerOne / den ≤ num' * unitsPerOne / den :=
    Nat.div_le_div_right (Nat.mul_le_mul_right _ h)
  refine Nat.sub_le_sub_right ?_ 52
  rw [Nat.log2_eq_log_two, Nat.log2_eq_log_two]
  exact Nat.log_mono_right hquotient

/-- A larger quotient is not rounded to less. -/
theorem roundedUnits_mono {num num' den : Nat} (hden : 0 < den) (h : num ≤ num') :
    roundedUnits num den ≤ roundedUnits num' den := by
  unfold roundedUnits
  have hplace : ∀ drop, 0 < den * 2 ^ drop := fun _ => Nat.mul_pos hden (Nat.two_pow_pos _)
  rcases Nat.lt_or_eq_of_le (dropped_mono den h) with hlt | heq
  · -- the power of two above the one and not above the other
    have hlow : divHalfEven (num * unitsPerOne) (den * 2 ^ dropped num den) ≤ 2 ^ 53 :=
      divHalfEven_le (Nat.le_of_lt (units_lt num den hden))
    have hhigh : 2 ^ 52 ≤ divHalfEven (num' * unitsPerOne) (den * 2 ^ dropped num' den) :=
      le_divHalfEven (hplace _) (units_ge hden (by omega))
    calc divHalfEven (num * unitsPerOne) (den * 2 ^ dropped num den) * 2 ^ dropped num den
        ≤ 2 ^ 53 * 2 ^ dropped num den := Nat.mul_le_mul_right _ hlow
      _ = 2 ^ 52 * 2 ^ (dropped num den + 1) := by rw [Nat.pow_succ 2 (dropped num den)]; ring
      _ ≤ 2 ^ 52 * 2 ^ dropped num' den :=
          Nat.mul_le_mul_left _ (Nat.pow_le_pow_right (by decide) hlt)
      _ ≤ _ := Nat.mul_le_mul_right _ hhigh
  · rw [heq]
    exact Nat.mul_le_mul_right _
      (divHalfEven_mono (hplace _) (Nat.mul_le_mul_right _ h))

/-- A whole number of 53 bits is not rounded. -/
theorem roundedUnits_whole {n den : Nat} (hden : 0 < den) (h : n < 2 ^ 53) :
    roundedUnits (n * den) den = n * unitsPerOne := by
  obtain ⟨places, hplaces⟩ : ∃ places, 1074 = places := ⟨_, rfl⟩
  have hone := unitsPerOne_eq hplaces
  -- only bits below one are dropped, and these are zero
  have hdropped : dropped (n * den) den ≤ places := by
    have hquotient : n * den * unitsPerOne / den = n * unitsPerOne := by
      rw [Nat.mul_right_comm, Nat.mul_div_cancel _ hden]
    unfold dropped
    rw [hquotient]
    rcases Nat.eq_zero_or_pos n with rfl | hpos
    · rw [Nat.zero_mul, Nat.log2_zero]
      exact Nat.zero_le _
    · have hlog : (n * unitsPerOne).log2 < 53 + places := by
        rw [Nat.log2_lt (Nat.mul_ne_zero hpos.ne' unitsPerOne_pos.ne'), hone, Nat.pow_add]
        exact Nat.mul_lt_mul_of_pos_right h (Nat.two_pow_pos _)
      omega
  unfold roundedUnits
  generalize dropped (n * den) den = drop at hdropped
  have hsplit : unitsPerOne = 2 ^ (places - drop) * 2 ^ drop := by
    rw [hone, ← Nat.pow_add, Nat.sub_add_cancel hdropped]
  have hwhole : n * den * unitsPerOne = n * 2 ^ (places - drop) * (den * 2 ^ drop) := by
    rw [hsplit]
    ring
  rw [hwhole, divHalfEven_mul (Nat.mul_pos hden (Nat.two_pow_pos _)), hsplit, Nat.mul_assoc]

theorem ofNat_eq {n : Nat} (h : n < 2 ^ 53) : ofNat n = finite false (n * unitsPerOne) := by
  have hunits : roundedUnits n 1 = n * unitsPerOne := by
    simpa only [Nat.mul_one] using roundedUnits_whole Nat.one_pos h
  have hroom : 2 ^ 53 * unitsPerOne ≤ unitsLimit := by decide +kernel
  have hlimit : n * unitsPerOne < unitsLimit :=
    Nat.lt_of_lt_of_le (Nat.mul_lt_mul_of_pos_right h unitsPerOne_pos) hroom
  unfold ofNat
  rw [ofRatio_eq, hunits, if_pos hlimit]

/-- A quotient of at most a whole number of 53 bits is rounded to a number
of at most that. -/
theorem nearestNat_ofRatio_le {negative : Bool} {num den k : Nat} (hden : 0 < den)
    (h : num ≤ k * den) (hk : k < 2 ^ 53) : (ofRatio negative num den).nearestNat ≤ k := by
  have hunits : roundedUnits num den ≤ k * unitsPerOne := by
    rw [← roundedUnits_whole hden hk]
    exact roundedUnits_mono hden h
  rw [ofRatio_eq]
  split
  · exact divHalfUp_le hunits
  · exact Nat.zero_le k

-- =============================================================== order

/-- The order of the numbers from zero on, infinity being the last. -/
inductive Upto : Binary64 → Binary64 → Prop
  | units {u v : Nat} : u ≤ v → Upto (finite false u) (finite false v)
  | beyond (u : Nat) : Upto (finite false u) (infinite false)
  | infinity : Upto (infinite false) (infinite false)

theorem ofRatio_upto {num num' den : Nat} (hden : 0 < den) (h : num ≤ num') :
    (ofRatio false num den).Upto (ofRatio false num' den) := by
  have hmono := roundedUnits_mono hden h
  rw [ofRatio_eq, ofRatio_eq]
  split
  · split
    · exact .units hmono
    · exact .beyond _
  · rename_i hlarge
    rw [if_neg (fun hsmall => hlarge (Nat.lt_of_le_of_lt hmono hsmall))]
    exact .infinity

theorem ofNat_upto {n n' : Nat} (h : n ≤ n') : (ofNat n).Upto (ofNat n') :=
  ofRatio_upto Nat.one_pos h

theorem finite_mul_finite (a b : Bool) (u v : Nat) :
    (finite a u).mul (finite b v) = ofRatio (a != b) (u * v) (unitsPerOne * unitsPerOne) :=
  rfl

theorem finite_div_finite (a b : Bool) (u : Nat) {v : Nat} (hv : v ≠ 0) :
    (finite a u).div (finite b v) = ofRatio (a != b) u v := if_neg hv

theorem ofRatio_upto_infinite (num den : Nat) : (ofRatio false num den).Upto (infinite false) := by
  rw [ofRatio_eq]
  split
  · exact .beyond _
  · exact .infinity

theorem Upto.mul {a a' : Binary64} (h : a.Upto a') {v : Nat} (hv : v ≠ 0) :
    (a.mul (finite false v)).Upto (a'.mul (finite false v)) := by
  have hbeyond : (infinite false).mul (finite false v) = infinite false := if_neg hv
  cases h with
  | units hle =>
      rw [finite_mul_finite, finite_mul_finite]
      exact ofRatio_upto (Nat.mul_pos unitsPerOne_pos unitsPerOne_pos)
        (Nat.mul_le_mul_right _ hle)
  | beyond u =>
      rw [hbeyond, finite_mul_finite]
      exact ofRatio_upto_infinite _ _
  | infinity =>
      rw [hbeyond]
      exact .infinity

theorem Upto.div {a a' : Binary64} (h : a.Upto a') {v : Nat} (hv : v ≠ 0) :
    (a.div (finite false v)).Upto (a'.div (finite false v)) := by
  have hbeyond : (infinite false).div (finite false v) = infinite false := rfl
  cases h with
  | units hle =>
      rw [finite_div_finite _ _ _ hv, finite_div_finite _ _ _ hv]
      exact ofRatio_upto (Nat.pos_of_ne_zero hv) hle
  | beyond u =>
      rw [hbeyond, finite_div_finite _ _ _ hv]
      exact ofRatio_upto_infinite _ _
  | infinity =>
      rw [hbeyond]
      exact .infinity

end Binary64

end SerialEndpoint
