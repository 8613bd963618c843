/-
Duties between the host and the board.

The host rounds a share of the full duty. The share is at most one, whatever
number the motor is driven with, so what is sent is never more than the full
duty (`dutyFor_le`).

The board reads the digits back and clamps them, and so takes the very number
that was sent (`dutyOfLine_digits`). A line that begins with a digit has no
blank and no sign in front (`leadingInt_digit`), so none of that comes in. No
duty has more than three digits, so a board with room for these keeps all of
it (`dutyOfLine_keptOf`).
-/
import SerialEndpoint.Device.Motor
import SerialEndpoint.Proofs.Number.Rounding
import SerialEndpoint.Proofs.Board.Numerals
import SerialEndpoint.Proofs.Board.Rest

namespace SerialEndpoint

-- ======================================================= the full duty

/-- No duty is more than the full one. -/
theorem dutyFor_le (control : Binary64) : dutyFor control ≤ fullDuty := by
  have hfull : Binary64.ofNat fullDuty = .finite false (fullDuty * Binary64.unitsPerOne) := by
    decide +kernel
  have hshare : ∃ units, control.unitMagnitude = .finite false units
      ∧ units ≤ Binary64.unitsPerOne := by
    cases control with
    | nan => exact ⟨_, rfl, Nat.le_refl _⟩
    | infinite negative => exact ⟨_, rfl, Nat.le_refl _⟩
    | finite negative units => exact ⟨_, rfl, Nat.min_le_right ..⟩
  obtain ⟨units, hunits, hle⟩ := hshare
  unfold dutyFor
  rw [hfull, hunits, Binary64.finite_mul_finite]
  refine Binary64.nearestNat_ofRatio_le ?_ ?_ (by decide)
  · exact Nat.mul_pos Binary64.unitsPerOne_pos Binary64.unitsPerOne_pos
  calc fullDuty * Binary64.unitsPerOne * units
      ≤ fullDuty * Binary64.unitsPerOne * Binary64.unitsPerOne := Nat.mul_le_mul_left _ hle
    _ = fullDuty * (Binary64.unitsPerOne * Binary64.unitsPerOne) := Nat.mul_assoc ..

-- ============================================================== digits

/-- The bytes of some characters, each its code. -/
def codes (text : List Char) : List UInt8 := text.map fun c => UInt8.ofNat c.toNat

theorem isDigit_bounds {c : Char} (h : c.isDigit = true) : 48 ≤ c.toNat ∧ c.toNat ≤ 57 := by
  unfold Char.isDigit at h
  simp only [Bool.and_eq_true, decide_eq_true_eq, ge_iff_le, UInt32.le_iff_toNat_le] at h
  exact h

theorem isDigitByte_code {c : Char} (h : c.isDigit = true) :
    isDigitByte (UInt8.ofNat c.toNat) = true := by
  obtain ⟨hlow, hhigh⟩ := isDigit_bounds h
  unfold isDigitByte
  simp only [Bool.and_eq_true, decide_eq_true_eq, UInt8.le_iff_toNat_le]
  have hcode : (UInt8.ofNat c.toNat).toNat = c.toNat := Nat.mod_eq_of_lt (by omega)
  rw [hcode]
  exact ⟨hlow, hhigh⟩

/-- Digits are read back as their number. -/
theorem leadingNat_codes {digits : List Char} (h : ∀ c ∈ digits, c.isDigit = true) :
    leadingNat (codes digits) = Nat.ofDigitChars 10 digits 0 := by
  have hall : (codes digits).takeWhile isDigitByte = codes digits := by
    rw [List.takeWhile_eq_self_iff]
    intro b hb
    obtain ⟨c, hc, rfl⟩ := List.mem_map.1 hb
    exact isDigitByte_code (h c hc)
  unfold leadingNat
  rw [hall]
  unfold codes Nat.ofDigitChars
  rw [List.foldl_map]
  refine List.foldl_ext _ _ 0 fun n c hc => ?_
  obtain ⟨hlow, hhigh⟩ := isDigit_bounds (h c hc)
  have hcode : (UInt8.ofNat c.toNat).toNat = c.toNat := Nat.mod_eq_of_lt (by omega)
  rw [hcode]
  rfl

/-- A line that begins with a digit has neither blanks nor a sign to
skip. -/
theorem leadingInt_digit {b : UInt8} {rest : List UInt8} (h : isDigitByte b = true) :
    leadingInt (b :: rest) = leadingNat (b :: rest) := by
  unfold isDigitByte at h
  simp only [Bool.and_eq_true, decide_eq_true_eq] at h
  have hblank : isLineBlank b = false := by
    unfold isLineBlank
    simp only [Bool.or_eq_false_iff, beq_eq_false_iff_ne, ne_eq]
    refine ⟨⟨⟨⟨?_, ?_⟩, ?_⟩, ?_⟩, ?_⟩
    all_goals
      rintro rfl
      revert h
      decide
  unfold leadingInt
  rw [List.dropWhile_cons_of_neg (by rw [hblank]; exact Bool.false_ne_true)]
  split
  · rename_i heq
    cases heq
    exact absurd h (by decide)
  · rename_i heq
    cases heq
    exact absurd h (by decide)
  · rfl

/-- A duty written as digits is the duty of its line. -/
theorem dutyOfLine_digits (n : Nat) :
    dutyOfLine (Utf8.encode (toString n)) = UInt8.ofNat (min n fullDuty) := by
  have hdigits := isDigit_nat n
  have hvalue : leadingNat (codes (toString n).toList) = n := by
    rw [leadingNat_codes hdigits, toList_digits]
    exact Nat.ofDigitChars_toDigits (by decide) (by decide)
  have hlead : leadingInt (codes (toString n).toList) = n := by
    cases hcs : (toString n).toList with
    | nil => exact absurd hcs (digits_ne_nil n)
    | cons c cs =>
        rw [hcs] at hvalue hdigits
        have hfirst := isDigitByte_code (hdigits c (List.mem_cons_self ..))
        show leadingInt (UInt8.ofNat c.toNat :: codes cs) = n
        rw [leadingInt_digit hfirst]
        exact congrArg Int.ofNat hvalue
  rw [dutyOfLine_eq, encode_plain (isPlain_digits n)]
  show UInt8.ofNat (min (leadingInt (codes (toString n).toList)).toNat fullDuty) = _
  rw [hlead, Int.toNat_natCast]

/-- A board that keeps three bytes of a line keeps every duty. -/
theorem dutyOfLine_keptOf {capacity n : Nat} (hroom : 3 ≤ capacity) (hn : n ≤ fullDuty) :
    dutyOfLine (keptOf capacity (toString n)) = UInt8.ofNat n := by
  have hplain := isPlain_digits n
  have hlength : (toString n).toList.length ≤ capacity := by
    rw [toList_digits]
    have hlt : n < 10 ^ 3 := Nat.lt_of_le_of_lt hn (by decide)
    exact Nat.le_trans ((Nat.length_toDigits_le_iff (by decide) (by decide)).2 hlt) hroom
  have hsent : (toString n).toList.map sentByte = Utf8.encode (toString n) := by
    have hframe := congrArg Frame.bytes (frame_plain hplain)
    rw [Frame.bytes_ofMessage] at hframe
    exact List.append_cancel_right hframe
  unfold keptOf
  rw [List.take_of_length_le (by rw [List.length_map]; exact hlength), hsent,
    List.takeWhile_eq_self_iff.2, dutyOfLine_digits, Nat.min_eq_left hn]
  intro b hb
  simpa using (encode_plain_bytes hplain b hb).2

end SerialEndpoint
