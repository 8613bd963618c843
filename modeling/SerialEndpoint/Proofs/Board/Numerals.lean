/-
The numbers in a line, as they are. A board counts in 64 bits and stops
at the last number that these hold, so what it reads is the exact number
held within bounds (`lineNumber_toInt`). The bounds lie so far beyond the
full duty that no duty shows them (`dutyOfLine_eq`).

The induction is on the digits. What carries it is that a number once at
the upper bound stays there: one more digit makes the exact number no
smaller.
-/
import SerialEndpoint.Board

namespace SerialEndpoint

-- ======================================================= exact numbers

/-- The number at the front of a text: the digits before the first other
byte, zero if there are none. -/
def leadingNat (bytes : List UInt8) : Nat :=
  (bytes.takeWhile isDigitByte).foldl (fun n b => 10 * n + (b.toNat - 0x30)) 0

/-- The whole number at the front of a line: blanks, a sign, digits, and
anything after them. -/
def leadingInt (line : List UInt8) : Int :=
  match line.dropWhile isLineBlank with
  | 0x2D :: rest => -(leadingNat rest : Int)
  | 0x2B :: rest => leadingNat rest
  | rest => leadingNat rest

-- ============================================================== bounds

/-- The largest number of 64 bits. -/
def largestInt : Nat := 0x7FFFFFFFFFFFFFFF

theorem saturated_toInt (n : Int) :
    (saturated n).toInt = max (-(largestInt : Int) - 1) (min n largestInt) := by
  have hlow : Int64.minValue.toInt = -(largestInt : Int) - 1 := rfl
  have hhigh : Int64.maxValue.toInt = largestInt := rfl
  unfold saturated
  rw [hlow, hhigh, Int64.toInt_ofInt_of_le]
  · exact Int.le_max_left ..
  · unfold largestInt
    omega

/-- One more digit, on a number that is exact up to the bound. -/
theorem pushDigit_toInt {n : Int64} {m : Nat} (h : n.toInt = min m largestInt) (digit : UInt8) :
    (pushDigit n digit).toInt = min (10 * m + (digit.toNat - 0x30) : Nat) largestInt := by
  unfold pushDigit
  rw [saturated_toInt, saturated_toInt, h]
  unfold largestInt
  omega

theorem foldl_pushDigit_toInt (digits : List UInt8) :
    ∀ {n : Int64} {m : Nat}, n.toInt = min m largestInt →
      (digits.foldl pushDigit n).toInt
        = min (digits.foldl (fun n b => 10 * n + (b.toNat - 0x30)) m : Nat) largestInt := by
  induction digits with
  | nil => exact fun h => h
  | cons digit rest ih => exact fun h => ih (pushDigit_toInt h digit)

/-- A number without a sign is exact up to the largest number. -/
theorem frontNumber_toInt (bytes : List UInt8) :
    (frontNumber bytes).toInt = min (leadingNat bytes) largestInt :=
  foldl_pushDigit_toInt _ rfl

/-- The opposite of a number without a sign is a number of 64 bits. -/
theorem neg_frontNumber_toInt (bytes : List UInt8) :
    (-frontNumber bytes).toInt = -(frontNumber bytes).toInt := by
  have hbound : (frontNumber bytes).toInt = min (leadingNat bytes) largestInt :=
    frontNumber_toInt bytes
  rw [Int64.toInt_neg]
  refine Int.bmod_eq_of_le ?_ ?_
  · rw [hbound]
    unfold largestInt
    omega
  · rw [hbound]
    unfold largestInt
    omega

/-- What a board reads is the exact number held within the bounds. -/
theorem lineNumber_toInt (line : List UInt8) :
    (lineNumber line).toInt = max (-(largestInt : Int)) (min (leadingInt line) largestInt) := by
  have hsigns : ∀ n : Nat, -((min n largestInt : Nat) : Int)
        = max (-(largestInt : Int)) (min (-(n : Int)) largestInt)
      ∧ ((min n largestInt : Nat) : Int)
        = max (-(largestInt : Int)) (min (n : Int) largestInt) := by
    intro n
    unfold largestInt
    omega
  unfold lineNumber leadingInt
  generalize line.dropWhile isLineBlank = front
  -- A match on a literal byte goes on only where the byte is known.
  cases front with
  | nil => exact (frontNumber_toInt []).trans (hsigns _).2
  | cons byte rest =>
      by_cases hminus : byte = 0x2D
      · rw [hminus]
        exact (neg_frontNumber_toInt rest).trans
          ((congrArg Neg.neg (frontNumber_toInt rest)).trans (hsigns _).1)
      by_cases hplus : byte = 0x2B
      · rw [hplus]
        exact (frontNumber_toInt rest).trans (hsigns _).2
      simp only [List.cons.injEq, hminus, hplus, false_and, false_implies, implies_true]
      exact (frontNumber_toInt _).trans (hsigns _).2

/-- No duty shows the bounds. -/
theorem dutyOfLine_eq (line : List UInt8) :
    dutyOfLine line = UInt8.ofNat (min (leadingInt line).toNat fullDuty) := by
  unfold dutyOfLine
  rw [lineNumber_toInt]
  congr 1
  unfold largestInt fullDuty
  omega

end SerialEndpoint
