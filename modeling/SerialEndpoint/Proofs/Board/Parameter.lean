/-
The duty that a line gives, and the number that C's `atoi` finds in the
same line.

# One grammar but for one character

The grammar stands here on its own (`atoi`): blanks, at most one sign, digits.
What a row of digits is worth is said by the places of the digits, not by
counting along (`foldl_eq_ofDigits`). The board follows the same grammar
(`leadingInt_eq`), except that a vertical tab is a blank of C and no blank of
a board. A board that meets one before the number has read its number, which
is zero (`dropWhile_blanks`, `leadingInt_eq_atoi`).

# The duty

A waiting motor takes the unfinished line and all bytes up to the line end
(`feedAll_parameter`). The board counts with 64 bits and stops at their ends,
and the clamp takes everything beyond a full duty for the same: so on any
line without such a tab, however many digits it has, the duty is the clamped
number (`duty_of_parameter`). With the tab the duty is zero, which is right
exactly for the numbers that are not positive (`clampedDuty_eq_zero_iff`).
-/
import Mathlib.Data.Nat.Digits.Defs
import SerialEndpoint.Proofs.Board.LineMachine
import SerialEndpoint.Proofs.Board.Slots
import SerialEndpoint.Proofs.Rendering

namespace SerialEndpoint

-- ============================================================= grammar

/-- The blanks of C: the space, and from the tab to the carriage return. -/
def isSpace (byte : UInt8) : Bool := byte == 0x20 || (0x09 ≤ byte && byte ≤ 0x0D)

/-- What a row of digits is worth, each digit in its place. -/
def placeValue (digits : List UInt8) : Nat :=
  Nat.ofDigits 10 (digits.reverse.map fun digit => digit.toNat - 0x30)

/-- A text without the sign at its front, and whether that is a minus. -/
def splitSign : List UInt8 → Bool × List UInt8
  | 0x2D :: rest => (true, rest)
  | 0x2B :: rest => (false, rest)
  | text => (false, text)

/-- The number that C's `atoi` finds: behind as many blanks as there are
comes at most one sign, and then as many digits as there are. -/
def atoi (line : List UInt8) : Int :=
  let signed := splitSign (line.dropWhile isSpace)
  let value : Int := placeValue (signed.2.takeWhile isDigitByte)
  if signed.1 then -value else value

/-- The nearest duty to a number. -/
def clampedDuty (number : Int) : UInt8 := UInt8.ofNat (clamp 0 fullDuty number).toNat

-- ================================================== the grammar is met

/-- Counting along gives each digit its place. -/
theorem foldl_eq_ofDigits (digits : List UInt8) : ∀ n : Nat,
    digits.foldl (fun n b => 10 * n + (b.toNat - 0x30)) n
      = n * 10 ^ digits.length + placeValue digits := by
  induction digits with
  | nil =>
      intro n
      simp [placeValue]
  | cons digit rest ih =>
      intro n
      have hplace : placeValue (digit :: rest)
          = placeValue rest + (digit.toNat - 0x30) * 10 ^ rest.length := by
        unfold placeValue
        rw [List.reverse_cons, List.map_append, Nat.ofDigits_append]
        simp [Nat.mul_comm]
      rw [List.foldl_cons, ih, hplace, List.length_cons]
      ring

theorem leadingNat_eq (text : List UInt8) :
    leadingNat text = placeValue (text.takeWhile isDigitByte) := by
  unfold leadingNat
  rw [foldl_eq_ofDigits, Nat.zero_mul, Nat.zero_add]

theorem leadingInt_eq (line : List UInt8) :
    leadingInt line =
      let signed := splitSign (line.dropWhile isLineBlank)
      if signed.1 then -(leadingNat signed.2 : Int) else leadingNat signed.2 := by
  unfold leadingInt
  split
  · rename_i rest hminus
    rw [hminus]
    rfl
  · rename_i rest hplus
    rw [hplus]
    rfl
  · rename_i hminus hplus
    rw [splitSign.eq_3 _ hminus hplus]
    rfl

/-- A blank of C is a blank of a board or the vertical tab. -/
theorem isSpace_iff (byte : UInt8) :
    isSpace byte = true ↔ isLineBlank byte = true ∨ byte = 0x0B := by
  unfold isSpace isLineBlank
  simp only [Bool.or_eq_true, Bool.and_eq_true, beq_iff_eq, decide_eq_true_eq,
    ← UInt8.toNat_inj, UInt8.le_iff_toNat_le, UInt8.reduceToNat]
  omega

/-- Without a vertical tab among the blanks, the blanks of a board are the
blanks of C; else a board stops at the first tab of that kind. -/
theorem dropWhile_blanks (line : List UInt8) :
    if 0x0B ∈ line.takeWhile isSpace then ∃ rest, line.dropWhile isLineBlank = 0x0B :: rest
    else line.dropWhile isLineBlank = line.dropWhile isSpace := by
  induction line with
  | nil => simp
  | cons byte rest ih =>
      by_cases htab : byte = 0x0B
      · subst htab
        have hspace : isSpace 0x0B = true := by decide
        have hblank : isLineBlank 0x0B = false := by decide
        simp [hspace, hblank]
      · cases hblank : isLineBlank byte with
        | true =>
            have hspace : isSpace byte = true := (isSpace_iff byte).2 (.inl hblank)
            simpa [hspace, hblank, Ne.symm htab] using ih
        | false =>
            have hspace : isSpace byte = false := by
              rw [← Bool.not_eq_true, isSpace_iff, hblank]
              simp [htab]
            simp [hspace, hblank]

/-- The number of a board is C's number, or zero where a vertical tab
stands among the blanks. -/
theorem leadingInt_eq_atoi (line : List UInt8) :
    leadingInt line = if 0x0B ∈ line.takeWhile isSpace then 0 else atoi line := by
  have hblanks := dropWhile_blanks line
  rw [leadingInt_eq]
  split
  · rename_i htab
    rw [if_pos htab] at hblanks
    obtain ⟨rest, hrest⟩ := hblanks
    rw [hrest]
    rfl
  · rename_i htab
    rw [if_neg htab] at hblanks
    rw [hblanks]
    unfold atoi
    simp only [leadingNat_eq]

-- ============================================================= the duty

theorem dutyOfLine_eq_clamped (line : List UInt8) :
    dutyOfLine line = clampedDuty (leadingInt line) := by
  unfold clampedDuty
  rw [dutyOfLine_eq, clamp_duty]

/-- Exactly the numbers that are not positive have a duty of zero. -/
theorem clampedDuty_eq_zero_iff (number : Int) : clampedDuty number = 0 ↔ number ≤ 0 := by
  unfold clampedDuty
  rw [clamp_duty, ← UInt8.toNat_inj, UInt8.toNat_ofNat']
  unfold fullDuty
  simp only [UInt8.toNat_zero]
  omega

/-- A board on which a motor waits takes the line that is unfinished and
the bytes up to the line end, if they have room and hold no zero, as the
motor's duty. -/
theorem feedAll_parameter {board : Board} {slot : SpeedSlot} (hwaits : board.waiting? = some slot)
    {bytes : List UInt8} (hbytes : ∀ b ∈ board.pending ++ bytes, b ≠ lineEnd ∧ b ≠ 0)
    (hroom : (board.pending ++ bytes).length ≤ board.circuit.capacity) :
    board.feedAll (bytes ++ [lineEnd])
      = { board with pending := [] }.setDuty slot (board.pending ++ bytes) := by
  have hpending : board.pending.length ≤ board.circuit.capacity := by
    rw [List.length_append] at hroom
    omega
  have hopen : ∀ b ∈ bytes, b ≠ lineEnd :=
    fun b hb => (hbytes b (List.mem_append_right _ hb)).1
  have hkept : (board.pending ++ bytes).takeWhile (· ≠ 0) = board.pending ++ bytes := by
    rw [List.takeWhile_eq_self_iff]
    intro b hb
    simpa using (hbytes b hb).2
  have hfed : board.feedAll bytes = { board with pending := board.pending ++ bytes } := by
    rw [Board.feedAll_open hopen hpending, List.take_of_length_le hroom]
  unfold Board.feedAll at hfed ⊢
  rw [List.foldl_append, hfed]
  show Board.feed _ lineEnd = _
  unfold Board.feed
  rw [if_pos rfl]
  simp only [hkept]
  unfold Board.dispatch
  have hsame : Board.waiting? { board with pending := [] } = some slot := hwaits
  rw [hsame]

/-- While a motor waits for its duty, a whole line without a zero writes
that duty and no other: the clamp of the exact number that C's `atoi`
finds, unless a vertical tab stands among the blanks before the number;
then zero is written, which is C's duty only if C's number is not
positive. In the 64 bits that the board counts with, the number is the
exact one as far as they go, and its opposite is there. -/
theorem duty_of_parameter {board : Board} {slot : SpeedSlot} (hwaits : board.waiting? = some slot)
    {bytes : List UInt8} (hbytes : ∀ b ∈ board.pending ++ bytes, b ≠ lineEnd ∧ b ≠ 0)
    (hroom : (board.pending ++ bytes).length ≤ board.circuit.capacity) :
    let line := board.pending ++ bytes
    let number := if 0x0B ∈ line.takeWhile isSpace then 0 else atoi line
    let after := board.feedAll (bytes ++ [lineEnd])
    after.duties = overlay board.duties slot.pwm.number (some (clampedDuty number))
      ∧ (after.duties slot.pwm.number = some (clampedDuty (atoi line)) ↔
          0x0B ∉ line.takeWhile isSpace ∨ atoi line ≤ 0)
      ∧ (lineNumber line).toInt = clamp (-(2 ^ 63 - 1)) (2 ^ 63 - 1) number
      ∧ ∀ digits, (-frontNumber digits).toInt = -(frontNumber digits).toInt := by
  intro line number after
  have hduties : after.duties
      = overlay board.duties slot.pwm.number (some (clampedDuty number)) := by
    show (board.feedAll (bytes ++ [lineEnd])).duties = _
    rw [feedAll_parameter hwaits hbytes hroom]
    show overlay board.duties slot.pwm.number (some (dutyOfLine line)) = _
    rw [dutyOfLine_eq_clamped, leadingInt_eq_atoi]
  refine ⟨hduties, ?_, ?_, neg_frontNumber_toInt⟩
  · rw [hduties, overlay_same, Option.some_inj]
    show clampedDuty (if 0x0B ∈ line.takeWhile isSpace then 0 else atoi line) = _ ↔ _
    split
    · rename_i htab
      have hzero : clampedDuty 0 = 0 := rfl
      rw [hzero, eq_comm, clampedDuty_eq_zero_iff]
      simp [htab]
    · rename_i htab
      simp [htab]
  · rw [lineNumber_toInt, leadingInt_eq_atoi]
    unfold clamp largestInt
    rfl

/-- A number with a blank and a sign before it, too large for 64 bits. -/
theorem duty_of_parameter_rover :
    let board := (({} : Firmware).circuit roverAssignments).start.feedAll
      (Utf8.encode "MOTOR_SPEED Left\n")
    let line := Utf8.encode " +99999999999999999999 rpm"
    board.waiting? = some ⟨"Left", ⟨.pwm, 3⟩, true⟩
      ∧ atoi line = 99999999999999999999 ∧ (lineNumber line).toInt = 2 ^ 63 - 1
      ∧ (board.feedAll (line ++ [lineEnd])).duties 3 = some 255 := by
  intro board line
  have hwaits : board.waiting? = some ⟨"Left", ⟨.pwm, 3⟩, true⟩ := by decide +kernel
  have hpending : board.pending = [] := by decide +kernel
  have hbytes : ∀ b ∈ board.pending ++ line, b ≠ lineEnd ∧ b ≠ 0 := by
    rw [hpending]
    decide +kernel
  have hroom : (board.pending ++ line).length ≤ board.circuit.capacity := by decide +kernel
  obtain ⟨hduties, -, hnumber, -⟩ := duty_of_parameter hwaits hbytes hroom
  refine ⟨hwaits, by decide +kernel, ?_, ?_⟩
  · rw [hpending] at hnumber
    exact hnumber.trans (by decide +kernel)
  · rw [hduties, hpending]
    decide +kernel

/-- A vertical tab before the number 200 makes the duty zero. -/
theorem vertical_tab_hides_duty :
    let board := (({} : Firmware).circuit roverAssignments).start.feedAll
      (Utf8.encode "MOTOR_SPEED Left\n")
    let line := 0x0B :: Utf8.encode "200"
    board.waiting? = some ⟨"Left", ⟨.pwm, 3⟩, true⟩ ∧ board.pending = []
      ∧ (∀ b ∈ line, b ≠ lineEnd ∧ b ≠ 0) ∧ line.length ≤ board.circuit.capacity
      ∧ atoi line = 200 ∧ clampedDuty (atoi line) = 200
      ∧ (board.feedAll (line ++ [lineEnd])).duties 3 = some 0 := by
  decide +kernel

end SerialEndpoint
