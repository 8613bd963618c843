/-
The room for a reply of a voltage. It is taken from one reading, the
largest, and serves for all: a larger reading is converted to no less
(`convert_upto`), and a larger voltage has no shorter text. But past the
largest double comes a number with a text of three letters. Where the
largest reading goes there, the room is that of three letters, and the
smaller readings, whose voltages have digits, may need more
(`reply_fits_iff`). With three places or more they always do, as then no
number has a text so short (`lt_length_fixed`).
-/
import SerialEndpoint.Proofs.Number.Printing
import SerialEndpoint.Proofs.Rendering
import SerialEndpoint.Proofs.Replies

namespace SerialEndpoint

variable {firmware : Firmware} {raw raw' : UInt16}

-- ============================================================= readings

/-- A larger reading is converted to no less. -/
theorem convert_upto (haccepted : firmware.refusal? = none) (h : raw.toNat ≤ raw'.toNat) :
    (firmware.voltage.convert raw).Upto (firmware.voltage.convert raw') := by
  obtain ⟨hsome, hsteps, hratio, hreference⟩ := scale_of_accepted haccepted
  obtain ⟨reference, hpositive, href⟩ := usable_iff.1 hreference
  obtain ⟨ratio, hpositive', hrat⟩ := usable_iff.1 hratio
  have hstepUnits : firmware.voltage.steps * Binary64.unitsPerOne ≠ 0 :=
    Nat.mul_ne_zero hsome (Nat.pos_iff_ne_zero.1 Binary64.unitsPerOne_pos)
  unfold VoltageScale.convert
  rw [href, hrat, Binary64.ofNat_eq (Nat.lt_of_le_of_lt hsteps (by decide))]
  exact (((Binary64.ofNat_upto h).mul hpositive).div hstepUnits).div hpositive'

/-- No reading below the number of steps is above the largest. -/
theorem le_topReading {scale : VoltageScale} (h : raw.toNat < scale.steps) :
    raw.toNat ≤ scale.topReading.toNat := by
  have hword := raw.toNat_lt
  unfold VoltageScale.topReading
  rw [UInt16.toNat_ofNat']
  omega

-- ============================================================== replies

/-- A reply has a byte for each of its characters. -/
theorem length_encode_reply (scale : VoltageScale) (raw : UInt16) :
    (Utf8.encode (scale.reply raw)).length
      = ((scale.convert raw).fixed scale.precision).length := by
  unfold VoltageScale.reply
  rw [encode_plain (isPlain_fixed _ _), List.length_map, String.length_toList]

theorem length_fixed (places units : Nat) :
    ((Binary64.finite false units).fixed places).length
      = (fixedMagnitude places units).length := by
  unfold Binary64.fixed
  rw [String.length_ofList]
  rfl

/-- Past the largest double the text has three letters. -/
theorem length_fixed_infinite (places : Nat) :
    ((Binary64.infinite false).fixed places).length = 3 := by
  have htext : (Binary64.infinite false).fixed places = "inf" := rfl
  rw [htext]
  decide

/-- With three places or more a number has no text of four characters. -/
theorem lt_length_fixed {places : Nat} (hplaces : 3 ≤ places) (units : Nat) :
    4 < ((Binary64.finite false units).fixed places).length := by
  rw [length_fixed]
  unfold fixedMagnitude
  rw [length_pointBefore, if_neg (by omega)]
  omega

-- ================================================================= room

/-- A reply to a reading and the zero byte behind it have room exactly if
the voltage of the largest reading is finite, or the reply is at most four
bytes long. In the first case the room is that of the longest reply and two
bytes; otherwise it is five bytes, and with three places or more only the
readings that are past the largest double themselves have so short a
reply. -/
theorem reply_fits_iff (haccepted : firmware.refusal? = none)
    (hraw : raw.toNat < firmware.voltage.steps) :
    let scale := firmware.voltage
    let size (raw : UInt16) := (Utf8.encode (scale.reply raw)).length
    let top := scale.convert scale.topReading
    (size raw + 1 ≤ scale.replyCapacity ↔ top.isFinite = true ∨ size raw ≤ 4)
      ∧ (top.isFinite = true →
          size raw ≤ size scale.topReading ∧ scale.replyCapacity = size scale.topReading + 2)
      ∧ (top.isFinite = false → top = .infinite false ∧ scale.replyCapacity = 5
          ∧ (3 ≤ scale.precision →
              (size raw ≤ 4 ↔ scale.convert raw = .infinite false))) := by
  intro scale size top
  have horder : (scale.convert raw).Upto top := convert_upto haccepted (le_topReading hraw)
  have hsize : ∀ r, size r = ((scale.convert r).fixed scale.precision).length :=
    length_encode_reply scale
  have hcapacity : scale.replyCapacity = (top.abs.fixed scale.precision).length + 2 := rfl
  have htop : size scale.topReading = (top.fixed scale.precision).length := hsize _
  rw [hsize raw]
  have hbeyond := length_fixed_infinite scale.precision
  generalize scale.convert raw = voltage at horder
  generalize top = most at horder hcapacity htop
  cases horder with
  | @units u v hle =>
      have hlength : ((Binary64.finite false u).fixed scale.precision).length
          ≤ ((Binary64.finite false v).fixed scale.precision).length := by
        rw [length_fixed, length_fixed]
        exact length_fixedMagnitude_mono _ hle
      have habs : (Binary64.finite false v).abs = .finite false v := rfl
      rw [habs, ← htop] at hcapacity
      rw [← htop] at hlength
      refine ⟨⟨fun _ => .inl rfl, fun _ => by omega⟩, fun _ => ⟨hlength, hcapacity⟩, ?_⟩
      intro hinfinite
      cases hinfinite
  | beyond u =>
      have hfive : scale.replyCapacity = 5 := hcapacity.trans (congrArg (· + 2) hbeyond)
      refine ⟨⟨fun hroom => .inr (by omega), ?_⟩, ?_, fun _ => ⟨rfl, hfive, fun hplaces => ?_⟩⟩
      · rintro (hfinite | hshort)
        · cases hfinite
        · omega
      · intro hfinite
        cases hfinite
      · have hlong := lt_length_fixed hplaces u
        exact ⟨fun hshort => absurd hshort (by omega), fun h => by cases h⟩
  | infinity =>
      have hfive : scale.replyCapacity = 5 := hcapacity.trans (congrArg (· + 2) hbeyond)
      rw [hbeyond]
      refine ⟨⟨fun _ => .inr (by decide), fun _ => by omega⟩, ?_,
        fun _ => ⟨rfl, hfive, fun _ => ?_⟩⟩
      · intro hfinite
        cases hfinite
      · exact ⟨fun _ => rfl, fun _ => by decide⟩

/-- With the usual settings the battery's reply is as long as it can be. -/
theorem reply_fits_iff_usual :
    let scale := ({} : Firmware).voltage
    ({} : Firmware).refusal? = none ∧ (1000 : UInt16).toNat < scale.steps
      ∧ scale.reply 1000 = "24.414" ∧ scale.replyCapacity = 8
      ∧ (Utf8.encode (scale.reply 1000)).length + 1 ≤ scale.replyCapacity := by
  have haccepted := Firmware.default_accepted
  have hraw : (1000 : UInt16).toNat < ({} : Firmware).voltage.steps := by decide
  have hfinite : (({} : Firmware).voltage.convert ({} : Firmware).voltage.topReading).isFinite
      = true := by decide +kernel
  refine ⟨haccepted, hraw, by decide +kernel, by decide +kernel, ?_⟩
  exact (reply_fits_iff haccepted hraw).1.2 (.inl hfinite)

/-- A reference of 10^308 volts and a divider that lets as much of them
through: of three readings the largest is past the largest double, and the
reply to the one below it takes a byte more than there is. -/
theorem short_room_for_reading :
    let large := (Binary64.ofText? "1e308").getD .nan
    let firmware : Firmware := { voltage := { reference := large, steps := 3, ratio := large } }
    let scale := firmware.voltage
    firmware.refusal? = none ∧ (1 : UInt16).toNat < scale.steps
      ∧ scale.convert 2 = .infinite false ∧ scale.reply 1 = "0.333" ∧ scale.replyCapacity = 5
      ∧ ¬(Utf8.encode (scale.reply 1)).length + 1 ≤ scale.replyCapacity := by
  decide +kernel

end SerialEndpoint
