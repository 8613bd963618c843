/-
Frames: a message as it goes over the line.

Every character that is ASCII and no line end is one byte; any other one
is sent as a question mark and counted. The line end closes the frame and
stands nowhere else in it.
-/
import SerialEndpoint.Command

namespace SerialEndpoint

/-- The bytes of a message on the line, and how many characters could not
be sent as they are. -/
structure Frame where
  bytes : List UInt8
  replaced : Nat
deriving DecidableEq

/-- True of a character that is sent as it is. -/
def isSendable (c : Char) : Bool := c.toNat < 128 && c != '\n'

/-- The byte sent for a character. -/
def sentByte (c : Char) : UInt8 := if isSendable c then UInt8.ofNat c.toNat else 0x3F

/-- The frame of a message. -/
def Frame.ofMessage (message : String) : Frame where
  bytes := message.toList.map sentByte ++ [lineEnd]
  replaced := message.toList.countP fun c => !isSendable c

/-- A frame ends with the line end. -/
theorem Frame.bytes_ofMessage (message : String) :
    (Frame.ofMessage message).bytes = message.toList.map sentByte ++ [lineEnd] := rfl

/-- No byte sent for a character is the line end. -/
theorem sentByte_ne_lineEnd (c : Char) : sentByte c ≠ lineEnd := by
  unfold sentByte
  split
  · rename_i h
    simp only [isSendable, Bool.and_eq_true, decide_eq_true_eq, bne_iff_ne, ne_eq] at h
    intro hc
    have hn := congrArg UInt8.toNat hc
    simp only [UInt8.toNat_ofNat', lineEnd] at hn
    rw [Nat.mod_eq_of_lt (by omega)] at hn
    exact h.2 (Char.toNat_inj.1 hn)
  · decide

/-- What is sent for a message is one line. -/
theorem sentByte_line (message : String) :
    ∀ b ∈ message.toList.map sentByte, b ≠ lineEnd := by
  intro b hb
  obtain ⟨c, -, rfl⟩ := List.mem_map.1 hb
  exact sentByte_ne_lineEnd c

end SerialEndpoint
