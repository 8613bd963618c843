/-
The simulated board: the sketch's behaviour as a machine fed one byte at
a time.

Bytes collect up to a line end, those beyond the capacity being dropped;
a line ends for good at its first zero byte. While a motor waits for its
duty the next line is that duty, whatever it says. Any other line is
compared with the commands in the order of the table, and the first that
equals it acts.
-/
import SerialEndpoint.Command
import SerialEndpoint.Settings
import SerialEndpoint.Text.Utf8

namespace SerialEndpoint

-- ============================================== numbers in a line

/-- The blanks that may stand before a number in a line. -/
def isLineBlank (byte : UInt8) : Bool :=
  byte == 0x20 || byte == 0x09 || byte == 0x0A || byte == 0x0C || byte == 0x0D

/-- True of the byte of a digit. -/
def isDigitByte (byte : UInt8) : Bool := 0x30 ≤ byte && byte ≤ 0x39

/-- A whole number as near as 64 bits come to it. -/
def saturated (n : Int) : Int64 :=
  Int64.ofInt (max Int64.minValue.toInt (min n Int64.maxValue.toInt))

/-- A number with one more digit behind it: ten times the number and then
the digit, each as far as 64 bits go. -/
def pushDigit (n : Int64) (digit : UInt8) : Int64 :=
  saturated ((saturated (10 * n.toInt)).toInt + (digit.toNat - 0x30 : Nat))

/-- The number at the front of a text, as far as 64 bits go: the digits
before the first other byte, zero if there are none. -/
def frontNumber (bytes : List UInt8) : Int64 :=
  (bytes.takeWhile isDigitByte).foldl pushDigit 0

/-- The signed number at the front of a line: blanks, a sign, digits, and
anything after them. -/
def lineNumber (line : List UInt8) : Int64 :=
  match line.dropWhile isLineBlank with
  | 0x2D :: rest => -frontNumber rest
  | 0x2B :: rest => frontNumber rest
  | rest => frontNumber rest

/-- The duty that a line gives, between zero and `fullDuty`. -/
def dutyOfLine (line : List UInt8) : UInt8 :=
  UInt8.ofNat (min (lineNumber line).toInt.toNat fullDuty)

-- ======================================================= speed slots

/-- Whether a motor with a PWM pin waits for its duty. -/
structure SpeedSlot where
  motor : String
  pwm : Pin
  awaiting : Bool := false
deriving DecidableEq

/-- The slots for some commands. -/
def speedSlots (commands : List Command) : List SpeedSlot :=
  commands.filterMap fun c =>
    match c.action with
    | .awaitSpeed pwm => some { motor := c.component, pwm }
    | _ => none

/-- Makes the first slot of a pin wait. -/
def beginAwaiting (pwm : Pin) : List SpeedSlot → List SpeedSlot
  | [] => []
  | slot :: rest =>
    if slot.pwm = pwm then { slot with awaiting := true } :: rest
    else slot :: beginAwaiting pwm rest

/-- Makes the first waiting slot idle again. -/
def endAwaiting : List SpeedSlot → List SpeedSlot
  | [] => []
  | slot :: rest =>
    if slot.awaiting then { slot with awaiting := false } :: rest
    else slot :: endAwaiting rest

-- ============================================================== board

/-- What is fixed on a board: its commands and its settings. -/
structure Circuit where
  commands : List Command
  capacity : Nat
  voltage : VoltageScale
  ranging : Ranging

/-- The board that runs the sketch of some settings. -/
def Firmware.circuit (firmware : Firmware) (assignments : List Assignment) : Circuit where
  commands := commandTable assignments
  capacity := firmware.accumulatorSize
  voltage := firmware.voltage
  ranging := firmware.ranging

/-- The first command that a line invokes. -/
def Circuit.command? (circuit : Circuit) (line : List UInt8) : Option Command :=
  circuit.commands.find? fun c => Utf8.encode c.line == line

/-- A function with another value in one place. -/
def overlay {α β : Type} [DecidableEq α] (f : α → β) (key : α) (value : β) : α → β :=
  fun k => if k = key then value else f k

/-- A board at work. Pins are known by their numbers; those never written
have no level and no duty. -/
structure Board where
  circuit : Circuit
  slots : List SpeedSlot
  /-- The bytes of the unfinished line. -/
  pending : List UInt8 := []
  levels : UInt8 → Option Level := fun _ => none
  duties : UInt8 → Option UInt8 := fun _ => none
  /-- The readings at the analog inputs. -/
  readings : UInt8 → UInt16 := fun _ => 0
  /-- The distances before the sensors, by name; none is a timeout. -/
  ranges : String → Option UInt16 := fun _ => none
  /-- The bytes written and not yet taken. -/
  output : List UInt8 := []
  /-- How many lines were carried out. This count and the next one are taken
  not to reach 2 ^ 64, where a counter of the machine has its end. -/
  dispatched : Nat := 0
  /-- How many lines were no command. -/
  unmatched : Nat := 0

/-- A board just switched on. -/
def Circuit.start (circuit : Circuit) : Board where
  circuit
  slots := speedSlots circuit.commands

namespace Board

/-- Writes a line. -/
def reply (board : Board) (text : String) : Board :=
  { board with output := board.output ++ Utf8.encode text ++ [lineEnd] }

/-- Does what a command says. -/
def act (board : Board) (command : Command) : Board :=
  match command.action with
  | .write pin level => { board with levels := overlay board.levels pin.number (some level) }
  | .awaitSpeed pwm => { board with slots := beginAwaiting pwm board.slots }
  | .readVoltage pin => board.reply (board.circuit.voltage.reply (board.readings pin.number))
  | .readDistance =>
    board.reply (match board.ranges command.component with
      | some distance => toString distance.toNat
      | none => board.circuit.ranging.timeoutToken)
  | .placeholder => board

/-- The first slot that waits for a duty. -/
def waiting? (board : Board) : Option SpeedSlot := board.slots.find? SpeedSlot.awaiting

/-- Takes a line as the duty of a slot. -/
def setDuty (board : Board) (slot : SpeedSlot) (line : List UInt8) : Board :=
  { board with
    duties := overlay board.duties slot.pwm.number (some (dutyOfLine line))
    slots := endAwaiting board.slots
    dispatched := board.dispatched + 1 }

/-- Takes a line: a duty if a motor waits for one, else a command. -/
def dispatch (board : Board) (line : List UInt8) : Board :=
  match board.waiting? with
  | some slot => board.setDuty slot line
  | none =>
    match board.circuit.command? line with
    | some command => { board with dispatched := board.dispatched + 1 }.act command
    | none => { board with unmatched := board.unmatched + 1 }

/-- Takes a byte. -/
def feed (board : Board) (byte : UInt8) : Board :=
  if byte = lineEnd then
    { board with pending := [] }.dispatch (board.pending.takeWhile (· ≠ 0))
  else if board.pending.length < board.circuit.capacity then
    { board with pending := board.pending ++ [byte] }
  else board

/-- Takes some bytes in order. -/
def feedAll (board : Board) (bytes : List UInt8) : Board :=
  bytes.foldl feed board

/-- The board with its output taken away. -/
def drained (board : Board) : Board := { board with output := [] }

/-- Sets the reading at an analog input. -/
def setReading (board : Board) (pin : UInt8) (raw : UInt16) : Board :=
  { board with readings := overlay board.readings pin raw }

/-- Sets the distance before a sensor. -/
def setRange (board : Board) (sensor : String) (distance : Option UInt16) : Board :=
  { board with ranges := overlay board.ranges sensor distance }

/-- Whether a motor waits for its duty, by its name. -/
def awaiting? (board : Board) (motor : String) : Option Bool :=
  (board.slots.find? fun slot => slot.motor = motor).map SpeedSlot.awaiting

end Board

end SerialEndpoint
