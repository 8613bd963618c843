/-
Settings: the constants that go into a sketch, the host's side of the
serial line, the board and its pins, and where the files are.

`Firmware.check` accepts exactly the settings that can stand in a sketch;
`Settings.check` adds the host's baud rate and the pins. Each refusal is
a cause of its own with one message.
-/
import SerialEndpoint.Number.Decimal
import SerialEndpoint.Text.Quoted
import SerialEndpoint.Text.Duration
import SerialEndpoint.Pin.Pools
import SerialEndpoint.Fault
import SerialEndpoint.FilePath

namespace SerialEndpoint

-- ============================================================ voltages

/-- How a board turns the reading of an analog pin into volts. -/
structure VoltageScale where
  /-- The voltage of a full reading, behind the divider. -/
  reference : Binary64 := .ofNat 5
  /-- How many steps a full reading has. -/
  steps : Nat := 1024
  /-- The part of the voltage that the divider lets through. -/
  ratio : Binary64 := .ofRatio false 1 5
  /-- How many places a reply has. -/
  precision : Nat := 3
deriving DecidableEq

namespace VoltageScale

/-- The most places a reply may have. -/
def maxPrecision : Nat := 6

/-- The voltage of a reading. -/
def convert (scale : VoltageScale) (raw : UInt16) : Binary64 :=
  (((Binary64.ofNat raw.toNat).mul scale.reference).div (.ofNat scale.steps)).div scale.ratio

/-- The reply to a reading. -/
def reply (scale : VoltageScale) (raw : UInt16) : String :=
  (scale.convert raw).fixed scale.precision

/-- The largest reading there can be. -/
def topReading (scale : VoltageScale) : UInt16 :=
  UInt16.ofNat (min (scale.steps - 1) 65535)

/-- The bytes to set aside for the widest reply, with room for a sign and
the zero byte after it. -/
def replyCapacity (scale : VoltageScale) : Nat :=
  ((scale.convert scale.topReading).abs.fixed scale.precision).length + 2

end VoltageScale

-- =========================================================== distances

/-- How a board ranges. -/
structure Ranging where
  /-- How long a measurement may take, in milliseconds. -/
  timeout : Nat := 500
  /-- What is replied when it takes longer. -/
  timeoutToken : String := "TIMEOUT"
deriving DecidableEq

/-- True of a token that can stand in a sketch between quotes and that no
one takes for a distance. -/
def isTimeoutToken (token : String) : Bool :=
  !token.isEmpty &&
    token.toList.all (fun c => '!' ≤ c && c ≤ '~' && c != '"' && c != '\\') &&
    !token.toList.all Char.isDigit

-- ============================================================ firmware

/-- The constants of a sketch. -/
structure Firmware where
  baud : Nat := 9600
  /-- How many bytes of a line the board keeps. -/
  accumulatorSize : Nat := 64
  voltage : VoltageScale := {}
  ranging : Ranging := {}
deriving DecidableEq

/-- Why settings are refused. -/
inductive Refusal where
  | emptyAccumulator
  | firmwareBaud
  | steps
  | voltage
  | precision
  | timeoutToken (token : String)
  | serialBaud
  | pins (fault : PoolFault)
deriving DecidableEq

/-- The message of a refusal. -/
def Refusal.message (refusal : Refusal) : String :=
  "Invalid configuration: " ++ match refusal with
    | emptyAccumulator => "firmware.accumulator_size must be at least 1"
    | firmwareBaud => "firmware.baud must be non-zero"
    | steps => "firmware.voltage.adc_steps must be between 1 and 65536"
    | voltage => "firmware.voltage needs a positive reference_voltage and divider_ratio"
    | precision =>
      "firmware.voltage.precision must be at most " ++ toString VoltageScale.maxPrecision
    | timeoutToken token =>
      "firmware.distance.timeout_token " ++ Quoted.encode token ++
        " must be printable ASCII without spaces, quotes or backslashes, and not a number"
    | serialBaud => "serial.baud must be non-zero"
    | pins fault => "board pins: " ++ fault.message

/-- True of a number that a sketch can divide by. -/
def Binary64.isUsable (number : Binary64) : Bool := number.isFinite && number.isPositive

/-- The first reason to refuse the constants of a sketch. -/
def Firmware.refusal? (firmware : Firmware) : Option Refusal :=
  if firmware.accumulatorSize = 0 then some .emptyAccumulator
  else if firmware.baud = 0 then some .firmwareBaud
  else if firmware.voltage.steps = 0 ∨ 65536 < firmware.voltage.steps then some .steps
  else if !firmware.voltage.ratio.isUsable || !firmware.voltage.reference.isUsable then some .voltage
  else if VoltageScale.maxPrecision < firmware.voltage.precision then some .precision
  else if !isTimeoutToken firmware.ranging.timeoutToken then
    some (.timeoutToken firmware.ranging.timeoutToken)
  else none

/-- Accepts the constants that can stand in a sketch. -/
def Firmware.check (firmware : Firmware) : Except Refusal Unit :=
  match firmware.refusal? with
  | some refusal => .error refusal
  | none => .ok ()

-- ============================================================== boards

/-- The boards with known pins. -/
inductive Target where
  | mega
  | uno
deriving DecidableEq

/-- The name of a board. -/
def Target.name : Target → String
  | .mega => "mega"
  | .uno => "uno"

/-- The pools of a board. -/
def Target.pools : Target → Pools
  | .mega => .mega
  | .uno => .uno

/-- A board, with lists that stand in for its own pools. -/
structure BoardChoice where
  target : Target := .mega
  pwm : Option (List UInt8) := none
  digital : Option (List UInt8) := none
  analog : Option (List UInt8) := none
deriving DecidableEq

/-- The pools in effect. A board's own pools need no check. -/
def BoardChoice.pools (choice : BoardChoice) : Except PoolFault Pools :=
  let own := choice.target.pools
  match choice.pwm, choice.digital, choice.analog with
  | none, none, none => .ok own
  | pwm, digital, analog =>
    Pools.ofLists (pwm.getD own.pwm) (digital.getD own.digital) (analog.getD own.analog)

-- ============================================================ the whole

/-- The host's side of the serial line. -/
structure Serial where
  port : String := "/dev/ttyACM0"
  baud : Nat := 9600
  /-- How long a read or write may take, in milliseconds. -/
  timeout : Nat := 5000
deriving DecidableEq

/-- Where the agent file is and where the results go. -/
structure Places where
  agent : String := "agent.toml"
  output : String := "."
deriving DecidableEq

/-- Everything a settings file says. -/
structure Settings where
  places : Places := {}
  board : BoardChoice := {}
  firmware : Firmware := {}
  serial : Serial := {}
deriving DecidableEq

/-- The first reason to refuse settings: the sketch's constants, then the
host's baud rate, then the pins. -/
def Settings.refusal? (settings : Settings) : Option Refusal :=
  match settings.firmware.refusal? with
  | some refusal => some refusal
  | none =>
    if settings.serial.baud = 0 then some .serialBaud
    else match settings.board.pools with
      | .error fault => some (.pins fault)
      | .ok _ => none

/-- Accepts settings that can be used. -/
def Settings.check (settings : Settings) : Except Refusal Unit :=
  match settings.refusal? with
  | some refusal => .error refusal
  | none => .ok ()

/-- The settings with relative places taken from a base directory. -/
def Settings.placedIn (settings : Settings) (base : String) : Settings :=
  { settings with places :=
    { agent := FilePath.join base settings.places.agent
      output := FilePath.join base settings.places.output } }

/-- Why settings cannot be loaded. -/
inductive SettingsFault where
  | file (fault : Fault)
  /-- The file is no settings file. -/
  | malformed
  | refused (refusal : Refusal)
deriving DecidableEq

/-- The message of a fault. -/
def SettingsFault.message : SettingsFault → String
  | file fault => "IO error: " ++ fault.text
  | malformed => "TOML parse error"
  | refused refusal => refusal.message

end SerialEndpoint
