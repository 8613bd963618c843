/-
Switches and sensors on the host. A reply is read without the blanks at
its ends; one that cannot be read is a fault that shows it.
-/
import SerialEndpoint.Device.Request
import SerialEndpoint.Number.Decimal
import SerialEndpoint.Text.Blank

namespace SerialEndpoint

variable {l : Type} [Link l]

-- ============================================================= switches

/-- A switch: a relay or a transistor. -/
structure Switch where
  keymap : Keymap

namespace Switch

/-- Stops the current. -/
def openContact (switch : Switch) : OnDevice l Unit :=
  Script.make [switch.keymap.request .openContact]

/-- Lets the current flow. -/
def closeContact (switch : Switch) : OnDevice l Unit :=
  Script.make [switch.keymap.request .closeContact]

end Switch

-- ============================================================== sensors

/-- Asks for a reading and gives the reply. -/
def Keymap.collect (keymap : Keymap) : OnDevice l String :=
  match keymap.line .collect with
  | .error fault => throw fault
  | .ok line => do
    match ← (Link.sendThen line .receive).toDevice with
    | some reply => pure reply
    | none => throw (.unreadable "")

/-- A voltage sensor. -/
structure VoltageSensor where
  keymap : Keymap

/-- The voltage that a reply gives. -/
def VoltageSensor.read (reply : String) : Except DeviceFault Binary64 :=
  match Binary64.ofText? (trimBlank reply) with
  | some voltage => .ok voltage
  | none => .error (.unreadable reply)

/-- Asks for a voltage. -/
def VoltageSensor.collect (sensor : VoltageSensor) : OnDevice l Binary64 := do
  match VoltageSensor.read (← sensor.keymap.collect) with
  | .ok voltage => pure voltage
  | .error fault => throw fault

/-- A distance sensor, with what the board replies when it finds
nothing. -/
structure DistanceSensor where
  keymap : Keymap
  timeoutToken : String := "TIMEOUT"

/-- The distance that a reply gives, in millimetres; none if the sensor
found nothing. -/
def DistanceSensor.read (sensor : DistanceSensor) (reply : String) :
    Except DeviceFault (Option Nat) :=
  let reply := trimBlank reply
  if reply = sensor.timeoutToken then .ok none
  else match readNatBelow? (Nat.pow 2 32) reply.toList with
    | some distance => .ok (some distance)
    | none => .error (.unreadable reply)

/-- Asks for a distance. -/
def DistanceSensor.collect (sensor : DistanceSensor) : OnDevice l (Option Nat) := do
  match sensor.read (← sensor.keymap.collect) with
  | .ok distance => pure distance
  | .error fault => throw fault

end SerialEndpoint
