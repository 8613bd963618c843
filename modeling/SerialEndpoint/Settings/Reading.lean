/-
Settings as TOML. Every field has a default, so the empty text is a
settings file.
-/
import SerialEndpoint.Settings
import SerialEndpoint.Toml.Document
import SerialEndpoint.Toml.Fields

namespace SerialEndpoint

open Toml

/-- Where files are. -/
def Places.ofToml? (value : Value) : Option Places := do
  let usual : Places := {}
  let fields ← value.fields? ["agent", "output"]
  let agent ← fields.orDefault? "agent" Value.text? usual.agent
  let output ← fields.orDefault? "output" Value.text? usual.output
  pure { agent, output }

/-- A board by its name. -/
def Target.ofToml? (value : Value) : Option Target := do
  let name ← value.name?
  [Target.mega, .uno].find? fun target => target.name = name

/-- A board and the lists that stand in for its pools. -/
def BoardChoice.ofToml? (value : Value) : Option BoardChoice := do
  let fields ← value.fields? ["target", "pwm_pins", "digital_pins", "analog_pins"]
  let target ← fields.orDefault? "target" Target.ofToml? .mega
  let pwm ← fields.optional? "pwm_pins" (Value.list? Value.byte?)
  let digital ← fields.optional? "digital_pins" (Value.list? Value.byte?)
  let analog ← fields.optional? "analog_pins" (Value.list? Value.byte?)
  pure { target, pwm, digital, analog }

/-- How readings become volts. -/
def VoltageScale.ofToml? (value : Value) : Option VoltageScale := do
  let usual : VoltageScale := {}
  let fields ← value.fields? ["reference_voltage", "adc_steps", "divider_ratio", "precision"]
  let reference ← fields.orDefault? "reference_voltage" Value.real? usual.reference
  let steps ← fields.orDefault? "adc_steps" (Value.natBelow? (Nat.pow 2 32)) usual.steps
  let ratio ← fields.orDefault? "divider_ratio" Value.real? usual.ratio
  let precision ← fields.orDefault? "precision" (Value.natBelow? (Nat.pow 2 8)) usual.precision
  pure { reference, steps, ratio, precision }

/-- How the board ranges. -/
def Ranging.ofToml? (value : Value) : Option Ranging := do
  let usual : Ranging := {}
  let fields ← value.fields? ["timeout_ms", "timeout_token"]
  let timeout ← fields.orDefault? "timeout_ms" (Value.natBelow? (Nat.pow 2 32)) usual.timeout
  let timeoutToken ← fields.orDefault? "timeout_token" Value.text? usual.timeoutToken
  pure { timeout, timeoutToken }

/-- The constants of a sketch. -/
def Firmware.ofToml? (value : Value) : Option Firmware := do
  let usual : Firmware := {}
  let fields ← value.fields? ["baud", "accumulator_size", "voltage", "distance"]
  let baud ← fields.orDefault? "baud" (Value.natBelow? (Nat.pow 2 32)) usual.baud
  let accumulatorSize ←
    fields.orDefault? "accumulator_size" (Value.natBelow? (Nat.pow 2 64)) usual.accumulatorSize
  let voltage ← fields.orDefault? "voltage" VoltageScale.ofToml? {}
  let ranging ← fields.orDefault? "distance" Ranging.ofToml? {}
  pure { baud, accumulatorSize, voltage, ranging }

/-- The host's side of the serial line. -/
def Serial.ofToml? (value : Value) : Option Serial := do
  let usual : Serial := {}
  let fields ← value.fields? ["port", "baud", "timeout_ms"]
  let port ← fields.orDefault? "port" Value.text? usual.port
  let baud ← fields.orDefault? "baud" (Value.natBelow? (Nat.pow 2 32)) usual.baud
  let timeout ← fields.orDefault? "timeout_ms" (Value.natBelow? (Nat.pow 2 64)) usual.timeout
  pure { port, baud, timeout }

/-- All settings. -/
def Settings.ofToml? (value : Value) : Option Settings := do
  let fields ← value.fields? ["paths", "board", "firmware", "serial"]
  let places ← fields.orDefault? "paths" Places.ofToml? {}
  let board ← fields.orDefault? "board" BoardChoice.ofToml? {}
  let firmware ← fields.orDefault? "firmware" Firmware.ofToml? {}
  let serial ← fields.orDefault? "serial" Serial.ofToml? {}
  pure { places, board, firmware, serial }

/-- The settings that a TOML text gives, not yet checked. -/
def Settings.ofText (text : String) : Except SettingsFault Settings :=
  match (readDocument? text).bind fun root => ofToml? (.table .opened root) with
  | some settings => .ok settings
  | none => .error .malformed

end SerialEndpoint
