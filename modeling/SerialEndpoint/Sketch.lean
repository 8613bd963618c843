/-
The sketch: the program that runs on the board. Its text follows from the
settings and the assignments alone.

The loop collects bytes up to a line end and hands each line to one function;
that function first looks whether a motor waits for its duty, and then
compares the line with every command in the order of the command table.

Every section is a list of lines with the blocks that they open and end
(`Line`), and only printing makes a text of it. What no component needs is
left out: the libraries and the helpers of a sensor that is not there, and the
states where no motor has a duty.
-/
import SerialEndpoint.Sketch.Layout
import SerialEndpoint.Command
import SerialEndpoint.Settings

namespace SerialEndpoint

open Sketch (Line)

-- ============================================================== names

/-- The file that a sketch goes into. -/
def sketchFileName : String := "kinetic_serial_endpoint.cpp"

/-- The variable that tells whether a motor waits for its duty. -/
def Assignment.speedVariable (a : Assignment) : String := "speedState" ++ a.name

/-- The variable of a distance sensor. -/
def Assignment.sensorVariable (a : Assignment) : String := "sensor" ++ a.name

/-- The assignments with a PWM pin. -/
def speedMotors (assignments : List Assignment) : List Assignment :=
  assignments.filter fun a => (a.pin? .pwm).isSome

/-- The distance sensors. -/
def distanceSensors (assignments : List Assignment) : List Assignment :=
  assignments.filter fun a => a.kind = .distanceSensor

/-- True when a voltage sensor is among the assignments. -/
def hasVoltageSensor (assignments : List Assignment) : Bool :=
  assignments.any fun a => a.kind = .voltageSensor

-- ======================================================== declarations

namespace Firmware

/-- The opening comment, the libraries and the constants. -/
def preamble (firmware : Firmware) (ranging : Bool) : List Line :=
  [.plain "// KINETIC serial endpoint",
   .plain "// Generated file, regenerate from the agent definition instead of editing.",
   .blank,
   .plain "#include <Arduino.h>"] ++
  (if ranging then [.plain "#include <Wire.h>", .plain "#include <VL53L0X.h>"] else []) ++
  [.blank,
   .plain ("#define ACCUMULATOR_SIZE " ++ toString firmware.accumulatorSize),
   .blank]

/-- The global variables. -/
def globals (assignments : List Assignment) : List Line :=
  let motors := speedMotors assignments
  let sensors := distanceSensors assignments
  [.plain "char accumulator[ACCUMULATOR_SIZE + 1];", .plain "int accumulatorIndex = 0;"] ++
  (if motors = [] then [] else
    [.blank, .plain "enum SpeedState \x7b SPEED_IDLE, SPEED_AWAITING_PARAM \x7d;"] ++
    motors.map fun a => .plain ("SpeedState " ++ a.speedVariable ++ " = SPEED_IDLE;")) ++
  (if sensors = [] then [] else
    .blank :: sensors.map fun a => .plain ("VL53L0X " ++ a.sensorVariable ++ ";")) ++
  [.blank]

-- ============================================================ functions

/-- The function that reads a voltage. -/
def voltageHelper (firmware : Firmware) : List Line :=
  let scale := firmware.voltage
  [.opening "static float readVoltage(uint8_t pin)",
   .plain "float raw = analogRead(pin);",
   .plain ("return ((raw * " ++ scale.reference.fixed 6 ++ ") / " ++
     (Binary64.ofNat scale.steps).fixed 6 ++ ") / " ++ scale.ratio.fixed 6 ++ ";"),
   .closing,
   .blank]

/-- The function that measures and replies a distance. -/
def distanceHelper (firmware : Firmware) : List Line :=
  [.opening "static void dumpDistance(VL53L0X &sensor)",
   .plain "uint16_t range = sensor.readRangeSingleMillimeters();",
   .opening "if (sensor.timeoutOccurred())",
   .plain ("Serial.print(\"" ++ firmware.ranging.timeoutToken ++ "\");"),
   .reopening "else",
   .plain "Serial.print(range);",
   .closing,
   .plain "Serial.write('\\n');",
   .closing,
   .blank]

/-- The output pins of a component; analog inputs need no mode. -/
def pinModes (a : Assignment) : List Line :=
  (a.roles.filter fun entry => entry.1 ≠ .collect).map fun (role, pin) =>
    .plain ("pinMode(" ++ pin.name ++ ", OUTPUT); // " ++ a.name ++ " " ++ role.text)

/-- The lines that start a distance sensor. -/
def sensorStart (firmware : Firmware) (a : Assignment) : List Line :=
  [.plain (a.sensorVariable ++ ".setTimeout(" ++ toString firmware.ranging.timeout ++ ");"),
   .plain (a.sensorVariable ++ ".init();")]

/-- The function that runs once. -/
def setup (firmware : Firmware) (assignments : List Assignment) : List Line :=
  let sensors := distanceSensors assignments
  [.opening "void setup()",
   .plain ("Serial.begin(" ++ toString firmware.baud ++ ");")] ++
  assignments.flatMap pinModes ++
  (if sensors = [] then [] else
    .plain "Wire.begin();" :: sensors.flatMap firmware.sensorStart) ++
  [.closing, .blank]

-- ============================================================= dispatch

/-- What is done on a command. -/
def actionLines (firmware : Firmware) (a : Assignment) : Action → List Line
  | .write pin level => [.plain ("digitalWrite(" ++ pin.name ++ ", " ++ level.text ++ ");")]
  | .awaitSpeed _ => [.plain (a.speedVariable ++ " = SPEED_AWAITING_PARAM;")]
  | .readVoltage pin =>
    [.plain ("char reply[" ++ toString firmware.voltage.replyCapacity ++ "];"),
     .plain ("dtostrf(readVoltage(" ++ pin.name ++ "), 1, " ++
       toString firmware.voltage.precision ++ ", reply);"),
     .plain "Serial.write(reply);",
     .plain "Serial.write('\\n');"]
  | .readDistance => [.plain ("dumpDistance(" ++ a.sensorVariable ++ ");")]
  | .placeholder => [.plain ("// insert command logic for " ++ a.name ++ " here")]

/-- The branch of one command. -/
def commandBranch (firmware : Firmware) (a : Assignment) (command : Command) : List Line :=
  [.opening ("if (strcmp(command, \"" ++ command.line ++ "\") == 0)")] ++
  firmware.actionLines a command.action ++ [.plain "return;", .closing]

/-- The branches of one component. -/
def componentBranches (firmware : Firmware) (a : Assignment) : List Line :=
  a.commands.flatMap (firmware.commandBranch a)

/-- The branch that takes the duty a motor waits for, where it has a PWM
pin. -/
def dutyBranch (a : Assignment) : List Line :=
  match a.pin? .pwm with
  | none => []
  | some pin =>
    [.opening ("if (" ++ a.speedVariable ++ " == SPEED_AWAITING_PARAM)"),
     .plain ("analogWrite(" ++ pin.name ++ ", constrain(atoi(command), 0, 255));"),
     .plain (a.speedVariable ++ " = SPEED_IDLE;"),
     .plain "return;",
     .closing]

/-- The function that takes a line: duties first, then commands. -/
def dispatch (firmware : Firmware) (assignments : List Assignment) : List Line :=
  [.opening "void dispatchCommand(const char *command)"] ++
  assignments.flatMap dutyBranch ++
  assignments.flatMap firmware.componentBranches ++
  [.plain "// unmatched lines are discarded", .closing, .blank]

/-- The function that runs again and again. -/
def loop : List Line :=
  [.opening "void loop()",
   .opening "while (Serial.available() > 0)",
   .plain "int incoming = Serial.read();",
   .opening "if (incoming == 0x0A)",
   .plain "accumulator[accumulatorIndex] = '\\0';",
   .plain "dispatchCommand(accumulator);",
   .plain "accumulatorIndex = 0;",
   .plain "memset(accumulator, 0, sizeof(accumulator));",
   .reopening "else if (accumulatorIndex < ACCUMULATOR_SIZE)",
   .plain "accumulator[accumulatorIndex] = (char) incoming;",
   .plain "accumulatorIndex += 1;",
   .closing,
   .closing,
   .closing]

-- ============================================================ the whole

/-- The lines of the sketch for some assignments. -/
def sketchLines (firmware : Firmware) (assignments : List Assignment) : List Line :=
  let ranging := distanceSensors assignments ≠ []
  firmware.preamble ranging ++ globals assignments ++
  (if hasVoltageSensor assignments then firmware.voltageHelper else []) ++
  (if ranging then firmware.distanceHelper else []) ++
  firmware.setup assignments ++ firmware.dispatch assignments ++ loop

/-- The sketch for some assignments. -/
def sketch (firmware : Firmware) (assignments : List Assignment) : String :=
  Sketch.text (firmware.sketchLines assignments)

end Firmware

end SerialEndpoint
