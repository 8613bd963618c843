/-
The command table: for every component the lines it answers to and what
each of them does on the board.

A command line is the opcode's word, one space and the component's name.
`Assignment.commands` is the only place where lines are made, so the
sketch, the keymaps and the simulated board agree on them.
-/
import SerialEndpoint.Pin

namespace SerialEndpoint

/-- The byte that ends every line, in both directions. -/
def lineEnd : UInt8 := 0x0A

/-- The largest PWM duty. -/
def fullDuty : Nat := 255

/-- The first word of a command line. -/
inductive Opcode where
  | motorForward
  | motorBackward
  | motorSpeed
  | motorBrakeHold
  | motorBrakeRelease
  | voltageCollect
  | distanceCollect
  | switchOpen
  | switchClose
  | genericCommand
deriving DecidableEq

/-- The word of an opcode. -/
def Opcode.word : Opcode → String
  | .motorForward => "MOTOR_FORWARD"
  | .motorBackward => "MOTOR_BACKWARD"
  | .motorSpeed => "MOTOR_SPEED"
  | .motorBrakeHold => "MOTOR_BRAKE_HOLD"
  | .motorBrakeRelease => "MOTOR_BRAKE_RELEASE"
  | .voltageCollect => "VOLTAGE_SENSOR_COLLECT"
  | .distanceCollect => "VL53L0X_COLLECT"
  | .switchOpen => "SWITCH_OPEN"
  | .switchClose => "SWITCH_CLOSE"
  | .genericCommand => "GENERIC_COMMAND"

/-- What a host asks of a component; its key stands in keymaps. -/
inductive Operation where
  | forwards
  | backwards
  | speed
  | brake
  | release
  | collect
  | openContact
  | closeContact
  | command
deriving DecidableEq

/-- The key of an operation. -/
def Operation.key : Operation → String
  | .forwards => "FORWARDS"
  | .backwards => "BACKWARDS"
  | .speed => "SPEED"
  | .brake => "BRAKE"
  | .release => "RELEASE"
  | .collect => "COLLECT"
  | .openContact => "OPEN"
  | .closeContact => "CLOSE"
  | .command => "COMMAND"

/-- The level of a digital output. -/
inductive Level where
  | low
  | high
deriving DecidableEq

/-- A level as a sketch names it. -/
def Level.text : Level → String
  | .low => "LOW"
  | .high => "HIGH"

/-- What the board does on a command. -/
inductive Action where
  | write (pin : Pin) (level : Level)
  /-- The next line is the duty for this PWM pin. -/
  | awaitSpeed (pwm : Pin)
  | readVoltage (pin : Pin)
  | readDistance
  /-- Nothing yet: the place is filled in by hand. -/
  | placeholder
deriving DecidableEq

/-- A row of the command table. -/
structure Command where
  component : String
  operation : Operation
  opcode : Opcode
  action : Action
deriving DecidableEq

/-- The line that invokes a command. -/
def Command.line (command : Command) : String :=
  command.opcode.word ++ " " ++ command.component

/-- The command table of one component, in the order in which the board
looks a line up. Motors have direction commands only with a direction pin
and a speed command only with a PWM pin; a kind with the wiring of
another one has no commands. -/
def Assignment.commands (a : Assignment) : List Command :=
  let row := Command.mk a.name
  match a.kind, a.wiring with
  | .motor _ _, .motor pwm direction brake =>
    (direction.toList.flatMap fun pin =>
      [row .forwards .motorForward (.write pin .high),
       row .backwards .motorBackward (.write pin .low)]) ++
    (pwm.toList.map fun pin => row .speed .motorSpeed (.awaitSpeed pin)) ++
    [row .brake .motorBrakeHold (.write brake .high),
     row .release .motorBrakeRelease (.write brake .low)]
  | .voltageSensor, .voltageSensor collect =>
    [row .collect .voltageCollect (.readVoltage collect)]
  | .switch, .switch control =>
    [row .openContact .switchOpen (.write control .low),
     row .closeContact .switchClose (.write control .high)]
  | .distanceSensor, _ => [row .collect .distanceCollect .readDistance]
  | .generic false, _ => [row .command .genericCommand .placeholder]
  | _, _ => []

/-- The command tables of several components, one after the other. -/
def commandTable (assignments : List Assignment) : List Command :=
  assignments.flatMap Assignment.commands

end SerialEndpoint
