/-
Components: the parts of a robot that the endpoint serves, each a name
and a kind. The kind carries the switches that matter to it and nothing
else.
-/

namespace SerialEndpoint

/-- What a component is. -/
inductive Kind where
  /-- A motor, with or without speed control and with or without a
  direction pin. -/
  | motor (pwm direction : Bool)
  | distanceSensor
  | voltageSensor
  | switch
  /-- A component whose behaviour is filled in by hand; an ignored one
  gets no commands. -/
  | generic (ignored : Bool)
deriving DecidableEq

namespace Kind

/-- The short lower case label of a kind. -/
def label : Kind → String
  | motor _ _ => "motor"
  | distanceSensor => "vl53l0x"
  | voltageSensor => "voltage_sensor"
  | switch => "switch"
  | generic _ => "generic"

/-- The kind as summaries show it: the label, and a motor's switches. -/
def text : Kind → String
  | motor pwm direction => s!"motor (pwm={pwm}, direction={direction})"
  | kind => kind.label

end Kind

/-- A component of one robot. Its name stands in every command line
addressed to it. -/
structure Component where
  name : String
  kind : Kind
deriving DecidableEq

end SerialEndpoint
