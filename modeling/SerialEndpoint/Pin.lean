/-
Pins, the roles they play, and the pins granted to one component.

PWM and digital pins share the numbers of the digital header; analog
inputs are numbered on a header of their own. `Pin.position` is where a
pin sits, so two pins are the same piece of metal exactly when their
positions agree.
-/
import SerialEndpoint.Component

namespace SerialEndpoint

-- =============================================================== pins

/-- What a pool of pins is reserved for. -/
inductive Category where
  | pwm
  | digital
  | analog
deriving DecidableEq

/-- The categories in their usual order. -/
def Category.all : List Category := [.pwm, .digital, .analog]

/-- A category as messages name it. -/
def Category.text : Category → String
  | .pwm => "PWM"
  | .digital => "DIGITAL"
  | .analog => "ANALOG"

/-- A pin drawn from the pool of a category. -/
structure Pin where
  category : Category
  number : UInt8
deriving DecidableEq

/-- A place on one of the two headers. -/
inductive Position where
  | digital (number : UInt8)
  | analog (number : UInt8)
deriving DecidableEq

namespace Pin

/-- Where a pin sits. -/
def position (pin : Pin) : Position :=
  match pin.category with
  | .pwm | .digital => .digital pin.number
  | .analog => .analog pin.number

/-- A pin as a sketch names it; analog inputs have the letter A. -/
def name (pin : Pin) : String :=
  match pin.category with
  | .analog => "A" ++ toString pin.number.toNat
  | .pwm | .digital => toString pin.number.toNat

/-- A pin with its category, such as `ANALOG A0`. -/
def text (pin : Pin) : String :=
  pin.category.text ++ " " ++ pin.name

end Pin

-- ============================================================== roles

/-- What a granted pin does for its component. -/
inductive Role where
  | pwm
  | direction
  | brake
  | collect
  | control
deriving DecidableEq

/-- The roles in their usual order. -/
def Role.all : List Role := [.pwm, .direction, .brake, .collect, .control]

/-- A role as summaries and sketches name it. -/
def Role.text : Role → String
  | .pwm => "PWM"
  | .direction => "DIR"
  | .brake => "BRAKE"
  | .collect => "COLLECT"
  | .control => "CONTROL"

/-- The pins granted to one component. -/
inductive Wiring where
  | motor (pwm direction : Option Pin) (brake : Pin)
  | voltageSensor (collect : Pin)
  | switch (control : Pin)
  /-- No pins: distance sensors and generic components. -/
  | none
deriving DecidableEq

/-- Every granted pin with its role, in the order of granting. -/
def Wiring.roles : Wiring → List (Role × Pin)
  | .motor pwm direction brake =>
    (pwm.toList.map fun p => (Role.pwm, p)) ++
      (direction.toList.map fun p => (Role.direction, p)) ++ [(Role.brake, brake)]
  | .voltageSensor collect => [(Role.collect, collect)]
  | .switch control => [(Role.control, control)]
  | .none => []

-- ======================================================== assignments

/-- A component and its pins. -/
structure Assignment where
  component : Component
  wiring : Wiring
deriving DecidableEq

namespace Assignment

/-- The name of the component. -/
def name (a : Assignment) : String := a.component.name

/-- The kind of the component. -/
def kind (a : Assignment) : Kind := a.component.kind

/-- Every granted pin with its role. -/
def roles (a : Assignment) : List (Role × Pin) := a.wiring.roles

/-- The pin in a role. -/
def pin? (a : Assignment) (role : Role) : Option Pin :=
  (a.roles.find? fun entry => entry.1 = role).map Prod.snd

/-- A summary on one line, such as `Battery [voltage_sensor] COLLECT=A0`. -/
def summary (a : Assignment) : String :=
  let pins := match a.wiring with
    | .none => " no pins"
    | wiring => String.join (wiring.roles.map fun (role, pin) => " " ++ role.text ++ "=" ++ pin.name)
  a.name ++ " [" ++ a.kind.text ++ "]" ++ pins

end Assignment

end SerialEndpoint
