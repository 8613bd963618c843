/-
Motors and drive trains on the host.

What a motor can do follows from its keymap: without the speed key it has
no duty, without both direction keys it runs one way. `Motor.script` is
all that a motor ever sends for a control value: the duty, then the
direction, then the release of the brake; for zero, the brake alone.
-/
import SerialEndpoint.Device.Request
import SerialEndpoint.Number.Binary64

namespace SerialEndpoint

/-- The duty for a control value: its share of `fullDuty`. -/
def dutyFor (control : Binary64) : Nat :=
  ((Binary64.ofNat fullDuty).mul control.unitMagnitude).nearestNat

-- ============================================================== motors

/-- A motor and the control value it was last given. -/
structure Motor where
  keymap : Keymap
  control : Binary64 := .zero

namespace Motor

/-- True of a motor with a duty. -/
def hasSpeed (motor : Motor) : Bool := (motor.keymap.get? .speed).isSome

/-- True of a motor that runs both ways. -/
def hasDirection (motor : Motor) : Bool :=
  (motor.keymap.get? .forwards).isSome && (motor.keymap.get? .backwards).isSome

/-- The requests for a duty. -/
def speedScript (motor : Motor) (control : Binary64) : Script :=
  match motor.keymap.get? .speed with
  | some line => [.ok (.pair line (toString (dutyFor control)))]
  | none => []

/-- The requests for a direction. A motor that runs forwards only is sent
forwards either way. -/
def directionScript (motor : Motor) (control : Binary64) : Script :=
  if motor.hasDirection then
    [motor.keymap.request (if control.isPositive then .forwards else .backwards)]
  else match motor.keymap.get? .forwards with
    | some line => [.ok (.single line)]
    | none => []

/-- All requests for a control value between minus one and one. -/
def script (motor : Motor) (control : Binary64) : Script :=
  if control.isZero then [motor.keymap.request .brake]
  else
    motor.speedScript control ++ motor.directionScript control ++
      [motor.keymap.request .release]

end Motor

variable {l : Type} [Link l]

/-- A step on something that uses a link. -/
abbrev Steering (δ l : Type) := EStateM DeviceFault (δ × l)

namespace Motor

/-- Sets the control value, taken between minus one and one: the motor
remembers it and then makes its requests. -/
def setControl (control : Binary64) : Steering Motor l Unit := fun (motor, link) =>
  let control := control.clampUnit
  let motor := { motor with control }
  match (motor.script control).make link with
  | .ok () link => .ok () (motor, link)
  | .error fault link => .error fault (motor, link)

/-- Runs forwards, whatever the sign of the speed. -/
def forward (speed : Binary64) : Steering Motor l Unit := setControl speed.abs

/-- Runs backwards, whatever the sign of the speed. -/
def backward (speed : Binary64) : Steering Motor l Unit := setControl speed.abs.neg

/-- Holds the brake. -/
def stop : Steering Motor l Unit := setControl .zero

end Motor

-- ======================================================== drive trains

/-- Two motors that drive together. -/
structure DriveTrain where
  left : Motor
  right : Motor

namespace DriveTrain

/-- A step of the left motor. -/
def onLeft {α : Type} (step : Steering Motor l α) : Steering DriveTrain l α :=
  fun (train, link) =>
    match step (train.left, link) with
    | .ok value (left, link) => .ok value ({ train with left }, link)
    | .error fault (left, link) => .error fault ({ train with left }, link)

/-- A step of the right motor. -/
def onRight {α : Type} (step : Steering Motor l α) : Steering DriveTrain l α :=
  fun (train, link) =>
    match step (train.right, link) with
    | .ok value (right, link) => .ok value ({ train with right }, link)
    | .error fault (right, link) => .error fault ({ train with right }, link)

/-- A step of the left motor, then one of the right motor unless the first
fails. -/
def both (left right : Steering Motor l Unit) : Steering DriveTrain l Unit := do
  onLeft left
  onRight right

/-- Drives forwards. -/
def forward (speed : Binary64) : Steering DriveTrain l Unit :=
  both (Motor.forward speed) (Motor.forward speed)

/-- Drives backwards. -/
def backward (speed : Binary64) : Steering DriveTrain l Unit :=
  both (Motor.backward speed) (Motor.backward speed)

/-- Spins in place to the right. -/
def clockwise (speed : Binary64) : Steering DriveTrain l Unit :=
  both (Motor.forward speed) (Motor.backward speed)

/-- Spins in place to the left. -/
def counterclockwise (speed : Binary64) : Steering DriveTrain l Unit :=
  both (Motor.backward speed) (Motor.forward speed)

/-- Holds both brakes. -/
def stop : Steering DriveTrain l Unit := both Motor.stop Motor.stop

end DriveTrain

end SerialEndpoint
