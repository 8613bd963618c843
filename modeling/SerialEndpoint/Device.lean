/-
Devices: the parts of a robot as the host sees them, each driven by the
keymap of its component.
-/
import SerialEndpoint.Device.Motor
import SerialEndpoint.Device.Sensor
import SerialEndpoint.Keymap.Export

namespace SerialEndpoint

/-- A device of any kind. -/
inductive Device where
  | motor (motor : Motor)
  | train (train : DriveTrain)
  | switch (switch : Switch)
  | voltage (sensor : VoltageSensor)
  | distance (sensor : DistanceSensor)

/-- The device for the keymap of a component; a generic component has
none. -/
def Device.ofKind? (kind : Kind) (keymap : Keymap) (timeoutToken : String) : Option Device :=
  match kind with
  | .motor _ _ => some (.motor { keymap })
  | .switch => some (.switch { keymap })
  | .voltageSensor => some (.voltage { keymap })
  | .distanceSensor => some (.distance { keymap, timeoutToken })
  | .generic _ => none

/-- The devices for some assignments, each with the name of its
component. -/
def devices (assignments : List Assignment) (timeoutToken : String) : List (String × Device) :=
  assignments.filterMap fun a => do
    let file ← a.keymapFile?
    let device ← Device.ofKind? a.kind file.keymap timeoutToken
    pure (a.name, device)

/-- What can be asked of a device. -/
inductive Call where
  | setControl (control : Binary64)
  | forward (speed : Binary64)
  | backward (speed : Binary64)
  | clockwise (speed : Binary64)
  | counterclockwise (speed : Binary64)
  | stop
  | openContact
  | closeContact
  | collect
deriving DecidableEq

/-- What a call gives. -/
inductive CallResult where
  | done
  | voltage (voltage : Binary64)
  /-- A distance in millimetres; none if the sensor found nothing. -/
  | distance (distance : Option Nat)
deriving DecidableEq

variable {l : Type} [Link l]

/-- A step of a part of a device as a step of the device. -/
def Steering.within {δ : Type} (part : δ) (whole : δ → Device) (step : Steering δ l Unit) :
    Steering Device l CallResult := fun (_, link) =>
  match step (part, link) with
  | .ok () (part, link) => .ok .done (whole part, link)
  | .error fault (part, link) => .error fault (whole part, link)

/-- A step of a device that stays as it is. -/
def OnDevice.beside {α : Type} (result : α → CallResult) (step : OnDevice l α) :
    Steering Device l CallResult := fun (device, link) =>
  match step link with
  | .ok value link => .ok (result value) (device, link)
  | .error fault link => .error fault (device, link)

/-- Carries out a call. What a device cannot do is nothing to it. -/
def Device.perform (device : Device) (call : Call) : Steering Device l CallResult :=
  match device, call with
  | .motor m, .setControl control => Steering.within m .motor (Motor.setControl control)
  | .motor m, .forward speed => Steering.within m .motor (Motor.forward speed)
  | .motor m, .backward speed => Steering.within m .motor (Motor.backward speed)
  | .motor m, .stop => Steering.within m .motor Motor.stop
  | .train t, .forward speed => Steering.within t .train (DriveTrain.forward speed)
  | .train t, .backward speed => Steering.within t .train (DriveTrain.backward speed)
  | .train t, .clockwise speed => Steering.within t .train (DriveTrain.clockwise speed)
  | .train t, .counterclockwise speed =>
    Steering.within t .train (DriveTrain.counterclockwise speed)
  | .train t, .stop => Steering.within t .train DriveTrain.stop
  | .switch s, .openContact => OnDevice.beside (fun _ => .done) s.openContact
  | .switch s, .closeContact => OnDevice.beside (fun _ => .done) s.closeContact
  | .voltage s, .collect => OnDevice.beside .voltage s.collect
  | .distance s, .collect => OnDevice.beside .distance s.collect
  | _, _ => pure .done

end SerialEndpoint
