/-
Calls of devices, by what they ask of the motors and of the link. Every
call on a motor or a drive train sets control values, of the left motor
first (`Device.asks`).

# Calls are scripts

Every call but that of a sensor is one script for the link. A drive train
sets its motors one after the other, the right one only if the left one has
been set (`both_run`), and so does a script that is put together from two
(`make_append_run`); `perform_script` therefore has one case for each kind of
device. The device that the call leaves behind is left open: only the link is
compared.

# Scripts are lines

Making a script is sending its lines, one by one, up to the first fault of
either kind (`make_eq_sendAll`). There are two kinds because a script is
made before anything is sent: a key that is missing stands in it as a fault
of its own, in the place of the request. The lines up to that place
(`Script.lines`) are sent, and if the link fails none of them, the call fails
with the fault in the script. A request of two lines is two sends on every
link of interest (`SendsPairs`).
-/
import SerialEndpoint.Device
import SerialEndpoint.Proofs.Link.Operations

namespace SerialEndpoint

variable {l : Type} [Link l]

-- =============================================================== calls

/-- Carries out some calls one after the other, whether or not they
succeed. -/
def Device.performAll : List Call → Device × l → Device × l
  | [], state => state
  | call :: rest, state => performAll rest (stateAfter (state.1.perform call state))

/-- True if some calls, carried out one after the other, all succeed. -/
def Device.Obeyed : List Call → Device × l → Prop
  | [], _ => True
  | call :: rest, state =>
    (∃ result after, state.1.perform call state = .ok result after)
      ∧ Obeyed rest (stateAfter (state.1.perform call state))

/-- The control value that a call sets, if it sets one. -/
def Call.control? : Call → Option Binary64
  | .setControl control => some control
  | .forward speed => some speed.abs
  | .backward speed => some speed.abs.neg
  | .stop => some .zero
  | _ => none

/-- The control values that a call sets on a drive train, left and right, if
it sets any. -/
def Call.controls? : Call → Option (Binary64 × Binary64)
  | .forward speed => some (speed.abs, speed.abs)
  | .backward speed => some (speed.abs.neg, speed.abs.neg)
  | .clockwise speed => some (speed.abs, speed.abs.neg)
  | .counterclockwise speed => some (speed.abs.neg, speed.abs)
  | .stop => some (.zero, .zero)
  | _ => none

theorem perform_motor (call : Call) (motor : Motor) (link : l) :
    Device.perform (.motor motor) call (.motor motor, link) = match call.control? with
      | some control => Steering.within motor .motor (Motor.setControl control) (.motor motor, link)
      | none => .ok .done (.motor motor, link) := by
  cases call <;> rfl

theorem perform_train (call : Call) (train : DriveTrain) (link : l) :
    Device.perform (.train train) call (.train train, link) = match call.controls? with
      | some (left, right) =>
        Steering.within train .train
          (DriveTrain.both (Motor.setControl left) (Motor.setControl right)) (.train train, link)
      | none => .ok .done (.train train, link) := by
  cases call <;> rfl

-- ============================================================= setting

/-- Setting a control value is remembering it and making its requests. -/
theorem setControl_run (control : Binary64) (motor : Motor) (link : l) :
    Motor.setControl control (motor, link) =
      match (motor.script control.clampUnit).make link with
      | .ok () after => .ok () ({ motor with control := control.clampUnit }, after)
      | .error fault after => .error fault ({ motor with control := control.clampUnit }, after) :=
  rfl

/-- Two motors are set one after the other, the right one only if the left
one has been. -/
theorem both_run (left right : Binary64) (train : DriveTrain) (link : l) :
    DriveTrain.both (Motor.setControl left) (Motor.setControl right) (train, link) =
      match Motor.setControl left (train.left, link) with
      | .error fault (motor, after) => .error fault ({ train with left := motor }, after)
      | .ok () (motor, between) =>
        match Motor.setControl right (train.right, between) with
        | .error fault (other, after) => .error fault (⟨motor, other⟩, after)
        | .ok () (other, after) => .ok () (⟨motor, other⟩, after) := by
  unfold DriveTrain.both
  rw [bind_run]
  unfold DriveTrain.onLeft DriveTrain.onRight
  simp only
  cases Motor.setControl left (train.left, link) with
  | error fault state => rfl
  | ok done state =>
      simp only
      cases Motor.setControl right (train.right, state.2) <;> rfl

-- ============================================================= scripts

/-- The motors that a call drives, in order, each with its control
value. -/
def Device.asks (device : Device) (call : Call) : List (Motor × Binary64) :=
  match device with
  | .motor m => call.control?.toList.map fun control => (m, control)
  | .train t => call.controls?.toList.flatMap fun controls =>
    [(t.left, controls.1), (t.right, controls.2)]
  | _ => []

/-- The requests for some motors with control values. -/
def drivingScript (asks : List (Motor × Binary64)) : Script :=
  asks.flatMap fun ask => ask.1.script ask.2.clampUnit

/-- The requests of a call that drives or switches. -/
def Device.script (device : Device) (call : Call) : Script :=
  match device, call with
  | .switch s, .openContact => [s.keymap.request .openContact]
  | .switch s, .closeContact => [s.keymap.request .closeContact]
  | _, _ => drivingScript (device.asks call)

theorem script_motor (motor : Motor) (call : Call) :
    (Device.motor motor).script call = match call.control? with
      | some control => motor.script control.clampUnit
      | none => [] := by
  show drivingScript (call.control?.toList.map fun control => (motor, control)) = _
  cases call.control? with
  | none => rfl
  | some control => exact List.append_nil _

theorem script_train (train : DriveTrain) (call : Call) :
    (Device.train train).script call = match call.controls? with
      | some (left, right) =>
        train.left.script left.clampUnit ++ train.right.script right.clampUnit
      | none => [] := by
  show drivingScript (call.controls?.toList.flatMap fun controls =>
    [(train.left, controls.1), (train.right, controls.2)]) = _
  cases call.controls? with
  | none => rfl
  | some controls =>
      exact congrArg (train.left.script controls.1.clampUnit ++ ·) (List.append_nil _)

theorem make_cons_run (request : Request) (rest : Script) (link : l) :
    Script.make (.ok request :: rest) link = match request.make link with
      | .ok () between => rest.make between
      | .error fault after => .error fault after := by
  show (request.make >>= fun _ => rest.make) link = _
  rw [bind_run]
  cases request.make link <;> rfl

theorem make_append_run (script more : Script) (link : l) :
    Script.make (script ++ more) link = match script.make link with
      | .ok () between => more.make between
      | .error fault after => .error fault after := by
  induction script generalizing link with
  | nil => rfl
  | cons entry rest ih =>
      cases entry with
      | error fault => rfl
      | ok request =>
          rw [List.cons_append, make_cons_run, make_cons_run]
          cases request.make link with
          | error fault after => rfl
          | ok done between => exact ih between

/-- A call that drives or switches makes its script, and fails as the
script does. -/
theorem perform_script (device : Device) {call : Call} (hcall : call ≠ .collect) (link : l) :
    ∃ device', device.perform call (device, link) = match (device.script call).make link with
      | .ok () after => .ok .done (device', after)
      | .error fault after => .error fault (device', after) := by
  cases device with
  | motor motor =>
      rw [perform_motor, script_motor]
      cases call.control? with
      | none => exact ⟨_, rfl⟩
      | some control =>
          refine ⟨.motor { motor with control := control.clampUnit }, ?_⟩
          unfold Steering.within
          simp only [setControl_run]
          cases (motor.script control.clampUnit).make link <;> rfl
  | train train =>
      rw [perform_train, script_train]
      cases call.controls? with
      | none => exact ⟨_, rfl⟩
      | some controls =>
          obtain ⟨left, right⟩ := controls
          unfold Steering.within
          simp only [both_run, setControl_run, make_append_run]
          -- the right motor has its turn only if the left one succeeds
          cases (train.left.script left.clampUnit).make link with
          | error fault after => exact ⟨_, rfl⟩
          | ok done between =>
              simp only
              cases (train.right.script right.clampUnit).make between <;> exact ⟨_, rfl⟩
  | switch switch =>
      refine ⟨.switch switch, ?_⟩
      cases call with
      | openContact =>
          unfold Device.perform OnDevice.beside Switch.openContact Device.script
          simp only
          cases Script.make [switch.keymap.request .openContact] link <;> rfl
      | closeContact =>
          unfold Device.perform OnDevice.beside Switch.closeContact Device.script
          simp only
          cases Script.make [switch.keymap.request .closeContact] link <;> rfl
      | _ => rfl
  | voltage sensor =>
      refine ⟨.voltage sensor, ?_⟩
      cases call with
      | collect => exact absurd rfl hcall
      | _ => rfl
  | distance sensor =>
      refine ⟨.distance sensor, ?_⟩
      cases call with
      | collect => exact absurd rfl hcall
      | _ => rfl

-- =============================================================== lines

/-- The lines of a script, up to its first fault. -/
def Script.lines : Script → List String
  | .ok request :: rest => request.lines ++ lines rest
  | _ => []

/-- The first fault of a script. -/
def Script.fault? : Script → Option DeviceFault
  | [] => none
  | .error fault :: _ => some fault
  | .ok _ :: rest => fault? rest

theorem lines_append (script more : Script) :
    Script.lines (script ++ more)
      = script.lines ++ if script.fault? = none then more.lines else [] := by
  induction script with
  | nil => rfl
  | cons entry rest ih =>
      cases entry with
      | error fault => rfl
      | ok request =>
          show request.lines ++ Script.lines (rest ++ more)
            = request.lines ++ Script.lines rest ++ _
          rw [ih, List.append_assoc]
          rfl

/-- Sends some lines in order, up to the first that fails. -/
def sendAll : List String → OnLink l Unit
  | [] => pure ()
  | line :: rest => do
    Link.send line
    sendAll rest

/-- A kind of link on which two lines in a row are two sends. -/
def SendsPairs (l : Type) [Link l] : Prop :=
  ∀ first second, (Link.sendThen first (.send second) : OnLink l (Option String)) = do
    Link.send first
    Link.send second
    pure none

theorem sendAll_cons_run (line : String) (rest : List String) (link : l) :
    sendAll (line :: rest) link = match Link.send line link with
      | .ok () between => sendAll rest between
      | .error fault after => .error fault after := by
  show (Link.send line >>= fun _ => sendAll rest) link = _
  rw [bind_run]
  cases Link.send line link <;> rfl

theorem sendAll_single_run (line : String) (link : l) :
    sendAll [line] link = Link.send line link := by
  rw [sendAll_cons_run]
  cases Link.send line link <;> rfl

theorem sendAll_append_run (lines more : List String) (link : l) :
    sendAll (lines ++ more) link = match sendAll lines link with
      | .ok () between => sendAll more between
      | .error fault after => .error fault after := by
  induction lines generalizing link with
  | nil => rfl
  | cons line rest ih =>
      rw [List.cons_append, sendAll_cons_run, sendAll_cons_run]
      cases Link.send line link with
      | error fault after => rfl
      | ok done between => exact ih between

theorem make_pair_run (first second : String) (link : l) :
    (Request.pair first second).make link = match Link.sendThen first (.send second) link with
      | .ok _ after => .ok () after
      | .error fault after => .error (.link fault) after := by
  show (OnLink.toDevice (Link.sendThen first (.send second)) >>= fun _ => pure ()) link = _
  rw [bind_run]
  unfold OnLink.toDevice
  cases Link.sendThen first (.send second) link <;> rfl

theorem request_eq_sendAll (hpairs : SendsPairs l) (request : Request) (link : l) :
    request.make link = match sendAll request.lines link with
      | .ok () after => .ok () after
      | .error fault after => .error (.link fault) after := by
  cases request with
  | single line =>
      rw [show (Request.single line).lines = [line] from rfl, sendAll_single_run]
      show OnLink.toDevice (Link.send line) link = _
      unfold OnLink.toDevice
      cases Link.send line link <;> rfl
  | pair first second =>
      rw [show (Request.pair first second).lines = [first, second] from rfl, make_pair_run, hpairs,
        bind_run, sendAll_cons_run]
      cases Link.send first link with
      | error fault after => rfl
      | ok done between =>
          simp only [bind_run, sendAll_single_run]
          cases Link.send second between <;> rfl

/-- Making a script is sending its lines; if none of them fails, it fails
with its own first fault. -/
theorem make_eq_sendAll (hpairs : SendsPairs l) (script : Script) (link : l) :
    script.make link = match sendAll script.lines link with
      | .error fault after => .error (.link fault) after
      | .ok () after => match script.fault? with
        | some fault => .error fault after
        | none => .ok () after := by
  induction script generalizing link with
  | nil => rfl
  | cons entry rest ih =>
      cases entry with
      | error fault => rfl
      | ok request =>
          rw [make_cons_run, request_eq_sendAll hpairs]
          show _ = match sendAll (request.lines ++ Script.lines rest) link with
            | .error fault after => _
            | .ok () after => _
          rw [sendAll_append_run]
          cases sendAll request.lines link with
          | error fault after => rfl
          | ok done between => exact ih between

end SerialEndpoint
