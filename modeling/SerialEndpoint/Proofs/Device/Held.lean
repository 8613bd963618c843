/-
What a motor holds as its control value. The two motors of a drive train
may be called directly or through the drive train, in any order, and any
call may fail on the way.

# The record

Every call that gets to a motor is put on record, with its control value and
whether it succeeded (`DriveTrain.record`). A directive gets to the motors
that it is for in order, up to the first that fails: with a drive train the
right motor is not reached if the left one has failed. `setAll` does what the
directive does and keeps the record beside it, and `carryOut_eq_setAll` says
that it is the same.

# The invariant

A motor takes the value before it makes its requests, so however the call
ends it holds that value from then on (`setControl_holds`), and the other
motor is as it was (`setControl_held`). It follows that each motor always
holds the value of the last call that got to it. `Held` says so of a motor
before and after some calls, and goes over concatenations, which is all that
the two inductions need: the one on the values of a directive and the one on
the directives.

# What was committed to

The value of the last call is the value of the last call that succeeded only
as long as the failed calls behind that one asked for the same
(`lastControl_succeeded`). This is about the record alone. That it can be
otherwise takes one failed call (`control_kept_of_failed_call`).
-/
import SerialEndpoint.Link.Rehearsal
import SerialEndpoint.Proofs.Device.Calls

namespace SerialEndpoint

-- ============================================================== motors

/-- A side of a drive train. -/
inductive Side where
  | left
  | right
deriving DecidableEq

/-- The motor on a side. -/
def DriveTrain.motor (train : DriveTrain) : Side → Motor
  | .left => train.left
  | .right => train.right

/-- A drive train with another motor on a side. -/
def DriveTrain.put (train : DriveTrain) (motor : Motor) : Side → DriveTrain
  | .left => { train with left := motor }
  | .right => { train with right := motor }

theorem motor_put_self (train : DriveTrain) (motor : Motor) (side : Side) :
    (train.put motor side).motor side = motor := by
  cases side <;> rfl

theorem motor_put_other (train : DriveTrain) (motor : Motor) {side other : Side}
    (h : other ≠ side) : (train.put motor side).motor other = train.motor other := by
  cases side <;> cases other <;> first | rfl | exact absurd rfl h

theorem put_motor (train : DriveTrain) (side : Side) :
    train.put (train.motor side) side = train := by
  cases side <;> rfl

-- ========================================================== directives

/-- A call on one motor of a drive train, or on the drive train. -/
inductive Directive where
  | one (side : Side) (call : Call)
  | both (call : Call)

variable {l : Type} [Link l]

/-- The device that a directive is for. -/
def Directive.device (directive : Directive) (train : DriveTrain) : Device :=
  match directive with
  | .one side _ => .motor (train.motor side)
  | .both _ => .train train

/-- The call of a directive. -/
def Directive.call : Directive → Call
  | .one _ call => call
  | .both call => call

/-- Carries out a directive, whether or not it succeeds. -/
def DriveTrain.carryOut (directive : Directive) (state : DriveTrain × l) : DriveTrain × l :=
  let device := directive.device state.1
  match directive, stateAfter (device.perform directive.call (device, state.2)) with
  | .one side _, (.motor motor, link) => (state.1.put motor side, link)
  | .both _, (.train train, link) => (train, link)
  | _, (_, link) => (state.1, link)

/-- Carries out some directives one after the other. -/
def DriveTrain.carryOutAll : List Directive → DriveTrain × l → DriveTrain × l
  | [], state => state
  | directive :: rest, state => carryOutAll rest (carryOut directive state)

-- ============================================================== record

/-- A call that got to a motor. -/
structure Attempt where
  side : Side
  control : Binary64
  /-- True if it succeeded. -/
  done : Bool
deriving DecidableEq

/-- The motors that a directive is for, in order, each with its control
value. -/
def Directive.asks : Directive → List (Side × Binary64)
  | .one side call => call.control?.toList.map fun control => (side, control)
  | .both call => call.controls?.toList.flatMap fun controls =>
    [(.left, controls.1), (.right, controls.2)]

/-- Sets control values in order, up to the first that fails, with a record
of it. -/
def DriveTrain.setAll : List (Side × Binary64) → DriveTrain × l → List Attempt × DriveTrain × l
  | [], state => ([], state)
  | (side, control) :: rest, (train, link) =>
    match Motor.setControl control (train.motor side, link) with
    | .ok () (motor, between) =>
      let (others, after) := setAll rest (train.put motor side, between)
      (⟨side, control, true⟩ :: others, after)
    | .error _ (motor, after) => ([⟨side, control, false⟩], train.put motor side, after)

/-- The calls that got to a motor while some directives were carried out. -/
def DriveTrain.record : List Directive → DriveTrain × l → List Attempt
  | [], _ => []
  | directive :: rest, state =>
    (setAll directive.asks state).1 ++ record rest (carryOut directive state)

/-- The control value of the last of some calls, taken between minus one
and one; without calls the value at the start. -/
def lastControl (start : Binary64) (attempts : List Attempt) : Binary64 :=
  match attempts.getLast? with
  | some attempt => attempt.control.clampUnit
  | none => start

theorem lastControl_append (start : Binary64) (attempts more : List Attempt) :
    lastControl start (attempts ++ more) = lastControl (lastControl start attempts) more := by
  unfold lastControl
  rw [List.getLast?_append]
  cases more.getLast? <;> rfl

/-- The calls on one motor. -/
def attemptsOn (side : Side) (attempts : List Attempt) : List Attempt :=
  attempts.filter fun attempt => attempt.side = side

/-- A directive is carried out by setting its control values, and it
succeeds if all calls that get to a motor do. -/
theorem carryOut_eq_setAll (directive : Directive) (train : DriveTrain) (link : l) :
    let device := directive.device train
    let (attempts, after) := DriveTrain.setAll directive.asks (train, link)
    DriveTrain.carryOut directive (train, link) = after
      ∧ ((∃ result after, device.perform directive.call (device, link) = .ok result after) ↔
          ∀ attempt ∈ attempts, attempt.done = true) := by
  cases directive with
  | one side call =>
      simp only [DriveTrain.carryOut, Directive.device, Directive.call, Directive.asks,
        perform_motor]
      cases call.control? with
      | none => exact ⟨congrArg (·, link) (put_motor train side), by simp [DriveTrain.setAll]⟩
      | some control =>
          simp only [Steering.within, Option.toList, List.map, DriveTrain.setAll]
          cases Motor.setControl control (train.motor side, link) with
          | error fault after => exact ⟨rfl, by simp⟩
          | ok done after => exact ⟨rfl, by simp⟩
  | both call =>
      simp only [DriveTrain.carryOut, Directive.device, Directive.call, Directive.asks,
        perform_train]
      cases call.controls? with
      | none => exact ⟨rfl, by simp [DriveTrain.setAll]⟩
      | some controls =>
          simp only [Steering.within, both_run, Option.toList, List.flatMap_cons, List.flatMap_nil,
            List.append_nil, DriveTrain.setAll, DriveTrain.motor]
          cases Motor.setControl controls.1 (train.left, link) with
          | error fault after => exact ⟨rfl, by simp⟩
          | ok done between =>
              simp only [DriveTrain.put]
              cases Motor.setControl controls.2 (train.right, between.2) with
              | error fault after => exact ⟨rfl, by simp⟩
              | ok done after => exact ⟨rfl, by simp⟩

-- ============================================================== values

/-- However setting a control value ends, the motor keeps its keymap and
holds the value. -/
theorem setControl_holds (control : Binary64) (motor : Motor) (link : l) :
    (stateAfter (Motor.setControl control (motor, link))).1
      = { motor with control := control.clampUnit } := by
  rw [setControl_run]
  cases (motor.script control.clampUnit).make link <;> rfl

/-- What the calls that got to a motor have made of it. -/
structure Held (before after : Motor) (attempts : List Attempt) : Prop where
  keymap : after.keymap = before.keymap
  control : after.control = lastControl before.control attempts

theorem Held.append {before between after : Motor} {attempts more : List Attempt}
    (h : Held before between attempts) (h' : Held between after more) :
    Held before after (attempts ++ more) where
  keymap := h'.keymap.trans h.keymap
  control := by rw [lastControl_append, ← h.control, h'.control]

/-- One motor of a drive train is set: it holds the value, and the other
motor is as it was. -/
theorem setControl_held {control : Binary64} {train : DriveTrain} {link : l} {side : Side}
    {motor : Motor}
    (hset : (stateAfter (Motor.setControl control (train.motor side, link))).1 = motor)
    (done : Bool) (other : Side) :
    Held (train.motor other) ((train.put motor side).motor other)
      (attemptsOn other [⟨side, control, done⟩]) := by
  rw [setControl_holds] at hset
  subst hset
  by_cases hother : other = side
  · subst hother
    rw [motor_put_self, show attemptsOn other [⟨other, control, done⟩] = [⟨other, control, done⟩] by
      simp [attemptsOn]]
    exact ⟨rfl, rfl⟩
  · rw [motor_put_other _ _ hother, show attemptsOn other [⟨side, control, done⟩] = [] by
      simp [attemptsOn, Ne.symm hother]]
    exact ⟨rfl, rfl⟩

theorem setAll_held (asks : List (Side × Binary64)) (other : Side) :
    ∀ state : DriveTrain × l, Held (state.1.motor other)
      ((DriveTrain.setAll asks state).2.1.motor other)
      (attemptsOn other (DriveTrain.setAll asks state).1) := by
  induction asks with
  | nil => exact fun _ => ⟨rfl, rfl⟩
  | cons ask rest ih =>
      rintro ⟨train, link⟩
      obtain ⟨side, control⟩ := ask
      unfold DriveTrain.setAll
      simp only
      cases hrun : Motor.setControl control (train.motor side, link) with
      | error fault after =>
          exact setControl_held (by rw [hrun]; rfl) false other
      | ok done between =>
          have hset : (stateAfter (Motor.setControl control (train.motor side, link))).1
              = between.1 := by
            rw [hrun]
            rfl
          have hfirst := setControl_held hset true other
          have hall := hfirst.append (ih (train.put between.1 side, between.2))
          rw [attemptsOn, attemptsOn, ← List.filter_append] at hall
          exact hall

/-- After some directives, each motor holds the control value of the last
call that got to it. -/
theorem carryOutAll_held (directives : List Directive) (side : Side) :
    ∀ state : DriveTrain × l, Held (state.1.motor side)
      ((DriveTrain.carryOutAll directives state).1.motor side)
      (attemptsOn side (DriveTrain.record directives state)) := by
  induction directives with
  | nil => exact fun _ => ⟨rfl, rfl⟩
  | cons directive rest ih =>
      intro state
      have hfirst := setAll_held directive.asks side state
      rw [← (carryOut_eq_setAll directive state.1 state.2).1] at hfirst
      unfold DriveTrain.carryOutAll DriveTrain.record
      rw [attemptsOn, List.filter_append]
      exact hfirst.append (ih (DriveTrain.carryOut directive state))

/-- The calls that succeeded. -/
def succeeded (attempts : List Attempt) : List Attempt :=
  attempts.filter Attempt.done

/-- The last of some calls asked for the value of the last that succeeded,
unless it failed and asked for another one. -/
theorem lastControl_succeeded (start : Binary64) (attempts : List Attempt) :
    lastControl start attempts = lastControl start (succeeded attempts) ↔
      ∀ attempt, attempts.getLast? = some attempt → attempt.done = false →
        attempt.control.clampUnit = lastControl start (succeeded attempts) := by
  cases hlast : attempts.getLast? with
  | none =>
      obtain rfl := List.getLast?_eq_none_iff.1 hlast
      exact ⟨fun _ _ h => (by cases h), fun _ => rfl⟩
  | some last =>
      have hvalue : lastControl start attempts = last.control.clampUnit := by
        unfold lastControl
        rw [hlast]
      rw [hvalue]
      cases hdone : last.done with
      | false =>
          refine ⟨fun heq attempt h _ => ?_, fun h => h last rfl hdone⟩
          rw [← Option.some_inj.1 h, heq]
      | true =>
          -- The last call is also the last that succeeded.
          obtain ⟨front, rfl⟩ := List.getLast?_eq_some_iff.1 hlast
          have hcommitted : succeeded (front ++ [last]) = succeeded front ++ [last] := by
            simp [succeeded, List.filter_append, hdone]
          rw [hcommitted, lastControl_append]
          refine ⟨fun _ attempt h hfailed => ?_, fun _ => rfl⟩
          rw [← Option.some_inj.1 h, hdone] at hfailed
          cases hfailed

-- ========================================================= the theorem

/-- What a motor holds after any calls, on it or on its drive train, over a
link that may fail whenever it likes: the control value of the last call
that got to it, taken between minus one and one. It is the value of the
last call that succeeded unless a later one failed that asked for another
value. -/
theorem control_last_asked (directives : List Directive) (train : DriveTrain) (link : l)
    (side : Side) :
    let before := train.motor side
    let after := (DriveTrain.carryOutAll directives (train, link)).1.motor side
    let calls := attemptsOn side (DriveTrain.record directives (train, link))
    let committed := lastControl before.control (succeeded calls)
    after.keymap = before.keymap ∧ after.control = lastControl before.control calls
      ∧ (after.control = committed ↔ ∀ call, calls.getLast? = some call → call.done = false →
          call.control.clampUnit = committed) := by
  intro before after calls committed
  have hheld : Held before after calls := carryOutAll_held directives side (train, link)
  refine ⟨hheld.keymap, hheld.control, ?_⟩
  rw [hheld.control]
  exact lastControl_succeeded before.control calls

/-- A motor that holds a value it never committed to: half speed was asked
for, and the first send failed. -/
theorem control_kept_of_failed_call :
    let motor : Motor := { keymap := .ofEntries [("BACKWARDS", "MOTOR_BACKWARD M1"),
      ("BRAKE", "MOTOR_BRAKE_HOLD M1"), ("FORWARDS", "MOTOR_FORWARD M1"),
      ("RELEASE", "MOTOR_BRAKE_RELEASE M1"), ("SPEED", "MOTOR_SPEED M1")] }
    let half : Binary64 := .div (.ofNat 1) (.ofNat 2)
    let directives : List Directive := [.one .left (.setControl half)]
    let start : DriveTrain × Rehearsal := (⟨motor, motor⟩, { failing := [1] })
    let after := DriveTrain.carryOutAll directives start
    let calls := attemptsOn .left (DriveTrain.record directives start)
    motor.control = .zero ∧ after.2.sent = [] ∧ succeeded calls = []
      ∧ after.1.left.control = half ∧ half ≠ lastControl .zero (succeeded calls) := by
  decide +kernel

end SerialEndpoint
