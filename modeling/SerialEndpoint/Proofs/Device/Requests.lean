/-
What the requests of a device do on a board at rest.

# Requests that the board knows

A device reads its requests off its keymap, and the keymap was made from the
commands of its component. So each request is one that the board knows
(`Request.Known`): the line of a command that writes a pin, or the line of a
command for a duty and then the duty. At rest the board makes of the first
that its pin has the level, and of the second that its pin has the duty
(`heed_write`, `heed_duty`). In both cases it is at rest again
(`heed_atRest`), which is why requests can be taken one after the other.

# The script of a motor

`Assignment.IsMotor` gives a motor by its pins, and with them its commands
are a list that can be looked through. For each optional pin there is a part
of the script, which is empty if there is no such pin: the keymap then has no
line for it, and the motor does not ask for one (`speedScript_eq`,
`directionScript_eq`). The part for the brake is always there.

The effect is put together part by part (`heedAll_speed`, `heedAll_turn`,
`heedAll_motor`). Each part changes a pin of its own and adds its lines to
those dispatched; the count is kept apart as `Board.counting`, which passes
through all other changes, so that the parts can be compared pin by pin.
-/
import SerialEndpoint.Device
import SerialEndpoint.Proofs.Device.Duty

namespace SerialEndpoint

-- ============================================================ requests

/-- A board after the lines of a request. -/
def Board.heed (board : Board) (request : Request) : Board :=
  request.lines.foldl Board.hear board

/-- A board after the lines of some requests. -/
def Board.heedAll (board : Board) (requests : List Request) : Board :=
  requests.foldl Board.heed board

theorem heedAll_append (board : Board) (requests more : List Request) :
    board.heedAll (requests ++ more) = (board.heedAll requests).heedAll more :=
  List.foldl_append

/-- How many lines some requests have. -/
def lineCount (requests : List Request) : Nat := (requests.flatMap Request.lines).length

theorem lineCount_append (requests more : List Request) :
    lineCount (requests ++ more) = lineCount requests + lineCount more := by
  unfold lineCount
  rw [List.flatMap_append, List.length_append]

/-- The requests that a board of some circuit knows. -/
inductive Request.Known (circuit : Circuit) (assignments : List Assignment) : Request → Prop where
  | write {a : Assignment} {command : Command} {pin : Pin} {level : Level}
      (ha : a ∈ assignments) (hc : command ∈ a.commands)
      (haction : command.action = .write pin level)
      (hfits : command.line.length ≤ circuit.capacity) :
      Known circuit assignments (.single command.line)
  | duty {a : Assignment} {command : Command} {pwm : Pin} (n : Nat)
      (ha : a ∈ assignments) (hc : command ∈ a.commands)
      (haction : command.action = .awaitSpeed pwm)
      (hfits : command.line.length ≤ circuit.capacity) :
      Known circuit assignments (.pair command.line (toString n))

-- ================================================================ pins

/-- A board with a level written to a pin, if there is one. -/
def Board.withLevel (board : Board) (pin? : Option Pin) (level : Level) : Board :=
  match pin? with
  | some pin => { board with levels := overlay board.levels pin.number (some level) }
  | none => board

/-- A board with a duty written to a pin, if there is one. -/
def Board.withDuty (board : Board) (pin? : Option Pin) (duty : UInt8) : Board :=
  match pin? with
  | some pin => { board with duties := overlay board.duties pin.number (some duty) }
  | none => board

/-- A board that has dispatched some more lines. -/
def Board.counting (board : Board) (lines : Nat) : Board :=
  { board with dispatched := board.dispatched + lines }

section Boards

variable {circuit : Circuit} {board : Board}

theorem Board.AtRest.withLevel (h : board.AtRest circuit) (pin? : Option Pin) (level : Level) :
    (board.withLevel pin? level).AtRest circuit := by
  cases pin? with
  | none => exact h
  | some pin => exact ⟨h.pending, h.slots, h.circuit⟩

theorem Board.AtRest.withDuty (h : board.AtRest circuit) (pin? : Option Pin) (duty : UInt8) :
    (board.withDuty pin? duty).AtRest circuit := by
  cases pin? with
  | none => exact h
  | some pin => exact ⟨h.pending, h.slots, h.circuit⟩

theorem Board.AtRest.counting (h : board.AtRest circuit) (lines : Nat) :
    (board.counting lines).AtRest circuit :=
  ⟨h.pending, h.slots, h.circuit⟩

theorem counting_counting (lines more : Nat) :
    (board.counting lines).counting more = board.counting (lines + more) := by
  unfold Board.counting
  rw [Nat.add_assoc]

theorem withLevel_counting (pin? : Option Pin) (level : Level) (lines : Nat) :
    (board.counting lines).withLevel pin? level = (board.withLevel pin? level).counting lines := by
  cases pin? <;> rfl

end Boards

-- ============================================================== motors

/-- A motor among the components, by its pins. -/
structure Assignment.IsMotor (a : Assignment) (pwm direction : Option Pin) (brake : Pin) :
    Prop where
  kind : a.kind = .motor pwm.isSome direction.isSome
  wiring : a.wiring = .motor pwm direction brake

theorem isMotor_of_kind {a : Assignment} (hf : Wiring.Fits a.kind a.wiring) {p d : Bool}
    (hkind : a.kind = .motor p d) :
    ∃ pwm direction brake, a.IsMotor pwm direction brake := by
  rw [hkind] at hf
  generalize hwiring : a.wiring = wiring at hf
  cases hf with
  | motor pwm direction brake =>
      exact ⟨_, _, _, by rw [hkind, Option.isSome_map, Option.isSome_map], hwiring⟩

namespace Assignment.IsMotor

variable {a : Assignment} {pwm direction : Option Pin} {brake : Pin}

theorem commands (h : a.IsMotor pwm direction brake) :
    a.commands
      = (direction.toList.flatMap fun pin =>
          [⟨a.name, .forwards, .motorForward, .write pin .high⟩,
           ⟨a.name, .backwards, .motorBackward, .write pin .low⟩])
        ++ (pwm.toList.map fun pin => ⟨a.name, .speed, .motorSpeed, .awaitSpeed pin⟩)
        ++ [⟨a.name, .brake, .motorBrakeHold, .write brake .high⟩,
            ⟨a.name, .release, .motorBrakeRelease, .write brake .low⟩] := by
  unfold Assignment.commands
  rw [h.kind, h.wiring]

theorem pins (h : a.IsMotor pwm direction brake) :
    a.pin? .pwm = pwm ∧ a.pin? .direction = direction ∧ a.pin? .brake = some brake := by
  unfold Assignment.pin? Assignment.roles
  rw [h.wiring]
  cases pwm <;> cases direction <;> exact ⟨rfl, rfl, rfl⟩

/-- The command that holds the brake. -/
def hold (a : Assignment) (brake : Pin) : Command :=
  ⟨a.name, .brake, .motorBrakeHold, .write brake .high⟩

/-- The command that releases the brake. -/
def release (a : Assignment) (brake : Pin) : Command :=
  ⟨a.name, .release, .motorBrakeRelease, .write brake .low⟩

/-- The command for a direction. -/
def turn (a : Assignment) (pin : Pin) (ahead : Bool) : Command :=
  if ahead then ⟨a.name, .forwards, .motorForward, .write pin .high⟩
  else ⟨a.name, .backwards, .motorBackward, .write pin .low⟩

/-- The command for a duty. -/
def speed (a : Assignment) (pin : Pin) : Command :=
  ⟨a.name, .speed, .motorSpeed, .awaitSpeed pin⟩

theorem hold_mem (h : a.IsMotor pwm direction brake) : hold a brake ∈ a.commands := by
  rw [h.commands]
  exact List.mem_append_right _ (List.mem_cons_self ..)

theorem release_mem (h : a.IsMotor pwm direction brake) : release a brake ∈ a.commands := by
  rw [h.commands]
  exact List.mem_append_right _ (List.mem_cons_of_mem _ (List.mem_cons_self ..))

theorem turn_mem {pin : Pin} (h : a.IsMotor pwm (some pin) brake) (ahead : Bool) :
    turn a pin ahead ∈ a.commands := by
  rw [h.commands]
  refine List.mem_append_left _ (List.mem_append_left _ ?_)
  cases ahead with
  | true => exact List.mem_cons_self ..
  | false => exact List.mem_cons_of_mem _ (List.mem_cons_self ..)

theorem speed_mem {pin : Pin} (h : a.IsMotor (some pin) direction brake) :
    speed a pin ∈ a.commands := by
  rw [h.commands]
  exact List.mem_append_left _ (List.mem_append_right _ (List.mem_singleton_self _))

theorem get?_speed_none (h : a.IsMotor none direction brake) :
    (Keymap.ofCommands a.commands).get? .speed = none := by
  refine get?_ofCommands_eq_none ?_
  rw [h.commands]
  cases direction <;> simp

theorem get?_turn_none (h : a.IsMotor pwm none brake) :
    (Keymap.ofCommands a.commands).get? .forwards = none := by
  refine get?_ofCommands_eq_none ?_
  rw [h.commands]
  cases pwm <;> simp

end Assignment.IsMotor

-- ============================================================== scripts

open Assignment.IsMotor

theorem request_of_mem {a : Assignment} {command : Command} (hc : command ∈ a.commands) :
    (Keymap.ofCommands a.commands).request command.operation = .ok (.single command.line) := by
  unfold Keymap.request Keymap.line
  rw [get?_ofCommands hc]
  rfl

/-- The requests for a duty that a motor makes. -/
def speedRequests (a : Assignment) (pwm : Option Pin) (control : Binary64) : List Request :=
  pwm.toList.map fun pin => .pair (speed a pin).line (toString (dutyFor control))

/-- The requests for a direction that a motor makes. -/
def turnRequests (a : Assignment) (direction : Option Pin) (control : Binary64) : List Request :=
  direction.toList.map fun pin => .single (turn a pin control.isPositive).line

/-- The requests that a motor makes for a control value. -/
def motorRequests (a : Assignment) (pwm direction : Option Pin) (brake : Pin)
    (control : Binary64) : List Request :=
  if control.isZero then [.single (hold a brake).line]
  else speedRequests a pwm control ++ turnRequests a direction control
    ++ [.single (release a brake).line]

section Scripts

variable {a : Assignment} {pwm direction : Option Pin} {brake : Pin} {motor : Motor}

theorem speedScript_eq (h : a.IsMotor pwm direction brake)
    (hkeymap : motor.keymap = Keymap.ofCommands a.commands) (control : Binary64) :
    motor.speedScript control = (speedRequests a pwm control).map .ok := by
  unfold Motor.speedScript
  rw [hkeymap]
  cases pwm with
  | none =>
      rw [h.get?_speed_none]
      rfl
  | some pin =>
      rw [show Operation.speed = (speed a pin).operation from rfl, get?_ofCommands h.speed_mem]
      rfl

theorem directionScript_eq (h : a.IsMotor pwm direction brake)
    (hkeymap : motor.keymap = Keymap.ofCommands a.commands) (control : Binary64) :
    motor.directionScript control = (turnRequests a direction control).map .ok := by
  unfold Motor.directionScript Motor.hasDirection
  rw [hkeymap]
  cases direction with
  | none =>
      rw [h.get?_turn_none]
      rfl
  | some pin =>
      have hforwards := get?_ofCommands (h.turn_mem true)
      have hbackwards := get?_ofCommands (h.turn_mem false)
      change (Keymap.ofCommands a.commands).get? .forwards = _ at hforwards
      change (Keymap.ofCommands a.commands).get? .backwards = _ at hbackwards
      rw [hforwards, hbackwards]
      simp only [Option.isSome_some, Bool.and_self, if_true]
      have hrequest := request_of_mem (h.turn_mem control.isPositive)
      unfold turnRequests
      -- the two directions differ in the command only
      cases hpositive : control.isPositive
      all_goals
        rw [hpositive] at hrequest
        exact congrArg (fun r => [r]) hrequest

/-- A motor with the keymap of its component asks for nothing that the
keymap does not have. -/
theorem script_eq (h : a.IsMotor pwm direction brake)
    (hkeymap : motor.keymap = Keymap.ofCommands a.commands) (control : Binary64) :
    motor.script control = (motorRequests a pwm direction brake control).map .ok := by
  unfold Motor.script motorRequests
  by_cases hzero : control.isZero = true
  · rw [if_pos hzero, if_pos hzero, hkeymap]
    exact congrArg (fun r => [r]) (request_of_mem h.hold_mem)
  · rw [if_neg hzero, if_neg hzero, speedScript_eq h hkeymap, directionScript_eq h hkeymap,
      hkeymap, List.map_append, List.map_append]
    exact congrArg (fun r => _ ++ [r]) (request_of_mem h.release_mem)

end Scripts

-- =============================================================== effects

section Effects

variable {circuit : Circuit} {assignments : List Assignment} {board : Board}
  (hs : Served assignments) (hseparate : Separate (speedPins assignments))
  (hcommands : circuit.commands = commandTable assignments)

include hs hcommands in
theorem heed_write (hrest : board.AtRest circuit) {a : Assignment} (ha : a ∈ assignments)
    {command : Command} (hc : command ∈ a.commands)
    (hfits : command.line.length ≤ circuit.capacity) {pin : Pin} {level : Level}
    (haction : command.action = .write pin level) :
    board.heed (.single command.line) = (board.withLevel (some pin) level).counting 1 :=
  (hear_write hs hcommands hrest (List.mem_flatMap.2 ⟨a, ha, hc⟩) hfits haction).1

include hs hseparate hcommands in
theorem heed_duty (hrest : board.AtRest circuit) {a : Assignment} (ha : a ∈ assignments)
    {command : Command} (hc : command ∈ a.commands)
    (hfits : command.line.length ≤ circuit.capacity) {pwm : Pin}
    (haction : command.action = .awaitSpeed pwm) (message : String) :
    board.heed (.pair command.line message)
      = (board.withDuty (some pwm) (dutyOfLine (keptOf circuit.capacity message))).counting 2 :=
  (hear_duty hs hseparate hcommands hrest ha hc hfits haction message).1

include hs hseparate hcommands in
/-- A request that the board knows leaves it at rest. -/
theorem heed_atRest (hrest : board.AtRest circuit) {request : Request}
    (hknown : request.Known circuit assignments) : (board.heed request).AtRest circuit := by
  cases hknown with
  | write ha hc haction hfits =>
      rw [heed_write hs hcommands hrest ha hc hfits haction]
      exact (hrest.withLevel _ _).counting 1
  | duty n ha hc haction hfits =>
      rw [heed_duty hs hseparate hcommands hrest ha hc hfits haction]
      exact (hrest.withDuty _ _).counting 2

include hs hseparate hcommands in
theorem heedAll_atRest {requests : List Request}
    (hknown : ∀ request ∈ requests, request.Known circuit assignments) :
    ∀ {board : Board}, board.AtRest circuit → (board.heedAll requests).AtRest circuit := by
  induction requests with
  | nil => exact fun h => h
  | cons request rest ih =>
      intro board hrest
      exact ih (fun r hr => hknown r (List.mem_cons_of_mem _ hr))
        (heed_atRest hs hseparate hcommands hrest (hknown request (List.mem_cons_self ..)))

variable {a : Assignment} (ha : a ∈ assignments)
  (hfits : ∀ command ∈ a.commands, command.line.length ≤ circuit.capacity)
  {pwm direction : Option Pin} {brake : Pin} (h : a.IsMotor pwm direction brake)

include ha hfits h in
/-- The board knows every request that a motor with its keymap makes. -/
theorem motorRequests_known (control : Binary64) :
    ∀ request ∈ motorRequests a pwm direction brake control,
      request.Known circuit assignments := by
  intro request hmem
  unfold motorRequests at hmem
  split at hmem
  · rw [List.mem_singleton.1 hmem]
    exact .write ha h.hold_mem rfl (hfits _ h.hold_mem)
  · rw [List.mem_append, List.mem_append] at hmem
    rcases hmem with (hmem | hmem) | hmem
    · obtain ⟨pin, hpin, rfl⟩ := List.mem_map.1 hmem
      obtain rfl := Option.mem_toList.1 hpin
      exact .duty _ ha h.speed_mem rfl (hfits _ h.speed_mem)
    · obtain ⟨pin, hpin, rfl⟩ := List.mem_map.1 hmem
      obtain rfl := Option.mem_toList.1 hpin
      have hturn := h.turn_mem control.isPositive
      cases hpositive : control.isPositive with
      | true =>
          rw [hpositive] at hturn
          exact .write ha hturn rfl (hfits _ hturn)
      | false =>
          rw [hpositive] at hturn
          exact .write ha hturn rfl (hfits _ hturn)
    · rw [List.mem_singleton.1 hmem]
      exact .write ha h.release_mem rfl (hfits _ h.release_mem)

include hs hseparate hcommands ha hfits h in
theorem heedAll_speed (hrest : board.AtRest circuit) (control : Binary64) :
    board.heedAll (speedRequests a pwm control)
      = (board.withDuty pwm (UInt8.ofNat (dutyFor control))).counting
          (lineCount (speedRequests a pwm control)) := by
  cases pwm with
  | none => rfl
  | some pin =>
      have hroom : 3 ≤ circuit.capacity := by
        have hword : 3 ≤ (speed a pin).opcode.word.length := by
          show 3 ≤ Opcode.motorSpeed.word.length
          decide
        refine Nat.le_trans ?_ (hfits _ h.speed_mem)
        unfold Command.line
        rw [String.length_append, String.length_append]
        omega
      show board.heed (.pair (speed a pin).line (toString (dutyFor control))) = _
      rw [heed_duty hs hseparate hcommands hrest ha h.speed_mem (hfits _ h.speed_mem) rfl,
        dutyOfLine_keptOf hroom (dutyFor_le control)]
      rfl

include hs hcommands ha hfits h in
theorem heedAll_turn (hrest : board.AtRest circuit) (control : Binary64) :
    board.heedAll (turnRequests a direction control)
      = (board.withLevel direction (if control.isPositive then .high else .low)).counting
          (lineCount (turnRequests a direction control)) := by
  cases direction with
  | none => rfl
  | some pin =>
      have hturn := h.turn_mem control.isPositive
      show board.heed (.single (turn a pin control.isPositive).line) = _
      cases hpositive : control.isPositive with
      | true =>
          rw [hpositive] at hturn
          exact heed_write hs hcommands hrest ha hturn (hfits _ hturn) rfl
      | false =>
          rw [hpositive] at hturn
          exact heed_write hs hcommands hrest ha hturn (hfits _ hturn) rfl

/-- A board once a motor is driven with a control value: for zero its
brake holds; else it has its duty and its direction, as far as it has
pins for them, and the brake is released. -/
def Board.driven (board : Board) (a : Assignment) (control : Binary64) : Board :=
  if control.isZero then board.withLevel (a.pin? .brake) .high
  else ((board.withDuty (a.pin? .pwm) (UInt8.ofNat (dutyFor control))).withLevel
      (a.pin? .direction) (if control.isPositive then .high else .low)).withLevel
      (a.pin? .brake) .low

include hs hseparate hcommands ha hfits h in
/-- At rest the requests of a motor drive it, and every line of them is
dispatched. -/
theorem heedAll_motor (hrest : board.AtRest circuit) (control : Binary64) :
    board.heedAll (motorRequests a pwm direction brake control)
      = (board.driven a control).counting
          (lineCount (motorRequests a pwm direction brake control)) := by
  obtain ⟨hpwm, hdirection, hbrake⟩ := h.pins
  unfold motorRequests Board.driven
  rw [hpwm, hdirection, hbrake]
  by_cases hzero : control.isZero = true
  · rw [if_pos hzero, if_pos hzero]
    exact heed_write hs hcommands hrest ha h.hold_mem (hfits _ h.hold_mem) rfl
  · rw [if_neg hzero, if_neg hzero, heedAll_append, heedAll_append,
      heedAll_speed hs hseparate hcommands ha hfits h hrest control]
    have hspeed := (hrest.withDuty pwm (UInt8.ofNat (dutyFor control))).counting
      (lineCount (speedRequests a pwm control))
    rw [heedAll_turn hs hcommands ha hfits h hspeed control]
    have hturned := (hspeed.withLevel direction
      (if control.isPositive then .high else .low)).counting
        (lineCount (turnRequests a direction control))
    show Board.heed _ (.single (release a brake).line) = _
    rw [heed_write hs hcommands hturned ha h.release_mem (hfits _ h.release_mem) rfl,
      withLevel_counting, withLevel_counting, withLevel_counting, counting_counting,
      counting_counting, lineCount_append, lineCount_append]
    rfl

end Effects

end SerialEndpoint
