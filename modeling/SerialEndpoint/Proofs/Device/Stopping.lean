/-
What a stop that succeeded has done. Any send of a motor may fail after
any number of its bytes were taken, and the motor may be called again all
the same.

# What is on the stream

A call writes a front of the bytes of its requests, and all of them if it
succeeds (`perform_written`). This is all that is needed of the link. The
stream then holds fronts of requests, one after the other, and the board is
wherever these bytes took it.

By induction on the calls two things are kept (`performAll_written`). The
motor has its keymap, whatever value it holds, so the next call makes the
requests of the same component. And no zero is on the stream, because there
is none in any request that the board knows (`known_bytes`), nor in a front
of one. If no call fails, the fronts are whole requests, and a board at rest
is at rest again.

# What the stop does

A stop that succeeds puts the line that holds the brake behind all this.
`hear_hold` says what a board in any state makes of it. So the stop brakes if
the board was ready for a line, in particular if no call before it failed;
after a failure the line may be taken for a duty or may be joined to what a
cut frame left, and the brake stays as it was (`stopped_iff`). One send that
fails is enough for that (`stop_taken_for_duty`): its bytes are with the
board although the client was told that they are not.
-/
import SerialEndpoint.Proofs.Device.Brakes
import SerialEndpoint.Proofs.Device.Calls
import SerialEndpoint.Proofs.Device.Driving

namespace SerialEndpoint

open Assignment.IsMotor

-- =============================================================== frames

/-- The bytes of a request on the stream. -/
def Request.bytes (request : Request) : List UInt8 :=
  request.lines.flatMap fun line => (Frame.ofMessage line).bytes

theorem heed_eq_feedAll (board : Board) (request : Request) :
    board.heed request = board.feedAll request.bytes := by
  cases request with
  | single line => simp [Board.heed, Board.hear, Request.bytes, Request.lines]
  | pair first second =>
      simp [Board.heed, Board.hear, Request.bytes, Request.lines, Board.feedAll_append]

theorem heedAll_eq_feedAll (board : Board) (requests : List Request) :
    board.heedAll requests = board.feedAll (requests.flatMap Request.bytes) := by
  induction requests generalizing board with
  | nil => rfl
  | cons request rest ih =>
      rw [List.flatMap_cons, Board.feedAll_append, ← heed_eq_feedAll]
      exact ih (board.heed request)

/-- No byte of a known request is a zero. -/
theorem known_bytes {circuit : Circuit} {assignments : List Assignment}
    (hs : Served assignments) {request : Request} (h : request.Known circuit assignments) :
    ∀ b ∈ request.bytes, b ≠ 0 := by
  have hframe : ∀ line : String, IsPlain line.toList →
      ∀ b ∈ (Frame.ofMessage line).bytes, b ≠ 0 := by
    intro line hplain b hb
    rw [frame_plain hplain] at hb
    rcases List.mem_append.1 hb with hb | hb
    · exact (encode_plain_bytes hplain b hb).2
    · rw [List.mem_singleton.1 hb]
      decide
  have hlines : ∀ line ∈ request.lines, IsPlain line.toList := by
    cases h with
    | write ha hc haction hfits =>
        intro line hline
        rw [List.mem_singleton.1 hline]
        exact table_plain hs (List.mem_flatMap.2 ⟨_, ha, hc⟩)
    | duty n ha hc haction hfits =>
        intro line hline
        rcases List.mem_pair.1 hline with rfl | rfl
        · exact table_plain hs (List.mem_flatMap.2 ⟨_, ha, hc⟩)
        · exact isPlain_digits n
  intro b hb
  obtain ⟨line, hline, hb⟩ := List.mem_flatMap.1 hb
  exact hframe line (hlines line hline) b hb

-- ============================================================== writing

open Transport

section Writing

variable {π : Type} [Peer π]

omit [Peer π] in
theorem writes_toDevice {α : Type} {step : OnLink (Transport π) α} {bytes : List UInt8}
    (h : Writes step bytes) : Writes step.toDevice bytes := by
  intro link
  obtain ⟨taken, hfront, hwritten, hwhole⟩ := h link
  unfold OnLink.toDevice
  cases hrun : step link with
  | ok value after =>
      rw [hrun] at hwritten
      exact ⟨taken, hfront, hwritten, fun _ _ _ => hwhole value after hrun⟩
  | error fault after =>
      rw [hrun] at hwritten
      exact ⟨taken, hfront, hwritten, fun _ _ hok => by cases hok⟩

theorem writes_request (request : Request) :
    Writes (request.make : OnDevice (Transport π) Unit) request.bytes := by
  cases request with
  | single line =>
      rw [show (Request.single line).bytes = (Frame.ofMessage line).bytes by
        simp [Request.bytes, Request.lines]]
      exact writes_toDevice (writes_send line)
  | pair first second =>
      rw [show (Request.pair first second).bytes
          = (Frame.ofMessage first).bytes ++ (Frame.ofMessage second).bytes ++ [] by
        simp [Request.bytes, Request.lines]]
      exact writes_bind (writes_toDevice (writes_sendThen first second)) fun _ => writes_pure ()

/-- Making requests writes their lines in order. -/
theorem writes_requests (requests : List Request) :
    Writes (Script.make (requests.map .ok) : OnDevice (Transport π) Unit)
      (requests.flatMap Request.bytes) := by
  induction requests with
  | nil => exact writes_pure ()
  | cons request rest ih => exact writes_bind (writes_request request) fun _ => ih

end Writing

-- =============================================================== calls

section Calls

variable {circuit : Circuit} {assignments : List Assignment} (hs : Served assignments)
  {a : Assignment} (ha : a ∈ assignments)
  (hfits : ∀ command ∈ a.commands, command.line.length ≤ circuit.capacity)
  {pwm direction : Option Pin} {brake : Pin} (h : a.IsMotor pwm direction brake)
  {π : Type} [Peer π]

/-- The motor of a component with some control value. -/
def Assignment.motor (a : Assignment) (held : Binary64) : Motor :=
  ⟨Keymap.ofCommands a.commands, held⟩

include h in
/-- A control value that is set writes fronts of the motor's requests, and
leaves the motor with that value. -/
theorem setControl_written (control held : Binary64) (link : Transport π) :
    (stateAfter (Motor.setControl control (a.motor held, link))).1 = a.motor control.clampUnit
    ∧ ∃ taken, taken <+: (motorRequests a pwm direction brake control.clampUnit).flatMap
          Request.bytes
      ∧ (stateAfter (Motor.setControl control (a.motor held, link))).2.written
        = link.written ++ taken
      ∧ ∀ result after, Motor.setControl control (a.motor held, link) = .ok result after →
          taken = (motorRequests a pwm direction brake control.clampUnit).flatMap
            Request.bytes := by
  have hscript : Motor.script { a.motor held with control := control.clampUnit }
        control.clampUnit
      = (motorRequests a pwm direction brake control.clampUnit).map .ok :=
    script_eq h rfl control.clampUnit
  obtain ⟨taken, hfront, hwritten, hwhole⟩ :=
    writes_requests (motorRequests a pwm direction brake control.clampUnit) link
  -- the control is taken over before anything is sent, so it is there either way
  cases hmake : Script.make
      ((motorRequests a pwm direction brake control.clampUnit).map .ok) link with
  | ok done after =>
      have hrun : Motor.setControl control (a.motor held, link)
          = .ok () (a.motor control.clampUnit, after) := by
        unfold Motor.setControl
        simp only [hscript, hmake]
        rfl
      rw [hmake] at hwritten
      rw [hrun]
      exact ⟨rfl, taken, hfront, hwritten, fun _ _ _ => hwhole done after hmake⟩
  | error fault after =>
      have hrun : Motor.setControl control (a.motor held, link)
          = .error fault (a.motor control.clampUnit, after) := by
        unfold Motor.setControl
        simp only [hscript, hmake]
        rfl
      rw [hmake] at hwritten
      rw [hrun]
      exact ⟨rfl, taken, hfront, hwritten, fun _ _ hok => by cases hok⟩

/-- The requests of a call on a motor. -/
def Call.requests (call : Call) (a : Assignment) (pwm direction : Option Pin) (brake : Pin) :
    List Request :=
  match call.control? with
  | some control => motorRequests a pwm direction brake control.clampUnit
  | none => []

include h in
/-- Every call on a motor writes fronts of its requests, and all of them
if it succeeds. -/
theorem perform_written (call : Call) (held : Binary64) (link : Transport π) :
    let result := Device.perform (.motor (a.motor held)) call (.motor (a.motor held), link)
    (∃ held', (stateAfter result).1 = .motor (a.motor held'))
    ∧ ∃ taken, taken <+: (call.requests a pwm direction brake).flatMap Request.bytes
      ∧ (stateAfter result).2.written = link.written ++ taken
      ∧ ∀ value after, result = .ok value after →
          taken = (call.requests a pwm direction brake).flatMap Request.bytes := by
  intro result
  have hrun : result = _ := perform_motor call (a.motor held) link
  unfold Call.requests
  cases hcontrol : call.control? with
  | none =>
      rw [hcontrol] at hrun
      rw [hrun]
      exact ⟨⟨held, rfl⟩, [], List.prefix_rfl, (List.append_nil _).symm, fun _ _ _ => rfl⟩
  | some control =>
      rw [hcontrol] at hrun
      obtain ⟨hmotor, taken, hfront, hwritten, hwhole⟩ :=
        setControl_written h control held link
      rw [hrun]
      unfold Steering.within
      simp only
      cases hset : Motor.setControl control (a.motor held, link) with
      | ok done after =>
          rw [hset] at hmotor hwritten
          exact ⟨⟨_, congrArg Device.motor hmotor⟩, taken, hfront, hwritten,
            fun _ _ _ => hwhole done after hset⟩
      | error fault after =>
          rw [hset] at hmotor hwritten
          exact ⟨⟨_, congrArg Device.motor hmotor⟩, taken, hfront, hwritten,
            fun _ _ hok => by cases hok⟩

include ha hfits h in
/-- The board knows every request of a call on a motor. -/
theorem callRequests_known (call : Call) :
    ∀ request ∈ call.requests a pwm direction brake, request.Known circuit assignments := by
  unfold Call.requests
  cases call.control? with
  | none => exact fun _ hmem => absurd hmem List.not_mem_nil
  | some control => exact motorRequests_known ha hfits h control.clampUnit

include hs ha hfits h in
/-- Whatever is called and however it fails, the motor keeps its keymap
and no zero comes onto the stream; and if no call fails, a board at rest
is at rest again. -/
theorem performAll_written (hseparate : Separate (speedPins assignments))
    (hcommands : circuit.commands = commandTable assignments) (calls : List Call) :
    ∀ (held : Binary64) {link : Transport π}, (∀ b ∈ link.written, b ≠ 0) →
      let after := Device.performAll calls (.motor (a.motor held), link)
      (∃ held', after.1 = .motor (a.motor held')) ∧ (∀ b ∈ after.2.written, b ≠ 0)
      ∧ (Device.Obeyed calls (.motor (a.motor held), link) →
          (circuit.start.feedAll link.written).AtRest circuit →
          (circuit.start.feedAll after.2.written).AtRest circuit) := by
  induction calls with
  | nil => exact fun _ _ hplain => ⟨⟨_, rfl⟩, hplain, fun _ hrest => hrest⟩
  | cons call rest ih =>
      intro held link hplain
      have hknown := callRequests_known ha hfits h call
      obtain ⟨⟨held', hmotor⟩, taken, hfront, hwritten, hwhole⟩ :=
        perform_written h call held link
      obtain ⟨step, hstep⟩ : ∃ step, stateAfter (Device.perform (.motor (a.motor held)) call
          (.motor (a.motor held), link)) = step := ⟨_, rfl⟩
      rw [hstep] at hmotor hwritten
      obtain ⟨device, between⟩ := step
      obtain rfl : device = .motor (a.motor held') := hmotor
      -- zeros would let a line end early, and no request has one
      have hbytes : ∀ b ∈ between.written, b ≠ 0 := by
        intro b hb
        rw [show between.written = link.written ++ taken from hwritten] at hb
        rcases List.mem_append.1 hb with hb | hb
        · exact hplain b hb
        · obtain ⟨request, hrequest, hb⟩ := List.mem_flatMap.1 (hfront.subset hb)
          exact known_bytes hs (hknown request hrequest) b hb
      obtain ⟨hkept, hafter, hobeyed⟩ := ih held' hbytes
      unfold Device.performAll
      rw [show stateAfter (Device.perform (Device.motor (a.motor held), link).1 call
        (.motor (a.motor held), link)) = _ from hstep]
      refine ⟨hkept, hafter, fun hall hrest => hobeyed ?_ ?_⟩
      · obtain ⟨-, hothers⟩ := hall
        rw [show stateAfter (Device.perform (Device.motor (a.motor held), link).1 call
          (.motor (a.motor held), link)) = _ from hstep] at hothers
        exact hothers
      · obtain ⟨⟨value, after, hok⟩, -⟩ := hall
        rw [show between.written = link.written ++ taken from hwritten,
          hwhole value after hok, Board.feedAll_append, ← heedAll_eq_feedAll]
        exact heedAll_atRest hs hseparate hcommands hknown hrest

end Calls

-- =========================================================== the theorem

/-- What a stop that succeeded has done to its motor's brake, whatever was
called before and wherever it failed: the brake pin is high exactly if the
board was ready for a line, or the pin was high already and the line of
the stop did not turn into the one that releases the brake. If nothing
failed before, it is high. -/
theorem stopped_iff {generator : Generator} {agent : Agent} {artifacts : Artifacts}
    (hpools : generator.pools.Available) (hrender : generator.render agent = .ok artifacts)
    {a : Assignment} (ha : a ∈ artifacts.assignments) {p d : Bool} (hkind : a.kind = .motor p d)
    {brake : Pin} (hbrake : a.pin? .brake = some brake)
    (hfits : ∀ command ∈ a.commands, command.line.length ≤ generator.firmware.accumulatorSize)
    {file : KeymapFile} (hfile : file ∈ artifacts.keymaps) (howner : file.component = a.name)
    {π : Type} [Peer π] {link : Transport π} (hfresh : link.written = [])
    (calls : List Call) {between after : Device × Transport π} {result : CallResult}
    (hcalls : Device.performAll calls (.motor { keymap := file.keymap }, link) = between)
    (hstop : between.1.perform .stop between = .ok result after) :
    let start := (generator.firmware.circuit artifacts.assignments).start
    let before := start.feedAll between.2.written
    ((start.feedAll after.2.written).levels brake.number = some .high ↔
      (before.pending = [] ∧ before.waiting? = none)
        ∨ before.levels brake.number = some .high
          ∧ ¬ (before.waiting? = none
            ∧ before.joined (hold a brake).line = Utf8.encode (release a brake).line))
    ∧ (Device.Obeyed calls (.motor { keymap := file.keymap }, link) →
        (start.feedAll after.2.written).levels brake.number = some .high) := by
  have hr := rendered_of_render hrender
  have hs := hr.served
  obtain ⟨pwm, direction, pin, h⟩ := isMotor_of_kind (hs.fits a ha) hkind
  obtain rfl : pin = brake := Option.some_inj.1 (h.pins.2.2.symm.trans hbrake)
  rw [hr.keymaps_eq] at hfile
  rw [keymap_of_owner hs hfile ha howner] at hcalls ⊢
  generalize hcircuit : generator.firmware.circuit artifacts.assignments = circuit
  have hcommands : circuit.commands = commandTable artifacts.assignments := hcircuit ▸ rfl
  have hfits' : ∀ command ∈ a.commands, command.line.length ≤ circuit.capacity := by
    rw [← hcircuit]
    exact hfits
  intro start before
  have hempty : ∀ b ∈ link.written, b ≠ 0 := by
    rw [hfresh]
    exact fun _ hb => absurd hb List.not_mem_nil
  obtain ⟨⟨held, hmotor⟩, hplain, hobeyed⟩ :=
    performAll_written hs ha hfits' h (hr.separate hpools) hcommands calls .zero hempty
  rw [show Device.performAll calls (.motor (a.motor .zero), link) = between from hcalls]
    at hmotor hplain hobeyed
  obtain ⟨device, stream⟩ := between
  obtain rfl : device = .motor (a.motor held) := hmotor
  obtain ⟨-, taken, -, hwritten, hwhole⟩ := perform_written h .stop held stream
  have hstopped : Device.perform (.motor (a.motor held)) .stop (.motor (a.motor held), stream)
      = .ok result after := hstop
  rw [hstopped] at hwritten
  have hline : (Call.stop.requests a pwm direction pin).flatMap Request.bytes
      = (Frame.ofMessage (hold a pin).line).bytes := by
    have hzero : Binary64.zero.clampUnit.isZero = true :=
      (Binary64.isZero_clampUnit .zero).2 (.inr rfl)
    show (motorRequests a pwm direction pin Binary64.zero.clampUnit).flatMap _ = _
    unfold motorRequests
    rw [if_pos hzero]
    simp [Request.bytes, Request.lines]
  have hheard : start.feedAll after.2.written = before.hear (hold a pin).line := by
    rw [show after.2.written = stream.written ++ taken from hwritten,
      hwhole result after hstopped, hline, Board.feedAll_append]
    rfl
  have hiff := hear_hold hs (hr.granted_nodup hpools .digital) ha h hcommands hfits'
    (Board.feedAll_circuit start stream.written) (feedAll_tidy (start_tidy circuit) hplain)
  rw [hheard]
  refine ⟨hiff, fun hall => hiff.2 (.inl ?_)⟩
  have hrest := hobeyed hall (by rw [hfresh]; exact start_atRest circuit)
  exact ⟨hrest.pending, hrest.idle⟩

/-- The keymap of the robot's motor. -/
def roverMotorKeymap : KeymapFile :=
  ⟨"Left", "motor_Left_keymap.json", Keymap.ofCommands (commandTable (roverAssignments.take 1))⟩

/-- A write that fails before anything is taken leaves the board ready,
and the stop after it brakes. -/
theorem stopped_iff_rover :
    let outlet : Outlet := { writeFault := some ⟨.brokenPipe, "Broken pipe"⟩ }
    let link : Transport Outlet := { peer := outlet, limit := ⟨1000⟩ }
    let start := (({} : Firmware).circuit roverAssignments).start
    let between := Device.performAll [.setControl .one]
      (.motor { keymap := roverMotorKeymap.keymap }, link)
    roverMotorKeymap ∈ (roverArtifacts {}).keymaps
      ∧ ∃ result after, between.1.perform .stop between = .ok result after
        ∧ (start.feedAll after.2.written).levels 4 = some .high := by
  intro outlet link start between
  have haccepted : ({} : Firmware).refusal? = none := by decide +kernel
  have hrender : Generator.render ⟨.uno, {}, haccepted⟩ rover = .ok (roverArtifacts {}) :=
    render_rover rfl
  have hfile : roverMotorKeymap ∈ (roverArtifacts {}).keymaps := .head _
  obtain ⟨a, ha, howner, hkind, hbrake, hfits⟩ : ∃ a ∈ (roverArtifacts {}).assignments,
      roverMotorKeymap.component = a.name ∧ a.kind = .motor true true
        ∧ a.pin? .brake = some ⟨.digital, 4⟩
        ∧ ∀ command ∈ a.commands, command.line.length ≤ 64 :=
    ⟨_, .head _, rfl, rfl, rfl, by decide⟩
  have hsucceeds : (match between.1.perform .stop between with
      | .ok _ _ => true
      | .error _ _ => false) = true := by decide +kernel
  have hready : (start.feedAll between.2.written).pending = []
      ∧ (start.feedAll between.2.written).waiting? = none := by decide +kernel
  cases hstop : between.1.perform .stop between with
  | error fault after =>
      rw [hstop] at hsucceeds
      cases hsucceeds
  | ok result after =>
      have hcalls : Device.performAll [.setControl .one]
          (.motor { keymap := roverMotorKeymap.keymap }, link) = between := rfl
      have hfresh : link.written = [] := rfl
      clear_value between
      have hbrakes := stopped_iff (.own .uno) hrender ha hkind hbrake hfits hfile howner hfresh
        [.setControl .one] hcalls hstop
      exact ⟨hfile, result, after, rfl, hbrakes.1.2 (.inl hready)⟩

/-- A flush that fails after the line for the duty was taken leaves the
motor waiting: the stop after it succeeds, and its line is taken for a
duty of zero. The brake is never held. -/
theorem stop_taken_for_duty :
    let outlet : Outlet := { flushFault := some ⟨.brokenPipe, "Broken pipe"⟩ }
    let link : Transport Outlet := { peer := outlet, limit := ⟨1000⟩ }
    let start := (({} : Firmware).circuit roverAssignments).start
    let between := Device.performAll [.setControl .one]
      (.motor { keymap := roverMotorKeymap.keymap }, link)
    (∃ generator, Generator.ofParts .uno {} = .ok generator
        ∧ generator.render rover = .ok (roverArtifacts {}))
      ∧ roverMotorKeymap ∈ (roverArtifacts {}).keymaps
      ∧ (∀ command ∈ commandTable roverAssignments,
          command.line.length ≤ ({} : Firmware).accumulatorSize)
      ∧ (start.feedAll between.2.written).waiting?.isSome = true
      ∧ ∃ result after, between.1.perform .stop between = .ok result after
        ∧ (start.feedAll after.2.written).levels 4 = none
        ∧ (start.feedAll after.2.written).duties 3 = some 0 := by
  intro outlet link start between
  have hsucceeds : (match between.1.perform .stop between with
      | .ok _ after => decide ((start.feedAll after.2.written).levels 4 = none
          ∧ (start.feedAll after.2.written).duties 3 = some 0)
      | .error _ _ => false) = true := by decide +kernel
  have haccepted : ({} : Firmware).refusal? = none := by decide +kernel
  refine ⟨⟨_, ofParts_accepted .uno haccepted, render_rover rfl⟩, .head _, by decide,
    by decide +kernel, ?_⟩
  cases hstop : between.1.perform .stop between with
  | error fault after =>
      rw [hstop] at hsucceeds
      cases hsucceeds
  | ok result after =>
      rw [hstop] at hsucceeds
      exact ⟨result, after, rfl, of_decide_eq_true hsucceeds⟩

end SerialEndpoint
