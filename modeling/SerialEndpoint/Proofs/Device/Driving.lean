/-
Devices over a link that delivers. What a host calls for is what happens on
the pins (`devices_drive`).

# What is asked of the link

Every message that is sent is heard by the board behind it, and no sending
fails (`Delivers`). What the board wrote meanwhile, and what came in at its
sensors, is left open: a link says what becomes of the board's core only, and
boards with the same core stay alike (`core_heedAll_congr`). Whether a reply
comes is left open too, since no pin hangs on it. A transport to a board over
a stream without limits and faults is such a link (`delivers_unhindered`).

# From calls to pins

A call is followed in three steps, each with a lemma of its own:

- it is a script, which asks for nothing that its keymap lacks (`script_eq`,
  `request_of_mem`): the keymap file of a component was made from the
  commands of that component and no others (`keymap_of_owner`);
- making the requests of a script over the link is the board's heeding them
  (`make_requests`). The induction is on the requests, and carries along that
  the link is sound and what the core of its board is;
- at rest, the requests of a motor drive it and those of a switch write its
  pin (`heedAll_motor`, `heed_write`), and the board is at rest again.

What they come to is said by comparing two boards. `Board.Became` says of the
board behind the link that it shows the pins of an expected one, has
dispatched each line that was sent, has missed none and waits for nothing. The
expected board is written down for each device (`Board.steered`,
`Board.withLevel`), and names the pins of that component and no other ones.

# The control value

The host clamps a control value before it uses it. Clamping changes neither
its sign nor whether it is zero, apart from a value that is no number and
becomes zero (`isZero_clampUnit`, `isPositive_clampUnit`), so the pins can be
told from the value that was asked for (`driven_clampUnit`).
-/
import SerialEndpoint.Board.Wired
import SerialEndpoint.Proofs.Device.Requests
import SerialEndpoint.Proofs.Link.Operations

namespace SerialEndpoint

-- ============================================================ delivery

/-- A kind of link that delivers to a board: from a sound link no sending
fails, the board hears just what was sent, and the link stays sound. A
reply may come or fail to come. -/
structure Delivers (l : Type) [Link l] (sound : l → Prop) (board : l → Board) : Prop where
  send {link : l} (hsound : sound link) (message : String) :
    ∃ after, Link.send message link = .ok () after ∧ sound after
      ∧ (board after).core = ((board link).hear message).core
  pair {link : l} (hsound : sound link) (first second : String) :
    ∃ after, Link.sendThen first (.send second) link = .ok none after ∧ sound after
      ∧ (board after).core = (((board link).hear first).hear second).core
  ask {link : l} (hsound : sound link) (message : String) :
    let after := stateAfter (Link.sendThen message .receive link)
    sound after ∧ (board after).core = ((board link).hear message).core

theorem core_heed_congr {board board' : Board} (h : board.core = board'.core)
    (request : Request) : (board.heed request).core = (board'.heed request).core := by
  cases request with
  | single line => exact Board.core_feedAll_congr h
  | pair first second => exact Board.core_feedAll_congr (Board.core_feedAll_congr h)

theorem core_heedAll_congr {requests : List Request} :
    ∀ {board board' : Board}, board.core = board'.core →
      (board.heedAll requests).core = (board'.heedAll requests).core := by
  induction requests with
  | nil => exact fun h => h
  | cons request rest ih => exact fun h => ih (core_heed_congr h request)

section Making

variable {l : Type} [Link l] {sound : l → Prop} {board : l → Board}

theorem make_request (hd : Delivers l sound board) {link : l} (hsound : sound link)
    (request : Request) :
    ∃ after, request.make link = .ok () after ∧ sound after
      ∧ (board after).core = ((board link).heed request).core := by
  cases request with
  | single line =>
      obtain ⟨after, hsend, hafter, hboard⟩ := hd.send hsound line
      refine ⟨after, ?_, hafter, hboard⟩
      show OnLink.toDevice (Link.send line) link = _
      unfold OnLink.toDevice
      rw [hsend]
  | pair first second =>
      obtain ⟨after, hsend, hafter, hboard⟩ := hd.pair hsound first second
      refine ⟨after, ?_, hafter, hboard⟩
      show EStateM.bind (OnLink.toDevice (Link.sendThen first (.send second))) _ link = _
      unfold EStateM.bind OnLink.toDevice
      rw [hsend]
      rfl

/-- Over a link that delivers, requests are made and the board heeds
them. -/
theorem make_requests (hd : Delivers l sound board) (requests : List Request) :
    ∀ {link : l}, sound link →
      ∃ after, Script.make (requests.map .ok) link = .ok () after ∧ sound after
        ∧ (board after).core = ((board link).heedAll requests).core := by
  induction requests with
  | nil => exact fun hsound => ⟨_, rfl, hsound, rfl⟩
  | cons request rest ih =>
      intro link hsound
      obtain ⟨between, hfirst, hbetween, hheed⟩ := make_request hd hsound request
      obtain ⟨after, hrest, hafter, hboard⟩ := ih hbetween
      refine ⟨after, ?_, hafter, hboard.trans (core_heedAll_congr hheed)⟩
      show EStateM.bind request.make (fun _ => Script.make (rest.map .ok)) link = _
      unfold EStateM.bind
      rw [hfirst]
      exact hrest

end Making

-- ============================================================== effects

/-- A board that shows the pins of another one and is ready for a line:
since it was as before it has dispatched some lines, and it has missed
none. -/
structure Board.Became (before expected : Board) (lines : Nat) (after : Board) : Prop where
  levels : after.levels = expected.levels
  duties : after.duties = expected.duties
  dispatched : after.dispatched = before.dispatched + lines
  unmatched : after.unmatched = before.unmatched
  idle : after.waiting? = none
  pending : after.pending = []

/-- Boards that have dispatched and missed the same lines. -/
def Board.SameCounts (board board' : Board) : Prop :=
  board'.dispatched = board.dispatched ∧ board'.unmatched = board.unmatched

theorem became_of_core {circuit : Circuit} {before expected after : Board} {lines : Nat}
    (hrest : expected.AtRest circuit) (hcounts : before.SameCounts expected)
    (hcore : after.core = (expected.counting lines).core) :
    before.Became expected lines after where
  levels := show after.core.levels = (expected.counting lines).core.levels from
    congrArg Board.levels hcore
  duties := show after.core.duties = (expected.counting lines).core.duties from
    congrArg Board.duties hcore
  dispatched := by
    rw [show after.dispatched = expected.dispatched + lines from
      congrArg Board.dispatched hcore, hcounts.1]
  unmatched := (congrArg Board.unmatched hcore).trans hcounts.2
  idle := ((hrest.counting lines).congr hcore).idle
  pending := ((hrest.counting lines).congr hcore).pending

theorem withLevel_counts (board : Board) (pin? : Option Pin) (level : Level) :
    board.SameCounts (board.withLevel pin? level) := by
  cases pin? <;> exact ⟨rfl, rfl⟩

theorem withDuty_counts (board : Board) (pin? : Option Pin) (duty : UInt8) :
    board.SameCounts (board.withDuty pin? duty) := by
  cases pin? <;> exact ⟨rfl, rfl⟩

/-- What setting a control value is to do to the pins of a motor: without
a value other than zero the brake holds; else the motor has its duty and
its direction, as far as it has pins for them, and the brake is
released. -/
def Board.steered (board : Board) (a : Assignment) (control : Binary64) : Board :=
  if control = .nan ∨ control.isZero = true then board.withLevel (a.pin? .brake) .high
  else ((board.withDuty (a.pin? .pwm) (UInt8.ofNat (dutyFor control.clampUnit))).withLevel
      (a.pin? .direction) (if control.isPositive then .high else .low)).withLevel
      (a.pin? .brake) .low

namespace Binary64

theorem isZero_clampUnit (control : Binary64) :
    control.clampUnit.isZero = true ↔ control = .nan ∨ control.isZero = true := by
  have hone := unitsPerOne_pos
  cases control with
  | nan => exact ⟨fun _ => .inl rfl, fun _ => rfl⟩
  | infinite negative =>
      simp only [clampUnit, isZero, beq_iff_eq, reduceCtorEq, Bool.false_eq_true, or_false,
        iff_false]
      omega
  | finite negative units =>
      simp only [clampUnit, isZero, beq_iff_eq, reduceCtorEq, false_or]
      omega

theorem isPositive_clampUnit (control : Binary64) :
    control.clampUnit.isPositive = control.isPositive := by
  have hone := unitsPerOne_pos
  cases control with
  | nan => rfl
  | infinite negative =>
      have hunits : (unitsPerOne != 0) = true := by
        rw [bne_iff_ne]
        omega
      show (!negative && unitsPerOne != 0) = !negative
      rw [hunits, Bool.and_true]
  | finite negative units =>
      have hunits : (min units unitsPerOne != 0) = (units != 0) := by
        rw [Bool.eq_iff_iff, bne_iff_ne, bne_iff_ne]
        omega
      show (!negative && min units unitsPerOne != 0) = (!negative && units != 0)
      rw [hunits]

end Binary64

theorem driven_clampUnit (board : Board) (a : Assignment) (control : Binary64) :
    board.driven a control.clampUnit = board.steered a control := by
  unfold Board.driven Board.steered
  rw [Binary64.isPositive_clampUnit]
  by_cases hzero : control = .nan ∨ control.isZero = true
  · rw [if_pos hzero, if_pos ((Binary64.isZero_clampUnit control).2 hzero)]
  · rw [if_neg hzero, if_neg fun h => hzero ((Binary64.isZero_clampUnit control).1 h)]

theorem driven_counts (board : Board) (a : Assignment) (control : Binary64) :
    board.SameCounts (board.driven a control) := by
  unfold Board.driven
  split
  · exact withLevel_counts ..
  · obtain ⟨hduty, hduty'⟩ :=
      withDuty_counts board (a.pin? .pwm) (UInt8.ofNat (dutyFor control))
    obtain ⟨hturn, hturn'⟩ := withLevel_counts
      (board.withDuty (a.pin? .pwm) (UInt8.ofNat (dutyFor control))) (a.pin? .direction)
      (if control.isPositive then .high else .low)
    obtain ⟨hbrake, hbrake'⟩ := withLevel_counts _ (a.pin? .brake) .low
    exact ⟨hbrake.trans (hturn.trans hduty), hbrake'.trans (hturn'.trans hduty')⟩

theorem Board.AtRest.driven {circuit : Circuit} {board : Board} (h : board.AtRest circuit)
    (a : Assignment) (control : Binary64) : (board.driven a control).AtRest circuit := by
  unfold Board.driven
  split
  · exact h.withLevel _ _
  · exact ((h.withDuty _ _).withLevel _ _).withLevel _ _

-- ============================================================== devices

/-- The keymap file that bears a component's name is made of that
component's commands. -/
theorem keymap_of_owner {assignments : List Assignment} (hs : Served assignments)
    {file : KeymapFile} (hfile : file ∈ keymapFiles assignments) {a : Assignment}
    (ha : a ∈ assignments) (howner : file.component = a.name) :
    file.keymap = Keymap.ofCommands a.commands := by
  obtain ⟨b, hb, -, hname, hkeymap⟩ := mem_keymapFiles hfile
  have hsame : b = a :=
    List.inj_on_of_nodup_map hs.distinct hb ha (hname.symm.trans howner)
  rw [hkeymap, hsame]

section Devices

variable {circuit : Circuit} {assignments : List Assignment}
  {l : Type} [Link l] {sound : l → Prop} {board : l → Board}
  (hs : Served assignments) (hseparate : Separate (speedPins assignments))
  (hcommands : circuit.commands = commandTable assignments)
  (hd : Delivers l sound board) {link : l} (hsound : sound link)
  (hrest : (board link).AtRest circuit) {a : Assignment} (ha : a ∈ assignments)
  (hfits : ∀ command ∈ a.commands, command.line.length ≤ circuit.capacity)

include hs hcommands hd hsound hrest ha hfits

include hseparate in
/-- Setting the control value of a motor steers it. -/
theorem setControl_delivered {pwm direction : Option Pin} {brake : Pin}
    (h : a.IsMotor pwm direction brake) {motor : Motor}
    (hkeymap : motor.keymap = Keymap.ofCommands a.commands) (control : Binary64) :
    ∃ requests after,
      Motor.script { motor with control := control.clampUnit } control.clampUnit
          = requests.map .ok
        ∧ Motor.setControl control (motor, link)
          = .ok () ({ motor with control := control.clampUnit }, after)
        ∧ (board link).Became ((board link).steered a control) (lineCount requests)
            (board after) := by
  have hscript : Motor.script { motor with control := control.clampUnit } control.clampUnit
      = (motorRequests a pwm direction brake control.clampUnit).map .ok :=
    script_eq h hkeymap control.clampUnit
  obtain ⟨after, hmake, -, hboard⟩ :=
    make_requests hd (motorRequests a pwm direction brake control.clampUnit) hsound
  refine ⟨_, after, hscript, ?_, ?_⟩
  · unfold Motor.setControl
    simp only [hscript, hmake]
  · rw [heedAll_motor hs hseparate hcommands ha hfits h hrest] at hboard
    rw [← driven_clampUnit]
    exact became_of_core (hrest.driven a _) (driven_counts _ a _) hboard

/-- The request of a command that writes a pin writes it. -/
theorem write_delivered {command : Command} (hc : command ∈ a.commands) {pin : Pin}
    {level : Level} (haction : command.action = .write pin level) :
    ∃ after,
      Script.make [(Keymap.ofCommands a.commands).request command.operation] link
        = .ok () after
      ∧ (board link).Became ((board link).withLevel (some pin) level) 1 (board after) := by
  obtain ⟨after, hmake, -, hboard⟩ := make_requests hd [.single command.line] hsound
  refine ⟨after, ?_, ?_⟩
  · rw [request_of_mem hc]
    exact hmake
  · change (board after).core = ((board link).heed (.single command.line)).core at hboard
    rw [heed_write hs hcommands hrest ha hc (hfits _ hc) haction] at hboard
    exact became_of_core (hrest.withLevel _ _) (withLevel_counts ..) hboard

/-- Switching a switch writes its pin. -/
theorem switch_delivered (hkind : a.kind = .switch) :
    (a.pin? .control).isSome = true
      ∧ (∃ after, Switch.openContact ⟨Keymap.ofCommands a.commands⟩ link = .ok () after
          ∧ (board link).Became ((board link).withLevel (a.pin? .control) .low) 1 (board after))
      ∧ ∃ after, Switch.closeContact ⟨Keymap.ofCommands a.commands⟩ link = .ok () after
          ∧ (board link).Became ((board link).withLevel (a.pin? .control) .high) 1
              (board after) := by
  obtain ⟨pin, hcontrol, hopen, hclose⟩ : ∃ pin, a.pin? .control = some pin
      ∧ (⟨a.name, .openContact, .switchOpen, .write pin .low⟩ : Command) ∈ a.commands
      ∧ (⟨a.name, .closeContact, .switchClose, .write pin .high⟩ : Command) ∈ a.commands := by
    have hf := hs.fits a ha
    rw [hkind] at hf
    generalize hwiring : a.wiring = wiring at hf
    cases hf with
    | switch control =>
        have htable : a.commands
            = [⟨a.name, .openContact, .switchOpen, .write ⟨.digital, control⟩ .low⟩,
               ⟨a.name, .closeContact, .switchClose, .write ⟨.digital, control⟩ .high⟩] := by
          unfold Assignment.commands
          rw [hkind, hwiring]
        refine ⟨⟨.digital, control⟩, ?_, ?_, ?_⟩
        · unfold Assignment.pin? Assignment.roles
          rw [hwiring]
          rfl
        · rw [htable]
          exact List.mem_cons_self ..
        · rw [htable]
          exact List.mem_cons_of_mem _ (List.mem_cons_self ..)
  rw [hcontrol]
  exact ⟨rfl, write_delivered hs hcommands hd hsound hrest ha hfits hopen rfl,
    write_delivered hs hcommands hd hsound hrest ha hfits hclose rfl⟩

/-- Asking a sensor for a reading writes no pin, whatever becomes of the
reply. -/
theorem collect_delivered (hkind : a.kind = .voltageSensor ∨ a.kind = .distanceSensor) :
    (board link).Became (board link) 1
      (board (stateAfter ((Keymap.ofCommands a.commands).collect link))) := by
  obtain ⟨command, hc, hoperation, hreads⟩ : ∃ command ∈ a.commands,
      command.operation = .collect
        ∧ ∀ board : Board, (board.act command).core = board.core := by
    have hf := hs.fits a ha
    unfold Assignment.commands
    rcases hkind with hkind | hkind
    all_goals
      rw [hkind] at hf ⊢
      generalize a.wiring = wiring at hf
      cases hf
      exact ⟨_, List.mem_singleton_self _, rfl, fun _ => rfl⟩
  have hline : (Keymap.ofCommands a.commands).line .collect = .ok command.line := by
    unfold Keymap.line
    rw [← hoperation, get?_ofCommands hc]
  -- what the sensor makes of the reply is of no account to the board
  have hstate : stateAfter ((Keymap.ofCommands a.commands).collect link)
      = stateAfter (Link.sendThen command.line .receive link) := by
    unfold Keymap.collect
    rw [hline]
    show stateAfter (EStateM.bind (OnLink.toDevice (Link.sendThen command.line .receive)) _ link)
      = _
    unfold EStateM.bind OnLink.toDevice
    cases Link.sendThen command.line .receive link with
    | error fault after => rfl
    | ok reply after => cases reply <;> rfl
  obtain ⟨-, hboard⟩ := hd.ask hsound command.line
  rw [hstate]
  rw [hear_command hs hcommands hrest (List.mem_flatMap.2 ⟨a, ha, hc⟩) (hfits _ hc),
    hreads] at hboard
  change _ = ((board link).counting 1).core at hboard
  exact became_of_core hrest ⟨rfl, rfl⟩ hboard

end Devices

theorem stateAfter_voltage {l : Type} [Link l] (sensor : VoltageSensor) (link : l) :
    stateAfter (sensor.collect link) = stateAfter (sensor.keymap.collect link) := by
  show stateAfter (EStateM.bind sensor.keymap.collect _ link) = _
  unfold EStateM.bind
  cases sensor.keymap.collect link with
  | error fault after => rfl
  | ok reply after =>
      simp only
      cases VoltageSensor.read reply <;> rfl

theorem stateAfter_distance {l : Type} [Link l] (sensor : DistanceSensor) (link : l) :
    stateAfter (sensor.collect link) = stateAfter (sensor.keymap.collect link) := by
  show stateAfter (EStateM.bind sensor.keymap.collect _ link) = _
  unfold EStateM.bind
  cases sensor.keymap.collect link with
  | error fault after => rfl
  | ok reply after =>
      simp only
      cases sensor.read reply <;> rfl

-- ======================================================== a wired board

/-- A transport to a board, over a stream without limits and faults. -/
def Unhindered (transport : Transport WiredBoard) : Prop := transport.peer.outlet = {}

/-- An offered frame is taken as a whole, the board hears it, and what the
board writes comes in as one chunk. -/
theorem offer_unhindered {transport : Transport WiredBoard} (h : Unhindered transport)
    (message : String) :
    let heard := transport.peer.board.hear message
    Peer.offer transport.peer (Frame.ofMessage message).bytes
      = ⟨.whole, if heard.output = [] then [] else [.chunk heard.output], ⟨{}, heard.drained⟩⟩ := by
  obtain ⟨peer, limit, inbox, begun, written, stats⟩ := transport
  obtain ⟨outlet, board⟩ := peer
  obtain rfl : outlet = {} := h
  rfl

theorem send_unhindered {transport : Transport WiredBoard} (h : Unhindered transport)
    (message : String) :
    ∃ after, Transport.send message transport = .ok () after ∧ Unhindered after
      ∧ after.peer.board.core = (transport.peer.board.hear message).core := by
  rw [Transport.send_run]
  simp only [Transport.offered, offer_unhindered h message]
  exact ⟨_, rfl, rfl, rfl⟩

/-- A transport to a board delivers to it. -/
theorem delivers_unhindered :
    Delivers (Transport WiredBoard) Unhindered fun transport => transport.peer.board where
  send hsound message := send_unhindered hsound message
  pair hsound first second := by
    obtain ⟨between, hfirst, hbetween, hheard⟩ := send_unhindered hsound first
    obtain ⟨after, hsecond, hafter, hboard⟩ := send_unhindered hbetween second
    refine ⟨after, ?_, hafter, hboard.trans (Board.core_feedAll_congr hheard)⟩
    show Transport.sendThen first (.send second) _ = _
    rw [Transport.sendThen_send_run, hfirst]
    simp only [hsecond]
  ask hsound message := by
    obtain ⟨between, hfirst, hbetween, hheard⟩ := send_unhindered hsound message
    have hpeer := (Transport.receive_keeps between).1
    -- only the first half moves the board; the second one reads what came in
    have hstate : ∀ link, Transport.send message link = .ok () between →
        stateAfter (Transport.sendThen message .receive link)
          = stateAfter (Transport.receive between) := by
      intro link hlink
      rw [Transport.sendThen_receive_run, hlink]
      simp only
      cases Transport.receive between <;> rfl
    rw [← hstate _ hfirst] at hpeer
    intro after
    have hafter : after.peer = between.peer := hpeer
    unfold Unhindered at hbetween ⊢
    rw [hafter]
    exact ⟨hbetween, hheard⟩

-- =========================================================== the theorem

/-- Host calls do on the board what they say. Over a link that delivers to
a board of the endpoint, at the start of a line and with no motor waiting,
the device made from a component's keymap drives that component's pins and
no other ones: a motor is steered, a switch is switched, and a sensor is
asked and nothing is written. Every line that is sent is dispatched, and
no motor is left waiting. -/
theorem devices_drive {generator : Generator} {agent : Agent} {artifacts : Artifacts}
    (hpools : generator.pools.Available) (hrender : generator.render agent = .ok artifacts)
    (hroom : ∀ command ∈ commandTable artifacts.assignments,
      command.line.length ≤ generator.firmware.accumulatorSize)
    {l : Type} [Link l] {sound : l → Prop} {board : l → Board} (hd : Delivers l sound board)
    {link : l} (hsound : sound link)
    (hreaches : (generator.firmware.circuit artifacts.assignments).Reaches (board link))
    (hpending : (board link).pending = []) (hidle : (board link).waiting? = none)
    {a : Assignment} (ha : a ∈ artifacts.assignments)
    {file : KeymapFile} (hfile : file ∈ artifacts.keymaps) (howner : file.component = a.name) :
    (∀ p d, a.kind = .motor p d →
      (a.pin? .pwm).isSome = p ∧ (a.pin? .direction).isSome = d
      ∧ (a.pin? .brake).isSome = true
      ∧ ∀ held control, dutyFor control.clampUnit ≤ fullDuty
        ∧ ∃ requests after,
          Motor.script ⟨file.keymap, control.clampUnit⟩ control.clampUnit = requests.map .ok
          ∧ Motor.setControl control (⟨file.keymap, held⟩, link)
            = .ok () (⟨file.keymap, control.clampUnit⟩, after)
          ∧ (board link).Became ((board link).steered a control) (lineCount requests)
              (board after))
    ∧ (a.kind = .switch →
      (a.pin? .control).isSome = true
      ∧ (∃ after, Switch.openContact ⟨file.keymap⟩ link = .ok () after
          ∧ (board link).Became ((board link).withLevel (a.pin? .control) .low) 1 (board after))
      ∧ ∃ after, Switch.closeContact ⟨file.keymap⟩ link = .ok () after
          ∧ (board link).Became ((board link).withLevel (a.pin? .control) .high) 1
              (board after))
    ∧ (a.kind = .voltageSensor →
      (board link).Became (board link) 1
        (board (stateAfter (VoltageSensor.collect ⟨file.keymap⟩ link))))
    ∧ (a.kind = .distanceSensor → ∀ token,
      (board link).Became (board link) 1
        (board (stateAfter (DistanceSensor.collect ⟨file.keymap, token⟩ link)))) := by
  have hr := rendered_of_render hrender
  have hs := hr.served
  have hseparate := hr.separate hpools
  have hcommands : (generator.firmware.circuit artifacts.assignments).commands
      = commandTable artifacts.assignments := rfl
  have hrest := atRest_of_reaches hs hseparate hcommands hreaches hpending hidle
  have hfits : ∀ command ∈ a.commands, command.line.length
      ≤ (generator.firmware.circuit artifacts.assignments).capacity :=
    fun command hc => hroom command (List.mem_flatMap.2 ⟨a, ha, hc⟩)
  rw [hr.keymaps_eq] at hfile
  rw [keymap_of_owner hs hfile ha howner]
  refine ⟨fun p d hkind => ?_, fun hkind => ?_, fun hkind => ?_, fun hkind token => ?_⟩
  · obtain ⟨pwm, direction, brake, h⟩ := isMotor_of_kind (hs.fits a ha) hkind
    obtain ⟨hpwm, hdirection, hbrake⟩ := h.pins
    have hflags := h.kind.symm.trans hkind
    injection hflags with hp hdir
    refine ⟨hpwm ▸ hp, hdirection ▸ hdir, hbrake ▸ rfl, fun held control =>
      ⟨dutyFor_le _, ?_⟩⟩
    have hkeymap : (⟨Keymap.ofCommands a.commands, held⟩ : Motor).keymap
        = Keymap.ofCommands a.commands := rfl
    exact setControl_delivered hs hseparate hcommands hd hsound hrest ha hfits h hkeymap control
  · exact switch_delivered hs hcommands hd hsound hrest ha hfits hkind
  · rw [stateAfter_voltage]
    exact collect_delivered hs hcommands hd hsound hrest ha hfits (.inl hkind)
  · rw [stateAfter_distance]
    exact collect_delivered hs hcommands hd hsound hrest ha hfits (.inr hkind)

/-- The motor of the robot at half speed backwards, over a stream to its
board. -/
theorem devices_drive_rover :
    let link : Transport WiredBoard :=
      { peer := { board := (({} : Firmware).circuit roverAssignments).start }, limit := ⟨1000⟩ }
    let control : Binary64 := .div (.ofInt (-1)) (.ofNat 2)
    ∃ file ∈ (roverArtifacts {}).keymaps, file.component = "Left"
      ∧ ∃ after, Motor.setControl control (⟨file.keymap, .zero⟩, link)
          = .ok () (⟨file.keymap, control.clampUnit⟩, after)
        ∧ after.peer.board.duties 3 = some 128 ∧ after.peer.board.levels 2 = some .low
        ∧ after.peer.board.levels 4 = some .low ∧ after.peer.board.unmatched = 0 := by
  intro link control
  have haccepted : ({} : Firmware).refusal? = none := by decide +kernel
  have hrender : Generator.render ⟨.uno, {}, haccepted⟩ rover = .ok (roverArtifacts {}) :=
    render_rover rfl
  have hroom : ∀ command ∈ commandTable roverAssignments, command.line.length ≤ 64 := by decide
  have hreaches : (({} : Firmware).circuit roverAssignments).Reaches link.peer.board := ⟨[], rfl⟩
  have hidle : link.peer.board.waiting? = none := start_idle _
  obtain ⟨file, hfile, howner⟩ : ∃ file ∈ (roverArtifacts {}).keymaps,
      file.component = "Left" := ⟨_, .head _, rfl⟩
  have hmotor := (devices_drive (.own .uno) hrender hroom delivers_unhindered
    (show Unhindered link from rfl) hreaches rfl hidle (.head _) hfile howner).1 true true rfl
  obtain ⟨-, requests, after, -, hcall, hbecame⟩ := hmotor.2.2.2 .zero control
  refine ⟨file, hfile, howner, after, hcall, ?_, ?_, ?_, hbecame.unmatched⟩
  · rw [hbecame.duties]
    decide +kernel
  · rw [hbecame.levels]
    decide +kernel
  · rw [hbecame.levels]
    decide +kernel

end SerialEndpoint
