/-
A board at rest: at the start of a line, with no motor waiting. From here
a whole message does what its command says, and a request of a host, one
line or two, comes back to rest.

# What a board goes by

What a board does with its lines hangs neither on what comes in at its
sensors nor on what it has written. With these left out (`Board.core`)
two boards that are alike stay alike, for every command, line and byte
(`core_act`, `core_dispatch`, `core_feed`). So whatever is shown of one board
is true of all that have its core, however their sensors have changed.

# Its slots

There is a slot for each motor with a PWM pin, and nothing but who waits
ever changes about the slots. `run_slots` keeps that through a run: they are
always `slotsOf` the motors for some function that says who waits. A command
for a duty makes one motor wait, and a line that is taken as a duty makes
nobody wait. On a reachable board where nobody waits that function is
constantly false, and the slots are those of the start
(`atRest_of_reaches`).

# Whole messages

A message at rest is one line, of which the board keeps as many bytes as it
has room for (`hear_eq_dispatch`). If it is the line of a command and there
is room, it is kept whole and recognised (`hear_command`). A command that
writes a pin leaves the board at rest. A command for a duty makes its motor
wait, and since nobody else does, this is the first that waits
(`find?_overlay`): the next message is its duty, whatever it says, and then
nobody waits again (`hear_duty`).
-/
import SerialEndpoint.Proofs.Board.Slots
import SerialEndpoint.Proofs.Board.Truncation

namespace SerialEndpoint

-- ================================================================ core

/-- A board without its sensors and its output. -/
def Board.core (board : Board) : Board :=
  { board with output := [], readings := fun _ => 0, ranges := fun _ => none }

/-- Boards alike are alike in all that has nothing to do with sensors and
output. -/
theorem congr_core {α : Type} (f : Board → α) (hf : ∀ board : Board, f board.core = f board)
    {board board' : Board} (h : board.core = board'.core) : f board = f board' := by
  rw [← hf board, h, hf board']

namespace Board

theorem core_reply (board : Board) (text : String) : (board.reply text).core = board.core :=
  rfl

theorem core_act (board : Board) (command : Command) :
    (board.core.act command).core = (board.act command).core := by
  unfold act
  cases command.action with
  | readVoltage pin =>
      rw [core_reply, core_reply]
      rfl
  | readDistance =>
      rw [core_reply, core_reply]
      rfl
  | _ => rfl

theorem core_dispatch (board : Board) (line : List UInt8) :
    (board.core.dispatch line).core = (board.dispatch line).core := by
  unfold dispatch
  rw [show board.core.waiting? = board.waiting? from rfl,
    show board.core.circuit = board.circuit from rfl]
  cases board.waiting? with
  | some slot => rfl
  | none =>
      cases board.circuit.command? line with
      | some command => exact core_act { board with dispatched := board.dispatched + 1 } command
      | none => rfl

theorem core_feed (board : Board) (byte : UInt8) :
    (board.core.feed byte).core = (board.feed byte).core := by
  unfold feed
  rw [show board.core.pending = board.pending from rfl,
    show board.core.circuit = board.circuit from rfl]
  split
  · exact core_dispatch { board with pending := [] } _
  · split
    · rfl
    · rfl

/-- Boards alike stay alike. -/
theorem core_feed_congr {board board' : Board} (h : board.core = board'.core) (byte : UInt8) :
    (board.feed byte).core = (board'.feed byte).core := by
  rw [← core_feed, h, core_feed]

theorem core_feedAll_congr {bytes : List UInt8} :
    ∀ {board board' : Board}, board.core = board'.core →
      (board.feedAll bytes).core = (board'.feedAll bytes).core := by
  induction bytes with
  | nil => exact fun h => h
  | cons byte rest ih => exact fun h => ih (core_feed_congr h byte)

theorem feedAll_append (board : Board) (bytes more : List UInt8) :
    board.feedAll (bytes ++ more) = (board.feedAll bytes).feedAll more :=
  List.foldl_append

theorem feedAll_circuit (board : Board) (bytes : List UInt8) :
    (board.feedAll bytes).circuit = board.circuit := by
  induction bytes generalizing board with
  | nil => rfl
  | cons byte rest ih =>
      show ((board.feed byte).feedAll rest).circuit = _
      rw [ih, feed_circuit]

theorem feedAll_reaches {circuit : Circuit} (bytes : List UInt8) :
    circuit.Reaches (circuit.start.feedAll bytes) := by
  refine ⟨bytes.map .byte, ?_⟩
  unfold run feedAll
  rw [List.foldl_map]
  rfl

end Board

-- =============================================================== slots

section Slots

variable {circuit : Circuit} {assignments : List Assignment}

theorem act_slots (hs : Served assignments) (hseparate : Separate (speedPins assignments))
    {board : Board} {waits : String → Bool}
    (hslots : board.slots = slotsOf (speedPins assignments) waits)
    {command : Command} (hc : command ∈ commandTable assignments) :
    ∃ waits', (board.act command).slots = slotsOf (speedPins assignments) waits' := by
  unfold Board.act
  cases haction : command.action with
  | awaitSpeed pwm =>
      obtain ⟨a, ha, hmem⟩ := List.mem_flatMap.1 hc
      have hmotor := mem_speedPins_of_awaitSpeed (hs.fits a ha) ha hmem haction
      refine ⟨overlay waits a.name true, ?_⟩
      show beginAwaiting pwm board.slots = _
      rw [hslots]
      exact beginAwaiting_slotsOf hseparate hmotor
  | _ => exact ⟨waits, hslots⟩

theorem dispatch_slots (hs : Served assignments) (hseparate : Separate (speedPins assignments))
    {board : Board} (hcommands : board.circuit.commands = commandTable assignments)
    {waits : String → Bool} (hslots : board.slots = slotsOf (speedPins assignments) waits)
    (line : List UInt8) :
    ∃ waits', (board.dispatch line).slots = slotsOf (speedPins assignments) waits' := by
  unfold Board.dispatch
  have hwaiting : board.waiting?
      = ((speedPins assignments).find? fun motor => waits motor.1).map fun motor =>
          slotOf motor (waits motor.1) := by
    unfold Board.waiting?
    rw [hslots, find?_awaiting_slotsOf]
  cases hfirst : (speedPins assignments).find? fun motor => waits motor.1 with
  | some motor =>
      rw [hfirst] at hwaiting
      rw [hwaiting]
      refine ⟨overlay waits motor.1 false, ?_⟩
      show endAwaiting board.slots = _
      rw [hslots]
      exact endAwaiting_slotsOf hseparate hfirst
  | none =>
      rw [hfirst] at hwaiting
      rw [hwaiting]
      simp only [Option.map_none]
      cases hfind : board.circuit.command? line with
      | none => exact ⟨waits, hslots⟩
      | some command =>
          have hc : command ∈ commandTable assignments :=
            hcommands ▸ List.mem_of_find?_eq_some hfind
          have hcounted :
              ({ board with dispatched := board.dispatched + 1 } : Board).slots
                = slotsOf (speedPins assignments) waits := hslots
          exact act_slots hs hseparate hcounted hc

/-- On every board that is reached the slots are those of the motors. -/
theorem run_slots (hs : Served assignments) (hseparate : Separate (speedPins assignments))
    (inputs : List Input) :
    ∀ {board : Board}, board.circuit.commands = commandTable assignments →
      (∃ waits, board.slots = slotsOf (speedPins assignments) waits) →
      ∃ waits, (board.run inputs).slots = slotsOf (speedPins assignments) waits := by
  induction inputs with
  | nil => exact fun _ h => h
  | cons input rest ih =>
      intro board hcommands h
      have hcommands' : (board.react input).circuit.commands = commandTable assignments := by
        rw [Board.react_circuit]
        exact hcommands
      refine ih hcommands' ?_
      obtain ⟨waits, hslots⟩ := h
      cases input with
      | byte byte =>
          show ∃ waits', (board.feed byte).slots = _
          unfold Board.feed
          split
          · let emptied : Board := { board with pending := [] }
            have hemptied : emptied.slots = slotsOf (speedPins assignments) waits := hslots
            have htable : emptied.circuit.commands = commandTable assignments := hcommands
            exact dispatch_slots hs hseparate htable hemptied _
          · split
            · exact ⟨waits, hslots⟩
            · exact ⟨waits, hslots⟩
      | reading pin raw => exact ⟨waits, hslots⟩
      | range sensor distance => exact ⟨waits, hslots⟩
      | take => exact ⟨waits, hslots⟩

-- ================================================================ rest

/-- A board of some circuit at the start of a line, with the slots it was
switched on with. -/
structure Board.AtRest (circuit : Circuit) (board : Board) : Prop where
  pending : board.pending = []
  slots : board.slots = circuit.start.slots
  circuit : board.circuit = circuit

theorem Board.AtRest.idle {board : Board} (h : board.AtRest circuit) :
    board.waiting? = none := by
  unfold Board.waiting?
  rw [h.slots]
  exact start_idle circuit

theorem start_atRest (circuit : Circuit) : circuit.start.AtRest circuit := ⟨rfl, rfl, rfl⟩

theorem Board.AtRest.congr {board board' : Board} (h : board.AtRest circuit)
    (hcore : board'.core = board.core) : board'.AtRest circuit where
  pending := (congrArg Board.pending hcore).trans h.pending
  slots := (congrArg Board.slots hcore).trans h.slots
  circuit := (congrArg Board.circuit hcore).trans h.circuit

/-- A reachable board with no unfinished line and no motor waiting is at
rest. -/
theorem atRest_of_reaches (hs : Served assignments)
    (hseparate : Separate (speedPins assignments))
    (hcommands : circuit.commands = commandTable assignments)
    {board : Board} (hreaches : circuit.Reaches board) (hpending : board.pending = [])
    (hidle : board.waiting? = none) : board.AtRest circuit := by
  have hstart : circuit.start.slots = slotsOf (speedPins assignments) fun _ => false := by
    show speedSlots circuit.commands = _
    rw [hcommands]
    exact speedSlots_commandTable hs.fits
  refine ⟨hpending, ?_, Board.circuit_of_reaches hreaches⟩
  obtain ⟨inputs, rfl⟩ := hreaches
  obtain ⟨waits, hslots⟩ : ∃ waits, (circuit.start.run inputs).slots
      = slotsOf (speedPins assignments) waits :=
    run_slots hs hseparate inputs hcommands ⟨_, hstart⟩
  unfold Board.waiting? at hidle
  rw [hslots, find?_awaiting_slotsOf, Option.map_eq_none_iff, List.find?_eq_none] at hidle
  rw [hslots, hstart]
  -- nobody waits, so the function that says who does is constantly false
  refine List.map_congr_left fun motor hmotor => ?_
  have hfalse : waits motor.1 = false := by simpa using hidle motor hmotor
  rw [hfalse]

end Slots

-- ======================================================= whole messages

/-- A board after the frame of a message. -/
def Board.hear (board : Board) (message : String) : Board :=
  board.feedAll (Frame.ofMessage message).bytes

section Messages

variable {circuit : Circuit} {assignments : List Assignment} {board : Board}

/-- The line of a command for which there is room is kept whole, and
recognised. -/
theorem line_kept (hs : Served assignments)
    (hcommands : circuit.commands = commandTable assignments) {command : Command}
    (hc : command ∈ commandTable assignments) (hfits : command.line.length ≤ circuit.capacity) :
    (Utf8.encode command.line).take circuit.capacity = Utf8.encode command.line
      ∧ circuit.command? (Utf8.encode command.line) = some command := by
  refine ⟨List.take_of_length_le ?_, (command?_eq_some_iff hs hcommands).2 ⟨hc, rfl⟩⟩
  rw [encode_plain (table_plain hs hc), List.length_map, String.length_toList]
  exact hfits

/-- At rest the line of a command, if there is room for it, does what the
command says. -/
theorem hear_command (hs : Served assignments)
    (hcommands : circuit.commands = commandTable assignments) (hrest : board.AtRest circuit)
    {command : Command} (hc : command ∈ commandTable assignments)
    (hfits : command.line.length ≤ circuit.capacity) :
    board.hear command.line = { board with dispatched := board.dispatched + 1 }.act command := by
  have hplain := table_plain hs hc
  obtain ⟨hkept, hfind⟩ := line_kept hs hcommands hc hfits
  rw [← hrest.circuit] at hkept hfind
  unfold Board.hear
  rw [frame_plain hplain]
  show board.feedAll (Utf8.encode command.line ++ [lineEnd]) = _
  rw [feedAll_idle (encode_plain_bytes hplain) hrest.pending hrest.idle, hkept, hfind]

/-- A command that writes a pin writes it, and leaves the board at
rest. -/
theorem hear_write (hs : Served assignments)
    (hcommands : circuit.commands = commandTable assignments) (hrest : board.AtRest circuit)
    {command : Command} (hc : command ∈ commandTable assignments)
    (hfits : command.line.length ≤ circuit.capacity) {pin : Pin} {level : Level}
    (haction : command.action = .write pin level) :
    board.hear command.line = { board with
        levels := overlay board.levels pin.number (some level)
        dispatched := board.dispatched + 1 }
      ∧ (board.hear command.line).AtRest circuit := by
  have heard : board.hear command.line = { board with
      levels := overlay board.levels pin.number (some level)
      dispatched := board.dispatched + 1 } := by
    rw [hear_command hs hcommands hrest hc hfits]
    unfold Board.act
    rw [haction]
  refine ⟨heard, ?_⟩
  rw [heard]
  exact ⟨hrest.pending, hrest.slots, hrest.circuit⟩

-- ============================================================== duties

/-- What a board that keeps some bytes of a line keeps of a message. -/
def keptOf (capacity : Nat) (message : String) : List UInt8 :=
  ((message.toList.map sentByte).take capacity).takeWhile (· ≠ 0)

/-- A message behind an unfinished line is one line with it. -/
theorem hear_behind (hroom : board.pending.length ≤ board.circuit.capacity) (message : String) :
    board.hear message = { board with pending := [] }.dispatch
      (((board.pending ++ message.toList.map sentByte).take board.circuit.capacity).takeWhile
        (· ≠ 0)) := by
  unfold Board.hear
  rw [Frame.bytes_ofMessage, Board.feedAll_append,
    Board.feedAll_open (sentByte_line message) hroom]
  show Board.feed _ lineEnd = _
  unfold Board.feed
  rw [if_pos rfl]

theorem hear_eq_dispatch (hpending : board.pending = []) (message : String) :
    board.hear message = board.dispatch (keptOf board.circuit.capacity message) := by
  rw [hear_behind (by rw [hpending]; exact Nat.zero_le _), hpending, List.nil_append]
  unfold keptOf
  rw [show { board with pending := [] } = board by rw [← hpending]]

/-- If nobody else waits, the first motor that waits is the one that was
made to. -/
theorem find?_overlay {motors : List (String × Pin)} (hseparate : Separate motors)
    {motor : String × Pin} (hmem : motor ∈ motors) :
    (motors.find? fun m => overlay (fun _ => false) motor.1 true m.1) = some motor := by
  induction motors with
  | nil => cases hmem
  | cons first rest ih =>
      obtain ⟨hname, -⟩ := List.nodup_cons.1 hseparate.names
      rw [List.find?_cons]
      rcases List.mem_cons.1 hmem with rfl | hmem
      · rw [overlay_same]
      · have hother : first.1 ≠ motor.1 := fun heq => hname (heq ▸ List.mem_map_of_mem hmem)
        rw [overlay_other _ _ hother]
        exact ih hseparate.of_cons hmem

/-- At rest, a command for a duty makes its motor wait, and no other. -/
theorem hear_awaitSpeed (hs : Served assignments)
    (hseparate : Separate (speedPins assignments))
    (hcommands : circuit.commands = commandTable assignments) (hrest : board.AtRest circuit)
    {a : Assignment} (ha : a ∈ assignments) {command : Command} (hc : command ∈ a.commands)
    (hfits : command.line.length ≤ circuit.capacity) {pwm : Pin}
    (haction : command.action = .awaitSpeed pwm) :
    (board.hear command.line).waiting? = some (slotOf (a.name, pwm) true)
      ∧ board.hear command.line = { board with
          slots := beginAwaiting pwm circuit.start.slots
          dispatched := board.dispatched + 1 } := by
  have hmotor := mem_speedPins_of_awaitSpeed (hs.fits a ha) ha hc haction
  have heard : board.hear command.line = { board with
      slots := beginAwaiting pwm circuit.start.slots
      dispatched := board.dispatched + 1 } := by
    rw [hear_command hs hcommands hrest (List.mem_flatMap.2 ⟨a, ha, hc⟩) hfits]
    unfold Board.act
    rw [haction, ← hrest.slots]
  refine ⟨?_, heard⟩
  rw [heard]
  show (beginAwaiting pwm (speedSlots circuit.commands)).find? SpeedSlot.awaiting = _
  rw [hcommands, speedSlots_commandTable hs.fits, beginAwaiting_slotsOf hseparate hmotor,
    find?_awaiting_slotsOf, find?_overlay hseparate hmotor, Option.map_some, overlay_same]

/-- A waiting motor takes the next message, whatever it is, as its duty;
and when that motor is the only one, the board is at rest again. -/
theorem hear_duty (hs : Served assignments) (hseparate : Separate (speedPins assignments))
    (hcommands : circuit.commands = commandTable assignments) (hrest : board.AtRest circuit)
    {a : Assignment} (ha : a ∈ assignments) {command : Command} (hc : command ∈ a.commands)
    (hfits : command.line.length ≤ circuit.capacity) {pwm : Pin}
    (haction : command.action = .awaitSpeed pwm) (message : String) :
    (board.hear command.line).hear message = { board with
        duties := overlay board.duties pwm.number
          (some (dutyOfLine (keptOf circuit.capacity message)))
        dispatched := board.dispatched + 2 }
      ∧ ((board.hear command.line).hear message).AtRest circuit := by
  have hmotor := mem_speedPins_of_awaitSpeed (hs.fits a ha) ha hc haction
  obtain ⟨hwaiting, heard⟩ :=
    hear_awaitSpeed hs hseparate hcommands hrest ha hc hfits haction
  have hends : endAwaiting (beginAwaiting pwm circuit.start.slots) = circuit.start.slots := by
    show endAwaiting (beginAwaiting pwm (speedSlots circuit.commands)) = speedSlots _
    rw [hcommands, speedSlots_commandTable hs.fits, beginAwaiting_slotsOf hseparate hmotor,
      endAwaiting_slotsOf hseparate (find?_overlay hseparate hmotor)]
    refine List.map_congr_left fun m _ => ?_
    unfold overlay
    split
    · rfl
    · rfl
  have hset : (board.hear command.line).hear message = { board with
      duties := overlay board.duties pwm.number
        (some (dutyOfLine (keptOf circuit.capacity message)))
      dispatched := board.dispatched + 2 } := by
    have hpending : (board.hear command.line).pending = [] := by
      rw [heard]
      exact hrest.pending
    rw [hear_eq_dispatch hpending]
    unfold Board.dispatch
    rw [hwaiting]
    simp only [Board.setDuty, heard, hrest.circuit]
    rw [hends, ← hrest.slots]
    rfl
  refine ⟨hset, ?_⟩
  rw [hset]
  exact ⟨hrest.pending, hrest.slots, hrest.circuit⟩

end Messages

end SerialEndpoint
