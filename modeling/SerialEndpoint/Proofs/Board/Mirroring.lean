/-
The board as a machine of lines. A board is fed bytes, keeps a state for
every motor, finds motors by pin and by position, and takes the first that
waits. Seen from outside it is the line machine (`board_is_line_machine`).

# The invariant

`Mirrors` ties a board to a line machine, with the bytes of the line that is
begun and the output that was taken away so far. What can be seen is the same
on both sides. What cannot is matched as follows:

- the slots are those of the motors, and the one that waits is the machine's
  (`waitsFor`). So at most one motor ever waits, which is true because while
  one does no line is looked up as a command;
- the unfinished line is what the board has room for of the bytes begun. The
  machine gets the line as it came and cuts it itself when it ends;
- the output, with what was taken away in front of it, is the replies with
  their line ends. A machine never gives any output away.

# Why an input keeps it

A byte that ends no line goes on with the one that is begun
(`Mirrors.goes_on`). Readings change the same thing on both sides, and output
that is taken goes from one part of a concatenation to the next. All the work
is in a line end, where both sides take the line (`Mirrors.dispatch`):

- somebody waits. The slot that the board finds is that of the machine's motor
  (`Mirrors.waiting?`), and both take the line as its duty;
- nobody waits. The board finds the first command with this line and the
  machine asks for the only one, which is the same as lines are different
  (`filter_commands`). The command is performed on both sides
  (`Mirrors.act`); one that waits for a duty makes a motor wait that is among
  the motors, by its name and by its pin alike.

`Mirrors.run` goes over the inputs, and the events of the machine are cut out
of the same inputs by `eventsIn`.
-/
import SerialEndpoint.Proofs.Board.LineMachine
import SerialEndpoint.Proofs.Board.Rest

namespace SerialEndpoint

-- ============================================================== mirrors

/-- Who waits, if one motor does or none. -/
def waitsFor : Option (String × Pin) → String → Bool
  | none, _ => false
  | some motor, name => name = motor.1

theorem overlay_waitsFor (motor : String × Pin) :
    overlay (waitsFor none) motor.1 true = waitsFor (some motor)
      ∧ overlay (waitsFor (some motor)) motor.1 false = waitsFor none := by
  constructor
  all_goals
    funext name
    unfold overlay waitsFor
    by_cases hname : name = motor.1
    · simp [hname]
    · simp [hname]

/-- The first motor that waits is the one that does. -/
theorem find?_waitsFor {motors : List (String × Pin)} (hseparate : Separate motors)
    {motor : String × Pin} (hmem : motor ∈ motors) :
    (motors.find? fun m => waitsFor (some motor) m.1) = some motor := by
  rw [← (overlay_waitsFor motor).1]
  exact find?_overlay hseparate hmem

/-- The bytes of some replies. -/
def repliedBytes (replies : List String) : List UInt8 :=
  replies.flatMap fun reply => withEnd (Utf8.encode reply)

/-- A board that a line machine mirrors: some motors are waiting by turns,
some bytes of a line are begun, and some output was taken away. -/
structure Mirrors (circuit : Circuit) (motors : List (String × Pin)) (begun taken : List UInt8)
    (machine : LineMachine) (board : Board) : Prop where
  levels : board.levels = machine.levels
  duties : board.duties = machine.duties
  readings : board.readings = machine.readings
  ranges : board.ranges = machine.ranges
  slots : board.slots = slotsOf motors (waitsFor machine.waiting)
  waiting : ∀ motor, machine.waiting = some motor → motor ∈ motors
  pending : board.pending = begun.take circuit.capacity
  output : taken ++ board.output = repliedBytes machine.replies
  dispatched : board.dispatched = machine.dispatched
  unmatched : board.unmatched = machine.unmatched
  circuit : board.circuit = circuit

/-- What is taken away by an input. -/
def Board.takenBy (board : Board) : Input → List UInt8
  | .take => board.output
  | _ => []

/-- All that is taken away in the course of some inputs. -/
def Board.takenIn (board : Board) : List Input → List UInt8
  | [] => []
  | input :: rest => board.takenBy input ++ (board.react input).takenIn rest

section Mirrors

variable {circuit : Circuit} {assignments : List Assignment} {begun taken : List UInt8}
  {machine : LineMachine} {board : Board}

theorem Mirrors.reply {motors : List (String × Pin)}
    (h : Mirrors circuit motors begun taken machine board) (text : String) :
    Mirrors circuit motors begun taken (machine.reply text) (board.reply text) :=
  { h with
    output := by
      show taken ++ (board.output ++ Utf8.encode text ++ [lineEnd]) = repliedBytes (_ ++ [text])
      unfold repliedBytes
      rw [List.flatMap_append, List.flatMap_singleton, List.append_assoc, ← List.append_assoc,
        h.output]
      rfl }

/-- A command that is performed while nobody waits. -/
theorem Mirrors.act (hs : Served assignments) (hseparate : Separate (speedPins assignments))
    (h : Mirrors circuit (speedPins assignments) begun taken machine board)
    (hidle : machine.waiting = none) {command : Command}
    (hc : command ∈ commandTable assignments) :
    Mirrors circuit (speedPins assignments) begun taken (machine.act circuit command)
      (board.act command) := by
  unfold LineMachine.act Board.act
  cases haction : command.action with
  | write pin level =>
      exact { h with
        levels := by
          show overlay board.levels _ _ = overlay machine.levels _ _
          rw [h.levels] }
  | awaitSpeed pwm =>
      obtain ⟨a, ha, hmem⟩ := List.mem_flatMap.1 hc
      have hmotor := mem_speedPins_of_awaitSpeed (hs.fits a ha) ha hmem haction
      rw [← commands_component a command hmem] at hmotor
      exact { h with
        slots := by
          show beginAwaiting pwm board.slots = slotsOf _ (waitsFor (some (command.component, pwm)))
          rw [h.slots, hidle, beginAwaiting_slotsOf hseparate hmotor, (overlay_waitsFor _).1]
        waiting := by
          rintro motor hwaits
          cases hwaits
          exact hmotor }
  | readVoltage pin =>
      have hreading : board.circuit.voltage.reply (board.readings pin.number)
          = circuit.voltage.reply (machine.readings pin.number) := by
        rw [h.circuit, h.readings]
      simp only [hreading]
      exact h.reply _
  | readDistance =>
      simp only [h.circuit, h.ranges]
      exact h.reply _
  | placeholder => exact h

/-- The commands that have a line are the one that is looked up. -/
theorem filter_commands (hs : Served assignments)
    (hcommands : circuit.commands = commandTable assignments) (kept : List UInt8) :
    (circuit.commands.filter fun command => Utf8.encode command.line == kept)
      = (circuit.command? kept).toList := by
  cases hfind : circuit.command? kept with
  | none =>
      have hnone := command?_eq_none_iff.1 hfind
      apply List.filter_eq_nil_iff.2
      intro command hmem hline
      exact hnone command hmem (beq_iff_eq.1 hline)
  | some command =>
      have hfirst : (circuit.commands.filter _).head? = some command :=
        (List.head?_filter ..).trans hfind
      obtain ⟨rest, hfilter⟩ := List.head?_eq_some_iff.1 hfirst
      have hnodup : (circuit.commands.filter fun c => Utf8.encode c.line == kept).Nodup := by
        rw [hcommands]
        exact (commandLines_nodup hs).of_map.filter _
      rw [hfilter] at hnodup ⊢
      -- another one would be looked up as well
      cases rest with
      | nil => rfl
      | cons other rest =>
          have hother : other ∈ circuit.commands.filter fun c => Utf8.encode c.line == kept :=
            hfilter ▸ List.mem_cons_of_mem _ (List.mem_cons_self ..)
          obtain ⟨hmem, hline⟩ := List.mem_filter.1 hother
          have hlooked := (command?_eq_some_iff hs hcommands).2
            ⟨hcommands ▸ hmem, beq_iff_eq.1 hline⟩
          have hsame : command = other := Option.some.inj (hfind.symm.trans hlooked)
          subst hsame
          exact absurd (List.mem_cons_self ..) (List.nodup_cons.1 hnodup).1

/-- The slot that a board finds waiting is that of the one motor. -/
theorem Mirrors.waiting? (hseparate : Separate (speedPins assignments))
    (h : Mirrors circuit (speedPins assignments) begun taken machine board) :
    board.waiting? = machine.waiting.map fun motor => slotOf motor true := by
  unfold Board.waiting?
  rw [h.slots, find?_awaiting_slotsOf]
  cases hwaits : machine.waiting with
  | none =>
      have hnobody : ((speedPins assignments).find? fun m => waitsFor none m.1) = none :=
        List.find?_eq_none.2 fun _ _ => Bool.false_ne_true
      rw [hnobody]
      rfl
  | some motor =>
      rw [find?_waitsFor hseparate (h.waiting motor hwaits)]
      simp [waitsFor]

/-- One line, as a board and as a line machine take it. -/
theorem Mirrors.dispatch (hs : Served assignments) (hseparate : Separate (speedPins assignments))
    (hcommands : circuit.commands = commandTable assignments)
    (h : Mirrors circuit (speedPins assignments) begun taken machine board) (line : List UInt8) :
    Mirrors circuit (speedPins assignments) begun taken (machine.take circuit line)
      (board.dispatch (keptOfLine circuit.capacity line)) := by
  have hwaiting := h.waiting? hseparate
  unfold Board.dispatch
  cases hwaits : machine.waiting with
  | some motor =>
      have hone := find?_waitsFor hseparate (h.waiting motor hwaits)
      have hslots := h.slots
      rw [hwaits] at hslots hwaiting
      rw [LineMachine.take_waiting hwaits, hwaiting]
      exact { h with
        duties := by
          show overlay board.duties motor.2.number _ = overlay machine.duties motor.2.number _
          rw [h.duties, clamp_duty, ← dutyOfLine_eq]
        slots := by
          show endAwaiting board.slots = slotsOf _ (waitsFor none)
          rw [hslots, endAwaiting_slotsOf hseparate hone, (overlay_waitsFor motor).2]
        waiting := fun _ hnone => by cases hnone
        dispatched := congrArg (· + 1) h.dispatched }
  | none =>
      have hfilter := filter_commands hs hcommands (keptOfLine circuit.capacity line)
      have hlooked : board.circuit.command? (keptOfLine circuit.capacity line)
          = circuit.command? (keptOfLine circuit.capacity line) := by rw [h.circuit]
      rw [hwaits] at hwaiting
      rw [LineMachine.take_idle hwaits, hwaiting, hfilter]
      simp only [Option.map_none, hlooked]
      cases hfind : circuit.command? (keptOfLine circuit.capacity line) with
      | none => exact { h with unmatched := congrArg (· + 1) h.unmatched }
      | some command =>
          have hc : command ∈ commandTable assignments :=
            ((command?_eq_some_iff hs hcommands).1 hfind).1
          have hcounted : Mirrors circuit (speedPins assignments) begun taken
              { machine with
                performed := machine.performed ++ [command]
                dispatched := machine.dispatched + 1 }
              { board with dispatched := board.dispatched + 1 } :=
            { h with dispatched := congrArg (· + 1) h.dispatched }
          exact hcounted.act hs hseparate hwaits hc

/-- A byte that ends no line goes on with the one that is begun. -/
theorem Mirrors.goes_on {motors : List (String × Pin)}
    (h : Mirrors circuit motors begun taken machine board) {byte : UInt8}
    (hbyte : byte ≠ lineEnd) :
    Mirrors circuit motors (begun ++ [byte]) taken machine (board.feed byte) := by
  have hroom : board.pending.length ≤ board.circuit.capacity := by
    rw [h.pending, h.circuit]
    exact List.length_take_le ..
  rw [Board.feed_open hbyte hroom]
  exact { h with
    pending := by
      show (board.pending ++ [byte]).take board.circuit.capacity = _
      rw [h.pending, h.circuit, Board.take_take_append] }

/-- A line end makes a line of what is begun. -/
theorem Mirrors.ends (hs : Served assignments) (hseparate : Separate (speedPins assignments))
    (hcommands : circuit.commands = commandTable assignments)
    (h : Mirrors circuit (speedPins assignments) begun taken machine board) :
    Mirrors circuit (speedPins assignments) [] taken (machine.take circuit begun)
      (board.feed lineEnd) := by
  have hemptied : Mirrors circuit (speedPins assignments) [] taken machine
      { board with pending := [] } := { h with pending := List.take_nil.symm }
  have htaken := hemptied.dispatch hs hseparate hcommands begun
  unfold Board.feed
  rw [if_pos rfl, h.pending]
  exact htaken

/-- On any inputs a board and a line machine stay together. -/
theorem Mirrors.run (hs : Served assignments) (hseparate : Separate (speedPins assignments))
    (hcommands : circuit.commands = commandTable assignments) (inputs : List Input) :
    ∀ {begun taken : List UInt8} {machine : LineMachine} {board : Board},
      Mirrors circuit (speedPins assignments) begun taken machine board →
      Mirrors circuit (speedPins assignments) (eventsIn begun inputs).2
        (taken ++ board.takenIn inputs) (machine.run circuit (eventsIn begun inputs).1)
        (board.run inputs) := by
  induction inputs with
  | nil =>
      intro begun taken machine board h
      exact { h with
        output := by
          rw [show board.takenIn [] = [] from rfl, List.append_nil]
          exact h.output }
  | cons input rest ih =>
      intro begun taken machine board h
      cases input with
      | byte byte =>
          rw [eventsIn]
          by_cases hend : byte = lineEnd
          · subst hend
            rw [if_pos rfl]
            exact ih (h.ends hs hseparate hcommands)
          · rw [if_neg hend]
            exact ih (h.goes_on hend)
      | reading pin raw =>
          apply ih
          exact { h with readings := congrArg (overlay · pin raw) h.readings }
      | range sensor distance =>
          apply ih
          exact { h with ranges := congrArg (overlay · sensor distance) h.ranges }
      | take =>
          have hdrained : Mirrors circuit (speedPins assignments) begun (taken ++ board.output)
              machine board.drained :=
            { h with output := (List.append_nil _).trans h.output }
          have hrest := ih hdrained
          rw [List.append_assoc] at hrest
          exact hrest

theorem start_mirrors (hs : Served assignments)
    (hcommands : circuit.commands = commandTable assignments) :
    Mirrors circuit (speedPins assignments) [] [] {} circuit.start where
  levels := rfl
  duties := rfl
  readings := rfl
  ranges := rfl
  slots := by
    show speedSlots circuit.commands = _
    rw [hcommands]
    exact speedSlots_commandTable hs.fits
  waiting _ hnone := by cases hnone
  pending := List.take_nil.symm
  output := rfl
  dispatched := rfl
  unmatched := rfl
  circuit := rfl

end Mirrors

-- ============================================================= the board

/-- What can be seen of a board, with some bytes of a line begun and all
that it has written, is what a line machine shows. -/
structure Shows (assignments : List Assignment) (begun output : List UInt8)
    (machine : LineMachine) (board : Board) : Prop where
  levels : board.levels = machine.levels
  duties : board.duties = machine.duties
  /-- Of the motors with a speed command the one that waits is the
  machine's. -/
  awaiting : ∀ motor, board.awaiting? motor =
    if motor ∈ (speedPins assignments).map Prod.fst then
      some (machine.waiting.map Prod.fst == some motor)
    else none
  pending : board.pending = begun.take board.circuit.capacity
  dispatched : board.dispatched = machine.dispatched
  unmatched : board.unmatched = machine.unmatched
  output : output = repliedBytes machine.replies

section Shown

variable {circuit : Circuit} {assignments : List Assignment} {begun taken : List UInt8}
  {machine : LineMachine} {board : Board}

theorem awaiting_slotsOf (motors : List (String × Pin)) (waiting : Option (String × Pin))
    (motor : String) :
    ((slotsOf motors (waitsFor waiting)).find? fun slot => slot.motor = motor).map
        SpeedSlot.awaiting
      = if motor ∈ motors.map Prod.fst then some (waiting.map Prod.fst == some motor)
        else none := by
  have hwaits : ∀ name, waitsFor waiting name = (waiting.map Prod.fst == some name) := by
    intro name
    cases waiting with
    | none => rfl
    | some waiter =>
        show decide (name = waiter.1) = (some waiter.1 == some name)
        rw [Option.some_beq_some, beq_eq_decide, decide_eq_decide]
        exact eq_comm
  induction motors with
  | nil => rfl
  | cons first rest ih =>
      rw [slotsOf_cons, List.find?_cons, List.map_cons]
      by_cases hname : first.1 = motor
      · subst hname
        rw [show decide ((slotOf first _).motor = first.1) = true from decide_eq_true rfl,
          if_pos (List.mem_cons_self ..), ← hwaits]
        rfl
      · rw [show decide ((slotOf first _).motor = motor) = false from decide_eq_false hname]
        simp only [List.mem_cons, Ne.symm hname, false_or]
        exact ih

theorem Mirrors.shows (h : Mirrors circuit (speedPins assignments) begun taken machine board) :
    Shows assignments begun (taken ++ board.output) machine board where
  levels := h.levels
  duties := h.duties
  awaiting motor := by
    unfold Board.awaiting?
    rw [h.slots]
    exact awaiting_slotsOf ..
  pending := by rw [h.pending, h.circuit]
  dispatched := h.dispatched
  unmatched := h.unmatched
  output := h.output

theorem Mirrors.one_waits (hseparate : Separate (speedPins assignments))
    (h : Mirrors circuit (speedPins assignments) begun taken machine board) :
    board.slots.countP SpeedSlot.awaiting ≤ 1 := by
  rw [h.slots, slotsOf, List.countP_map]
  cases machine.waiting with
  | none => simp [Function.comp_def, slotOf, waitsFor]
  | some motor =>
      have hcount := List.nodup_iff_count_le_one.1 hseparate.names motor.1
      rw [List.count, List.countP_map] at hcount
      refine (List.countP_mono_left ?_).trans hcount
      intro m _ hwaits
      simpa [slotOf, waitsFor] using hwaits

end Shown

/-- Whatever is rendered, on any inputs the board does what the line machine
does on the lines of the bytes that are fed. So at most one motor waits,
every line end is counted once, and all that is written is one line for
each command that is replied to. -/
theorem board_is_line_machine {generator : Generator} {agent : Agent} {artifacts : Artifacts}
    (havailable : generator.pools.Available) (hrender : generator.render agent = .ok artifacts)
    {circuit : Circuit} (hcommands : circuit.commands = commandTable artifacts.assignments)
    (htoken : '\n' ∉ circuit.ranging.timeoutToken.toList) (inputs : List Input) :
    let board := circuit.start.run inputs
    let split := eventsIn [] inputs
    let machine := LineMachine.run circuit {} split.1
    let output := circuit.start.takenIn inputs ++ board.output
    split.1.filterMap Event.line? = endedLines (bytesFed inputs)
      ∧ split.2 = unfinished (bytesFed inputs)
      ∧ Shows artifacts.assignments split.2 output machine board
      ∧ board.slots.countP SpeedSlot.awaiting ≤ 1
      ∧ board.dispatched + board.unmatched = (bytesFed inputs).count lineEnd
      ∧ endedLines output = machine.replies.map Utf8.encode ∧ unfinished output = []
      ∧ machine.replies.length = machine.performed.countP (·.action.replies) := by
  have hr := rendered_of_render hrender
  have hseparate := hr.separate havailable
  intro board split machine output
  obtain ⟨hlines, hbegun⟩ := eventsIn_lines inputs List.not_mem_nil
  rw [List.nil_append] at hlines hbegun
  have hmirrors : Mirrors circuit _ split.2 (circuit.start.takenIn inputs) machine board :=
    (start_mirrors hr.served hcommands).run hr.served hseparate hcommands inputs
  obtain ⟨hcounted, hcounts⟩ := LineMachine.run_counts circuit split.1 LineMachine.start_counted
  have hunbroken : machine.Unbroken :=
    LineMachine.Unbroken.run htoken split.1 fun _ hreply => absurd hreply List.not_mem_nil
  have hreplies : ∀ line ∈ machine.replies.map Utf8.encode, lineEnd ∉ line := by
    intro line hline
    obtain ⟨reply, hreply, rfl⟩ := List.mem_map.1 hline
    exact lineEnd_notMem_encode (hunbroken reply hreply)
  have houtput : output = (machine.replies.map Utf8.encode).flatMap withEnd ++ [] := by
    rw [List.append_nil, List.flatMap_map]
    exact hmirrors.output
  obtain ⟨hended, hopen⟩ := lines_withEnd hreplies []
  rw [← houtput] at hended hopen
  refine ⟨hlines, hbegun, hmirrors.shows, hmirrors.one_waits hseparate, ?_, ?_, hopen, hcounted⟩
  · rw [hmirrors.dispatched, hmirrors.unmatched, show machine.dispatched + _ = _ from hcounts,
      show split.1.filterMap _ = _ from hlines, endedLines_length]
    exact Nat.zero_add _
  · rw [hended]
    exact List.append_nil _

/-- A motor waits, so the next line, a command to a switch, is its duty;
output is taken away in the middle of that line. -/
theorem board_is_line_machine_rover :
    let circuit := ({} : Firmware).circuit roverAssignments
    let inputs := (Utf8.encode "MOTOR_SPEED Left\nSWITCH_").map Input.byte ++
      .take :: (Utf8.encode "OPEN S1\nVL53L0X_COLLECT Front\nSWITCH_OPEN").map Input.byte
    let board := circuit.start.run inputs
    (∃ generator, Generator.ofParts .uno {} = .ok generator
        ∧ generator.render rover = .ok (roverArtifacts {}))
      ∧ board.duties 3 = some 0 ∧ board.levels 5 = none ∧ board.awaiting? "Left" = some false
      ∧ board.pending = Utf8.encode "SWITCH_OPEN" ∧ board.dispatched + board.unmatched = 3
      ∧ endedLines (circuit.start.takenIn inputs ++ board.output) = [Utf8.encode "TIMEOUT"] := by
  intro circuit inputs board
  have haccepted : ({} : Firmware).refusal? = none := by decide +kernel
  have hrender : Generator.render ⟨.uno, {}, haccepted⟩ rover
      = .ok (roverArtifacts {}) := render_rover rfl
  have htoken : '\n' ∉ circuit.ranging.timeoutToken.toList := by decide
  obtain ⟨-, -, hshows, -, hcounts, hended, -, -⟩ :=
    @board_is_line_machine _ _ _ (.own .uno) hrender circuit rfl htoken inputs
  refine ⟨⟨_, ofParts_accepted .uno haccepted, hrender⟩, ?_, ?_, ?_, ?_, ?_, ?_⟩
  · rw [hshows.duties]
    decide +kernel
  · rw [hshows.levels]
    decide +kernel
  · rw [hshows.awaiting]
    decide +kernel
  · rw [hshows.pending]
    decide +kernel
  · rw [hcounts]
    decide +kernel
  · rw [hended]
    decide +kernel

end SerialEndpoint
