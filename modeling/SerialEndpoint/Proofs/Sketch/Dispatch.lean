/-
What a sketch does with one line is what the board does with it
(`take?_follows`).

# What is related

`Follows` relates what a line can change: the states of the motors, the pins,
what the sensors see and the output. The two sides find the motor that waits
by different means, the sketch by its variables and the board by its slots.
Both are told by one function that says who waits (`statesOf`, `slotsOf`), and
`Follows` says that there is such a function. To set a variable is then to
change this function at one name (`overlay_statesOf`), and the same is known
of the slots.

`Kept` says what a line cannot change: the accumulator, its index and what
has arrived. The loop needs it, because it goes on with all three after the
call.

# A line that is a duty

The branches for the duties come first in the function, and the first one
whose variable waits is taken and left (`runItems_duties`). The board takes
the first slot that waits. The slots stand in the order of the branches, so
both take the same motor, and the number in the line, kept between the two
bounds, is the duty that the board reads (`ofInt_constrain`). Afterwards the
motor no longer waits on either side (`dispatch_waiting`).

# A line that is a command

If no motor waits, the branches for the duties do nothing. The commands are
compared in order and the first that is equal is taken (`runItems_commands`),
as on the board (`command?_rows`). The comparison ends at the first zero of
the line; no command holds a zero, so nothing of a command is lost in it.

The instructions of a command do what the command does
(`runInstructions_act`), with one case for each action:

- a level is written to the same pin;
- a motor begins to wait in its variable and in its slot;
- a voltage and a distance are printed as the board replies them, into the
  same output.

# A line that is neither

Nothing is done on either side but for the board's count of unmatched lines,
and a sketch has no such count.
-/
import SerialEndpoint.Proofs.Board.Slots
import SerialEndpoint.Proofs.Sketch.Machine
import SerialEndpoint.Proofs.Sketch.Reading

namespace SerialEndpoint

open Sketch

-- ====================================================== texts, numbers

/-- A number kept between zero and the full duty is the duty of its
line. -/
theorem ofInt_constrain (line : List UInt8) :
    UInt8.ofInt (constrain (leadingInt line) (0 : Nat) fullDuty) = dutyOfLine line := by
  have hduty : constrain (leadingInt line) (0 : Nat) fullDuty
      = (min (leadingInt line).toNat fullDuty : Nat) := by
    unfold constrain fullDuty
    split
    · omega
    · split
      · omega
      · omega
  unfold UInt8.ofInt
  rw [dutyOfLine_eq, hduty]
  congr 1
  unfold fullDuty
  omega

theorem upToZero_eq_self {text : List UInt8} (h : ∀ b ∈ text, b ≠ 0) :
    upToZero text = text := by
  unfold upToZero
  rw [List.takeWhile_eq_self_iff]
  intro b hb
  simpa using h b hb

-- =============================================================== states

/-- The variables of some motors, given who waits. -/
def statesOf (motors : List (String × Pin)) (waits : String → Bool) (state : String) :
    Option Bool :=
  (motors.find? fun motor => "speedState" ++ motor.1 = state).map fun motor =>
    waits motor.1

theorem speedVariable_injective {name name' : String}
    (h : "speedState" ++ name = "speedState" ++ name') : name = name' :=
  String.append_right_inj _ |>.1 h

theorem statesOf_mem {motors : List (String × Pin)} {waits : String → Bool}
    {motor : String × Pin} (hmem : motor ∈ motors) :
    statesOf motors waits ("speedState" ++ motor.1) = some (waits motor.1) := by
  unfold statesOf
  cases hfind : motors.find? fun m => "speedState" ++ m.1 = "speedState" ++ motor.1 with
  | none =>
      have := List.find?_eq_none.1 hfind motor hmem
      simp at this
  | some other =>
      have hfound := List.find?_some hfind
      rw [decide_eq_true_eq] at hfound
      rw [Option.map_some, speedVariable_injective hfound]

/-- Setting a motor's variable sets whether the motor waits. -/
theorem overlay_statesOf {motors : List (String × Pin)} {waits : String → Bool}
    {motor : String × Pin} (hmem : motor ∈ motors) (b : Bool) :
    overlay (statesOf motors waits) ("speedState" ++ motor.1) (some b)
      = statesOf motors (overlay waits motor.1 b) := by
  funext state
  by_cases hstate : state = "speedState" ++ motor.1
  · subst hstate
    rw [overlay_same, statesOf_mem hmem, overlay_same]
  · rw [overlay_other _ _ hstate]
    unfold statesOf
    cases hfind : motors.find? fun m => "speedState" ++ m.1 = state with
    | none => rfl
    | some other =>
        have hfound := List.find?_some hfind
        rw [decide_eq_true_eq] at hfound
        have hname : other.1 ≠ motor.1 := by
          intro hname
          rw [hname] at hfound
          exact hstate hfound.symm
        rw [Option.map_some, Option.map_some, overlay_other _ _ hname]

/-- The board's view of a motor is the motor's variable. -/
theorem find?_motor_slotsOf (motors : List (String × Pin)) (waits : String → Bool)
    (name : String) :
    ((slotsOf motors waits).find? fun slot => slot.motor = name).map SpeedSlot.awaiting
      = statesOf motors waits ("speedState" ++ name) := by
  unfold slotsOf statesOf
  rw [List.find?_map, Option.map_map]
  have hsame : ((fun slot : SpeedSlot => decide (slot.motor = name)) ∘ fun motor =>
      slotOf motor (waits motor.1))
        = fun motor : String × Pin => decide ("speedState" ++ motor.1 = "speedState" ++ name) := by
    funext motor
    refine decide_eq_decide.2 ⟨fun h => ?_, speedVariable_injective⟩
    show "speedState" ++ motor.1 = _
    rw [show motor.1 = name from h]
  rw [hsame]
  rfl

-- ============================================================ the duties

/-- The branch that takes the duty of a motor. -/
def dutyItem (motor : String × Pin) : Item :=
  .choice [(.waits ("speedState" ++ motor.1),
    [.analogWrite motor.2.number 0 fullDuty, .setState ("speedState" ++ motor.1) false,
     .leave])]

theorem flatMap_dutyItems (assignments : List Assignment) :
    assignments.flatMap Assignment.dutyItems = (speedPins assignments).map dutyItem := by
  induction assignments with
  | nil => rfl
  | cons a rest ih =>
      rw [List.flatMap_cons, ih]
      unfold Assignment.dutyItems
      cases hpin : a.pin? .pwm with
      | none =>
          rw [speedPins_cons_none hpin]
          rfl
      | some pwm =>
          rw [speedPins_cons_some hpin]
          rfl

section Bodies

variable {voltage : VoltageScale} {ranging : Ranging} {capacity : Nat} {scope : Scope}
  {command : List UInt8}

/-- The duties go to the first motor that waits; without one the body goes
on. -/
theorem runItems_duties (hcommand : scope.command = some command)
    {motors : List (String × Pin)} {waits : String → Bool} {m : Machine}
    (hstates : ∀ motor ∈ motors,
      m.states ("speedState" ++ motor.1) = some (waits motor.1)) :
    runItems voltage ranging capacity scope (motors.map dutyItem) m =
      match motors.find? (fun motor => waits motor.1) with
      | none => some (.onward m)
      | some motor => some (.left { m with
          duties := overlay m.duties motor.2.number (some (dutyOfLine (upToZero command)))
          states := overlay m.states ("speedState" ++ motor.1) (some false) }) := by
  induction motors with
  | nil => rfl
  | cons motor rest ih =>
      have hstate := hstates motor (List.mem_cons_self ..)
      have hrest := ih fun other hmem => hstates other (List.mem_cons_of_mem _ hmem)
      rw [List.map_cons, runItems, List.find?_cons]
      unfold dutyItem Item.run runBranches Guard.holds?
      simp only [hstate]
      cases waits motor.1 with
      | false =>
          simp only [runBranches, Flow.andThen]
          exact hrest
      | true =>
          simp only [runInstructions, Instruction.perform, hcommand, Flow.andThen, hstate,
            ofInt_constrain]

/-- A line is taken by the first command that it equals; without one the
body goes on. -/
theorem runItems_commands (hcommand : scope.command = some command)
    {firmware : Firmware} {rows : List (Assignment × Command)} {m : Machine}
    (hline : ∀ row ∈ rows, ∀ b ∈ Utf8.encode row.2.line, b ≠ 0)
    (hleft : ∀ row ∈ rows, ∃ m', runInstructions voltage ranging scope
      (firmware.instructions row.1 row.2.action ++ [.leave]) m = some (.left m')) :
    runItems voltage ranging capacity scope
        (rows.map fun row => firmware.commandItem row.1 row.2) m =
      match rows.find? (fun row => Utf8.encode row.2.line == upToZero command) with
      | none => some (.onward m)
      | some row => runInstructions voltage ranging scope
          (firmware.instructions row.1 row.2.action ++ [.leave]) m := by
  induction rows with
  | nil => rfl
  | cons row rest ih =>
      have hrest := ih (fun other hmem => hline other (List.mem_cons_of_mem _ hmem))
        (fun other hmem => hleft other (List.mem_cons_of_mem _ hmem))
      have hwhole := upToZero_eq_self (hline row (List.mem_cons_self ..))
      obtain ⟨m', hm'⟩ := hleft row (List.mem_cons_self ..)
      rw [List.map_cons, runItems, List.find?_cons]
      unfold Firmware.commandItem Item.run runBranches Guard.holds?
      simp only [hcommand, Option.map_some, hwhole]
      by_cases heq : upToZero command = Utf8.encode row.2.line
      · have hforth : (upToZero command == Utf8.encode row.2.line) = true := beq_iff_eq.2 heq
        have hback : (Utf8.encode row.2.line == upToZero command) = true :=
          beq_iff_eq.2 heq.symm
        simp only [hforth, hback, hm', Flow.andThen]
      · have hforth : (upToZero command == Utf8.encode row.2.line) = false :=
          beq_eq_false_iff_ne.2 heq
        have hback : (Utf8.encode row.2.line == upToZero command) = false :=
          beq_eq_false_iff_ne.2 fun h => heq h.symm
        simp only [hforth, hback, runBranches, Flow.andThen]
        exact hrest

theorem voltageReply_precision (voltage : VoltageScale) (raw : UInt16) :
    voltageReply voltage voltage.precision raw = voltage.reply raw := by
  unfold voltageReply VoltageScale.reply
  rfl

theorem perform_formatVoltage {m : Machine} {pin : UInt8} {places : Nat} {text : String}
    (htext : voltageReply voltage places (m.readings pin) = text) :
    (Instruction.formatVoltage pin places).perform voltage ranging scope m
      = some (.onward { m with reply := Utf8.encode text }) := by
  subst htext
  rfl

/-- A voltage is replied with a text and a line end. -/
theorem runInstructions_voltage {m : Machine} {pin : UInt8} {size places : Nat}
    {text : String} (htext : voltageReply voltage places (m.readings pin) = text) :
    runInstructions voltage ranging scope
        ([.declareReply size, .formatVoltage pin places, .writeReply, .writeLineEnd]
          ++ [.leave]) m =
      some (.left { m with
        reply := Utf8.encode text
        output := m.output ++ Utf8.encode text ++ [lineEnd] }) := by
  refine (runInstructions_onward rfl).trans ?_
  -- the text is only ever named here: unfolded, it is a division of doubles
  refine (runInstructions_onward (perform_formatVoltage htext)).trans ?_
  refine (runInstructions_onward rfl).trans ?_
  refine (runInstructions_onward rfl).trans ?_
  exact runInstructions_left rfl

end Bodies

theorem Firmware.circuit_voltage (firmware : Firmware) (assignments : List Assignment) :
    (firmware.circuit assignments).voltage = firmware.voltage :=
  rfl

-- ============================================================= one line

/-- A machine whose motors and pins are as on a board. -/
structure Follows (motors : List (String × Pin)) (m : Machine) (board : Board) :
    Prop where
  waits : ∃ waits, board.slots = slotsOf motors waits ∧ m.states = statesOf motors waits
  levels : m.levels = board.levels
  duties : m.duties = board.duties
  readings : m.readings = board.readings
  distances : ∀ name, m.distances ("sensor" ++ name) = board.ranges name
  output : m.output = board.output

theorem Follows.replied {motors : List (String × Pin)} {m : Machine} {board : Board}
    (h : Follows motors m board) (text : String) (reply : List UInt8) :
    Follows motors
      { m with reply, output := m.output ++ Utf8.encode text ++ [lineEnd] }
      (board.reply text) :=
  { h with
    output := by
      show m.output ++ Utf8.encode text ++ [lineEnd] = _
      rw [h.output]
      rfl }

/-- Two machines with one accumulator. -/
structure Kept (m m' : Machine) : Prop where
  accumulator : m'.accumulator = m.accumulator
  index : m'.index = m.index
  arrived : m'.arrived = m.arrived

section Simulation

variable {firmware : Firmware} {assignments : List Assignment} {m : Machine} {board : Board}

/-- The instructions of a command do what the command does on the board,
and leave the function. -/
theorem runInstructions_act (scope : Scope) (hs : Served assignments)
    (hseparate : Separate (speedPins assignments))
    (hfollows : Follows (speedPins assignments) m board)
    (hcircuit : board.circuit = firmware.circuit assignments)
    {a : Assignment} (ha : a ∈ assignments) {command : Command}
    (hc : command ∈ a.commands) :
    ∃ m', runInstructions firmware.voltage firmware.ranging scope
        (firmware.instructions a command.action ++ [.leave]) m = some (.left m')
      ∧ Follows (speedPins assignments) m' (board.act command) ∧ Kept m m' := by
  have hname := commands_component a command hc
  unfold Board.act Firmware.instructions
  cases haction : command.action with
  | write pin level =>
      refine ⟨{ m with levels := overlay m.levels pin.number (some level) }, rfl, ?_,
        rfl, rfl, rfl⟩
      exact { hfollows with
        levels := by
          show overlay m.levels pin.number _ = _
          rw [hfollows.levels] }
  | awaitSpeed pwm =>
      obtain ⟨waits, hslots, hstates⟩ := hfollows.waits
      have hmotor := mem_speedPins_of_awaitSpeed (hs.fits a ha) ha hc haction
      refine ⟨{ m with states := overlay m.states a.speedVariable (some true) }, ?_, ?_,
        rfl, rfl, rfl⟩
      · have hstate : m.states a.speedVariable = some (waits a.name) := by
          rw [hstates]
          exact statesOf_mem hmotor
        simp only [List.cons_append, List.nil_append, runInstructions, Instruction.perform,
          hstate, Flow.andThen]
      · exact { hfollows with
          waits := by
            refine ⟨overlay waits a.name true, ?_, ?_⟩
            · show beginAwaiting pwm board.slots = _
              rw [hslots]
              exact beginAwaiting_slotsOf hseparate hmotor
            · show overlay m.states a.speedVariable _ = _
              rw [hstates]
              exact overlay_statesOf hmotor true }
  | readVoltage pin =>
      have htext : voltageReply firmware.voltage firmware.voltage.precision
          (m.readings pin.number)
            = board.circuit.voltage.reply (board.readings pin.number) := by
        rw [voltageReply_precision, hfollows.readings, hcircuit, Firmware.circuit_voltage]
      exact ⟨_, runInstructions_voltage htext, hfollows.replied _ _, rfl, rfl, rfl⟩
  | readDistance =>
      refine ⟨{ m with
        output := m.output ++ Utf8.encode
          (distanceReply firmware.ranging (m.distances a.sensorVariable)) ++ [lineEnd] },
        rfl, ?_, rfl, rfl, rfl⟩
      exact { hfollows with
        output := by
          have hdistance : m.distances a.sensorVariable = board.ranges command.component := by
            rw [hname]
            exact hfollows.distances a.name
          show m.output ++ Utf8.encode (distanceReply firmware.ranging
            (m.distances a.sensorVariable)) ++ [lineEnd] = _
          rw [hfollows.output, hdistance]
          unfold Board.reply distanceReply
          rw [hcircuit]
          rfl }
  | placeholder => exact ⟨m, rfl, hfollows, rfl, rfl, rfl⟩

/-- The commands of some assignments, each with its assignment. -/
def commandRows (assignments : List Assignment) : List (Assignment × Command) :=
  assignments.flatMap fun a => a.commands.map fun command => (a, command)

theorem mem_commandRows {row : Assignment × Command} (h : row ∈ commandRows assignments) :
    row.1 ∈ assignments ∧ row.2 ∈ row.1.commands := by
  obtain ⟨a, ha, hmem⟩ := List.mem_flatMap.1 h
  obtain ⟨command, hc, rfl⟩ := List.mem_map.1 hmem
  exact ⟨ha, hc⟩

theorem flatMap_commandItems :
    (assignments.flatMap fun a => a.commands.map (firmware.commandItem a))
      = (commandRows assignments).map fun row => firmware.commandItem row.1 row.2 := by
  unfold commandRows
  rw [List.map_flatMap]
  congr 1
  funext a
  rw [List.map_map]
  rfl

theorem command?_rows (hcircuit : board.circuit = firmware.circuit assignments)
    (line : List UInt8) :
    board.circuit.command? line
      = ((commandRows assignments).find? fun row => Utf8.encode row.2.line == line).map
          Prod.snd := by
  have htable : (firmware.circuit assignments).commands
      = (commandRows assignments).map Prod.snd := by
    show commandTable assignments = _
    unfold commandTable commandRows
    rw [List.map_flatMap]
    congr 1
    funext a
    rw [List.map_map]
    exact (List.map_id _).symm
  unfold Circuit.command?
  rw [hcircuit, htable, List.find?_map]
  rfl

/-- A line while a motor waits is its duty. -/
theorem dispatch_waiting (hseparate : Separate (speedPins assignments))
    (hfollows : Follows (speedPins assignments) m board) {waits : String → Bool}
    (hslots : board.slots = slotsOf (speedPins assignments) waits)
    (hstates : m.states = statesOf (speedPins assignments) waits)
    {motor : String × Pin}
    (hfirst : (speedPins assignments).find? (fun motor => waits motor.1) = some motor)
    (line : List UInt8) :
    Follows (speedPins assignments)
      { m with
        duties := overlay m.duties motor.2.number (some (dutyOfLine line))
        states := overlay m.states ("speedState" ++ motor.1) (some false) }
      (board.dispatch line) := by
  have hwaiting : board.waiting? = some (slotOf motor (waits motor.1)) := by
    unfold Board.waiting?
    rw [hslots, find?_awaiting_slotsOf, hfirst]
    rfl
  unfold Board.dispatch
  rw [hwaiting]
  exact { hfollows with
    waits := by
      refine ⟨overlay waits motor.1 false, ?_, ?_⟩
      · show endAwaiting board.slots = _
        rw [hslots]
        exact endAwaiting_slotsOf hseparate hfirst
      · show overlay m.states _ _ = _
        rw [hstates]
        exact overlay_statesOf (List.mem_of_find?_eq_some hfirst) false
    duties := by
      show overlay m.duties _ _ = overlay board.duties _ _
      rw [hfollows.duties]
      rfl }

/-- What the sketch does with a line is what the board does with it. -/
theorem take?_follows (hs : Served assignments)
    (hseparate : Separate (speedPins assignments))
    (hfollows : Follows (speedPins assignments) m board)
    (hcircuit : board.circuit = firmware.circuit assignments) (command : List UInt8) :
    ∃ m', (firmware.program assignments).take? firmware.voltage firmware.ranging command m
        = some m'
      ∧ Follows (speedPins assignments) m' (board.dispatch (upToZero command))
      ∧ Kept m m' := by
  obtain ⟨waits, hslots, hstates⟩ := hfollows.waits
  have hvariables : ∀ motor ∈ speedPins assignments,
      m.states ("speedState" ++ motor.1) = some (waits motor.1) := by
    intro motor hmem
    rw [hstates]
    exact statesOf_mem hmem
  unfold Program.take? Firmware.program
  simp only [runItems_append, flatMap_dutyItems, flatMap_commandItems]
  rw [runItems_duties rfl hvariables]
  cases hfirst : (speedPins assignments).find? fun motor => waits motor.1 with
  | some motor =>
      -- the duty leaves the function, so no command is compared
      exact ⟨_, rfl, dispatch_waiting hseparate hfollows hslots hstates hfirst _,
        rfl, rfl, rfl⟩
  | none =>
      have hwaiting : board.waiting? = none := by
        unfold Board.waiting?
        rw [hslots, find?_awaiting_slotsOf, hfirst]
        rfl
      have hline : ∀ row ∈ commandRows assignments,
          ∀ b ∈ Utf8.encode row.2.line, b ≠ 0 := by
        intro row hrow b hb
        obtain ⟨ha, hc⟩ := mem_commandRows hrow
        have hplain := table_plain hs (List.mem_flatMap.2 ⟨row.1, ha, hc⟩)
        exact (encode_plain_bytes hplain b hb).2
      have hleft : ∀ row ∈ commandRows assignments, ∃ m',
          runInstructions firmware.voltage firmware.ranging { command := some command }
            (firmware.instructions row.1 row.2.action ++ [.leave]) m = some (.left m') := by
        intro row hrow
        obtain ⟨ha, hc⟩ := mem_commandRows hrow
        obtain ⟨m', hm', -⟩ :=
          runInstructions_act _ hs hseparate hfollows hcircuit ha hc
        exact ⟨m', hm'⟩
      simp only [Flow.andThen]
      rw [runItems_commands rfl hline hleft]
      unfold Board.dispatch
      rw [hwaiting, command?_rows hcircuit]
      cases hrow : (commandRows assignments).find? fun row =>
          Utf8.encode row.2.line == upToZero command with
      | none => exact ⟨m, rfl, { hfollows with }, rfl, rfl, rfl⟩
      | some row =>
          obtain ⟨ha, hc⟩ := mem_commandRows (List.mem_of_find?_eq_some hrow)
          have hcounted : Follows (speedPins assignments) m
              { board with dispatched := board.dispatched + 1 } := { hfollows with }
          obtain ⟨m', hm', hfollows', hkept⟩ :=
            runInstructions_act { command := some command } hs hseparate hcounted hcircuit
              ha hc
          refine ⟨m', ?_, hfollows', hkept⟩
          show (runInstructions _ _ _ _ m).map Flow.machine = some m'
          rw [hm']
          rfl

end Simulation

end SerialEndpoint
