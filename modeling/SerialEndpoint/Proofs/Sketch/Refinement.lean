/-
A sketch and the simulated board do the same. The sketch is read back as a
program and run on a machine of its own; the board is the one that tests and
rehearsals use. On the same inputs the two come to the same levels, duties,
waiting motors, unfinished line and output (`sketch_shown_by_board`).

# The relation

`Tracks` adds to `Follows`, which is about what one line can change, how the
unfinished line is held:

- the index is the length of the unfinished line, and the bytes up to there
  are that line; what stands behind them is of no account;
- the unfinished line is no longer than the capacity, and the accumulator has
  one byte more, so the index is always inside (`Tracks.inside`). No write
  can fail because of that, the closing zero included;
- no byte waits to be read.

# Why each input keeps it

- The end of a line (`feed?_lineEnd`): a zero is written at the index before
  the line is taken. So what is taken is the unfinished line, whatever an
  earlier one left behind it, and it is the one that the board takes. By
  `take?_follows` both do the same with it. The index then goes back to zero,
  as the board begins an empty line.
- Any other byte (`feed?_open`): both sides look whether there is room, the
  sketch by its index and the board by the length of its line. With room the
  byte is added on both sides, and without it is dropped on both.
- A reading or a distance goes to the same sensor, and taking the output
  empties it, on both sides alike.

A run is one input after the other (`runFrom?_tracks`), and at the start the
two are together, with no motor waiting and nothing received (`start_tracks`).

# What can be seen

`Tracks` speaks of a function that says who waits. `Shown` has in its place
what one can look at, the variable of each motor, and follows from it
(`Tracks.shown`).
-/
import SerialEndpoint.Proofs.Sketch.Dispatch

namespace SerialEndpoint

open Sketch

-- ======================================================== accumulators

/-- A text ends at its first zero, whatever stands after it. -/
theorem upToZero_append_zero (text rest : List UInt8) :
    upToZero (text ++ 0 :: rest) = upToZero text := by
  unfold upToZero
  induction text with
  | nil => rfl
  | cons b text ih =>
      rw [List.cons_append, List.takeWhile_cons, List.takeWhile_cons, ih]

theorem upToZero_set {bytes : List UInt8} {index : Nat} (h : index < bytes.length) :
    upToZero (bytes.set index 0) = upToZero (bytes.take index) := by
  rw [List.set_eq_take_append_cons_drop, if_pos h, upToZero_append_zero]

theorem take_succ_set {bytes : List UInt8} {index : Nat} (h : index < bytes.length)
    (byte : UInt8) : (bytes.set index byte).take (index + 1) = bytes.take index ++ [byte] := by
  rw [List.set_eq_take_append_cons_drop, if_pos h, List.take_append, List.length_take,
    Nat.min_eq_left (Nat.le_of_lt h), List.take_take, Nat.min_eq_right (Nat.le_succ index),
    Nat.add_sub_cancel_left]
  rfl

/-- A machine and a board with the same unfinished line. -/
structure Tracks (firmware : Firmware) (assignments : List Assignment) (m : Machine)
    (board : Board) : Prop extends Follows (speedPins assignments) m board where
  circuit : board.circuit = firmware.circuit assignments
  index : m.index = board.pending.length
  room : board.pending.length ≤ firmware.accumulatorSize
  size : m.accumulator.length = firmware.accumulatorSize + 1
  filled : m.accumulator.take m.index = board.pending
  arrived : m.arrived = none

section Bytes

variable {firmware : Firmware} {assignments : List Assignment} {m : Machine} {board : Board}

theorem Tracks.inside (h : Tracks firmware assignments m board) :
    m.index < m.accumulator.length := by
  have := h.index
  have := h.room
  have := h.size
  omega

/-- The machine once a byte is read. -/
def Sketch.Machine.received (m : Machine) (byte : UInt8) : Machine :=
  { m with incoming := byte, arrived := none }

theorem Tracks.received (h : Tracks firmware assignments m board) (byte : UInt8) :
    Tracks firmware assignments (m.received byte) board :=
  { h with arrived := rfl }

section Writes

variable {voltage : VoltageScale} {ranging : Ranging} {scope : Scope}

theorem perform_terminate (h : m.index < m.accumulator.length) :
    Instruction.terminate.perform voltage ranging scope m
      = some (.onward { m with accumulator := m.accumulator.set m.index 0 }) :=
  if_pos h

theorem perform_store (h : m.index < m.accumulator.length) :
    Instruction.store.perform voltage ranging scope m
      = some (.onward { m with accumulator := m.accumulator.set m.index m.incoming }) :=
  if_pos h

theorem perform_dispatch {m' : Machine} (h : scope.call m.accumulator m = some m') :
    Instruction.dispatch.perform voltage ranging scope m = some (.onward m') := by
  unfold Instruction.perform
  rw [h]
  rfl

end Writes

/-- A byte is read, and one of the two branches decides. -/
theorem feed?_of_branches {voltage : VoltageScale} {ranging : Ranging} {byte : UInt8}
    {m' : Machine}
    (hbranch : runBranches voltage ranging (firmware.program assignments).capacity
      { call := (firmware.program assignments).take? voltage ranging }
      [(.incomingIs lineEnd, [.terminate, .dispatch, .rewind, .clear]),
        (.hasRoom, [.store, .advance])] (m.received byte) = some (.onward m'))
    (harrived : m'.arrived = none) :
    (firmware.program assignments).feed? voltage ranging m byte = some m' := by
  have hloop : runItems voltage ranging (firmware.program assignments).capacity
      { call := (firmware.program assignments).take? voltage ranging }
      (firmware.program assignments).loop { m with arrived := some byte }
        = some (.onward m') := by
    show Flow.andThen (runItems _ _ _ _ []) (runBranches _ _ _ _ _ (m.received byte)) = _
    rw [hbranch]
    rfl
  unfold Program.feed?
  rw [hloop]
  exact if_pos harrived

/-- The end of a line: the line is taken, and the next begins. -/
theorem feed?_lineEnd (hs : Served assignments)
    (hseparate : Separate (speedPins assignments))
    (h : Tracks firmware assignments m board) :
    ∃ m', (firmware.program assignments).feed? firmware.voltage firmware.ranging m lineEnd
        = some m'
      ∧ Tracks firmware assignments m' (board.feed lineEnd) := by
  -- the zero is in place before the line is taken, so what is taken is the
  -- unfinished line, whatever an earlier one left behind it
  have hline : upToZero (m.accumulator.set m.index 0) = upToZero board.pending := by
    rw [upToZero_set h.inside, h.filled]
  have hfollows : Follows (speedPins assignments)
      { m.received lineEnd with accumulator := m.accumulator.set m.index 0 }
      { board with pending := [] } := { h.toFollows with }
  obtain ⟨m', htake, hfollows', hkept⟩ :=
    take?_follows hs hseparate hfollows h.circuit (m.accumulator.set m.index 0)
  refine ⟨{ m' with
    index := 0
    accumulator := List.replicate m'.accumulator.length 0 }, ?_, ?_⟩
  · refine feed?_of_branches ?_ hkept.arrived
    refine (runBranches_first rfl).trans ?_
    refine (runInstructions_onward (perform_terminate (h.received lineEnd).inside)).trans ?_
    refine (runInstructions_onward (perform_dispatch htake)).trans ?_
    refine (runInstructions_onward rfl).trans ?_
    exact runInstructions_onward rfl
  · rw [Board.feed, if_pos rfl]
    have hpending := Board.dispatch_pending { board with pending := [] }
      (board.pending.takeWhile (· ≠ 0))
    have hsize := (congrArg List.length hkept.accumulator).trans List.length_set
    rw [hline] at hfollows'
    exact { hfollows' with
      circuit := (Board.dispatch_circuit _ _).trans h.circuit
      index := (congrArg List.length hpending).symm
      room := by
        rw [hpending]
        exact Nat.zero_le _
      size := by
        show (List.replicate m'.accumulator.length (0 : UInt8)).length = _
        rw [List.length_replicate, hsize, h.size]
      filled := hpending.symm
      arrived := hkept.arrived }

/-- Any other byte: it is stored if there is room. -/
theorem feed?_open {byte : UInt8} (hbyte : byte ≠ lineEnd)
    (h : Tracks firmware assignments m board) :
    ∃ m', (firmware.program assignments).feed? firmware.voltage firmware.ranging m byte
        = some m'
      ∧ Tracks firmware assignments m' (board.feed byte) := by
  have hopen : (Guard.incomingIs lineEnd).holds? firmware.accumulatorSize
      { call := (firmware.program assignments).take? firmware.voltage firmware.ranging }
      (m.received byte) = some false :=
    congrArg some (beq_eq_false_iff_ne.2 hbyte)
  have hroom : Guard.hasRoom.holds? firmware.accumulatorSize
      { call := (firmware.program assignments).take? firmware.voltage firmware.ranging }
      (m.received byte) = some (decide (m.index < firmware.accumulatorSize)) := rfl
  have hboard : m.index < firmware.accumulatorSize
      ↔ board.pending.length < board.circuit.capacity := by
    rw [h.index, h.circuit]
    exact Iff.rfl
  by_cases hlt : m.index < firmware.accumulatorSize
  · rw [decide_eq_true hlt] at hroom
    refine ⟨{ m.received byte with
      accumulator := m.accumulator.set m.index byte
      index := m.index + 1 }, ?_, ?_⟩
    · refine feed?_of_branches ?_ rfl
      refine (runBranches_next hopen).trans ?_
      refine (runBranches_first hroom).trans ?_
      refine (runInstructions_onward (perform_store (h.received byte).inside)).trans ?_
      exact runInstructions_onward rfl
    · rw [Board.feed, if_neg hbyte, if_pos (hboard.1 hlt)]
      have hlength : (board.pending ++ [byte]).length = m.index + 1 := by
        rw [List.length_append, List.length_singleton, h.index]
      exact { h with
        index := hlength.symm
        room := by
          rw [hlength]
          exact hlt
        size := by
          rw [List.length_set]
          exact h.size
        filled := by
          show (m.accumulator.set m.index byte).take (m.index + 1) = _
          rw [take_succ_set h.inside, h.filled]
        arrived := rfl }
  · rw [decide_eq_false hlt] at hroom
    refine ⟨m.received byte, ?_, ?_⟩
    · refine feed?_of_branches ?_ rfl
      refine (runBranches_next hopen).trans ?_
      exact runBranches_next hroom
    · rw [Board.feed, if_neg hbyte, if_neg fun h => hlt (hboard.2 h)]
      exact h.received byte

end Bytes

-- ================================================================ runs

section Runs

variable {firmware : Firmware} {assignments : List Assignment}

/-- One input keeps a machine and a board together. -/
theorem react?_tracks (hs : Served assignments)
    (hseparate : Separate (speedPins assignments)) {m : Machine} {board : Board}
    (h : Tracks firmware assignments m board) (input : Input) :
    ∃ m', (firmware.program assignments).react? firmware.voltage firmware.ranging m input
        = some m'
      ∧ Tracks firmware assignments m' (board.react input) := by
  cases input with
  | byte byte =>
      by_cases hend : byte = lineEnd
      · subst hend
        exact feed?_lineEnd hs hseparate h
      · exact feed?_open hend h
  | reading pin raw =>
      refine ⟨{ m with readings := overlay m.readings pin raw }, rfl, ?_⟩
      exact { h with
        readings := by
          show overlay m.readings pin raw = overlay board.readings pin raw
          rw [h.readings] }
  | range sensor distance =>
      refine ⟨{ m with
        distances := overlay m.distances ("sensor" ++ sensor) distance }, rfl, ?_⟩
      exact { h with
        distances := by
          intro name
          show overlay m.distances ("sensor" ++ sensor) distance ("sensor" ++ name)
            = overlay board.ranges sensor distance name
          by_cases hname : name = sensor
          · rw [hname, overlay_same, overlay_same]
          · have hvariable : "sensor" ++ name ≠ "sensor" ++ sensor :=
              fun heq => hname ((String.append_right_inj _).1 heq)
            rw [overlay_other _ _ hvariable, overlay_other _ _ hname, h.distances] }
  | take =>
      refine ⟨{ m with output := [] }, rfl, ?_⟩
      exact { h with output := rfl }

/-- So does any run. -/
theorem runFrom?_tracks (hs : Served assignments)
    (hseparate : Separate (speedPins assignments)) (inputs : List Input) :
    ∀ {m : Machine} {board : Board}, Tracks firmware assignments m board →
      ∃ m', (firmware.program assignments).runFrom? firmware.voltage firmware.ranging m inputs
          = some m'
        ∧ Tracks firmware assignments m' (board.run inputs) := by
  induction inputs with
  | nil => exact fun h => ⟨_, rfl, h⟩
  | cons input rest ih =>
      intro m board h
      obtain ⟨m', hreact, h'⟩ := react?_tracks hs hseparate h input
      obtain ⟨m'', hrun, h''⟩ := ih h'
      refine ⟨m'', ?_, h''⟩
      unfold Program.runFrom?
      rw [hreact]
      exact hrun

theorem speedVariables_eq : (speedMotors assignments).map Assignment.speedVariable
    = (speedPins assignments).map fun motor => "speedState" ++ motor.1 := by
  unfold speedMotors
  induction assignments with
  | nil => rfl
  | cons a rest ih =>
      cases hpin : a.pin? .pwm with
      | none => rw [List.filter_cons_of_neg (by simp [hpin]), speedPins_cons_none hpin, ih]
      | some pwm =>
          rw [List.filter_cons_of_pos (by simp [hpin]), speedPins_cons_some hpin,
            List.map_cons, ih]
          rfl

theorem start_states : (firmware.program assignments).start.states
    = statesOf (speedPins assignments) fun _ => false := by
  funext state
  show (if state ∈ (speedMotors assignments).map Assignment.speedVariable then some false
    else none) = _
  rw [speedVariables_eq]
  by_cases hmem : state ∈ (speedPins assignments).map fun motor => "speedState" ++ motor.1
  · obtain ⟨motor, hmotor, rfl⟩ := List.mem_map.1 hmem
    rw [if_pos hmem, statesOf_mem hmotor]
  · have hnone : ((speedPins assignments).find? fun motor => "speedState" ++ motor.1 = state)
        = none := by
      rw [List.find?_eq_none]
      intro motor hmotor heq
      exact hmem (List.mem_map.2 ⟨motor, hmotor, of_decide_eq_true heq⟩)
    rw [if_neg hmem]
    unfold statesOf
    rw [hnone]
    rfl

theorem start_tracks (hs : Served assignments) :
    Tracks firmware assignments (firmware.program assignments).start
      (firmware.circuit assignments).start where
  waits := ⟨fun _ => false, speedSlots_commandTable hs.fits, start_states⟩
  levels := rfl
  duties := rfl
  readings := rfl
  distances _ := rfl
  output := rfl
  circuit := rfl
  index := rfl
  room := Nat.zero_le _
  size := List.length_replicate
  filled := rfl
  arrived := rfl

end Runs

-- ============================================================ agreement

/-- What can be seen of a machine is the same on a board. -/
structure Shown (program : Sketch.Program) (m : Machine) (board : Board) : Prop where
  levels : m.levels = board.levels
  duties : m.duties = board.duties
  /-- A motor's variable is there if the motor is, and says whether it
  waits. -/
  waiting : ∀ motor, m.states ("speedState" ++ motor) = board.awaiting? motor
  /-- The unfinished line is what stands before the index. -/
  pending : m.index = board.pending.length
  line : m.accumulator.take m.index = board.pending
  room : m.index ≤ program.capacity
  output : m.output = board.output

/-- What is tracked is shown. -/
theorem Tracks.shown {firmware : Firmware} {assignments : List Assignment} {m : Machine}
    {board : Board} (h : Tracks firmware assignments m board) :
    Shown (firmware.program assignments) m board where
  levels := h.levels
  duties := h.duties
  waiting motor := by
    obtain ⟨waits, hslots, hstates⟩ := h.waits
    unfold Board.awaiting?
    rw [hslots, hstates]
    exact (find?_motor_slotsOf _ _ _).symm
  pending := h.index
  line := h.filled
  room := by
    rw [h.index]
    exact h.room
  output := h.output

/-- Whatever is rendered, its sketch reads as a program with an
accumulator one byte larger than its capacity. On any inputs the program
runs without a step that goes wrong, and the simulated board shows what
it has come to. -/
theorem sketch_shown_by_board {pools : Pools} {firmware : Firmware}
    {generator : Generator} {agent : Agent} {artifacts : Artifacts}
    (havailable : pools.Available)
    (hmade : Generator.ofParts pools firmware = .ok generator)
    (hrender : generator.render agent = .ok artifacts) :
    ∃ program, Sketch.Program.read? artifacts.sketch = some program
      ∧ program.capacity = firmware.accumulatorSize
      ∧ program.bufferSize = program.capacity + 1
      ∧ ∀ inputs, ∃ m,
          program.run? firmware.voltage firmware.ranging inputs = some m
            ∧ Shown program m
                ((firmware.circuit artifacts.assignments).start.run inputs) := by
  obtain ⟨rfl, rfl, haccepted⟩ := ofParts_ok hmade
  have hr := rendered_of_render hrender
  refine ⟨generator.firmware.program artifacts.assignments, ?_, rfl, rfl, fun inputs => ?_⟩
  · rw [hr.sketch_eq]
    exact Firmware.read?_sketch haccepted hr.served
  · obtain ⟨m, hrun, htracks⟩ := runFrom?_tracks hr.served (hr.separate havailable) inputs
      (start_tracks hr.served)
    exact ⟨m, hrun, htracks.shown⟩

/-- A component of every kind, with the settings that stand if nothing else
is said. -/
theorem sketch_shown_by_board_rover :
    ∃ generator program, Generator.ofParts .uno {} = .ok generator
      ∧ generator.render rover = .ok (roverArtifacts {})
      ∧ Sketch.Program.read? (roverArtifacts {}).sketch = some program
      ∧ ∀ inputs, ∃ m, program.run? ({} : Firmware).voltage ({} : Firmware).ranging inputs
            = some m
          ∧ Shown program m
              ((({} : Firmware).circuit roverAssignments).start.run inputs) := by
  have haccepted : ({} : Firmware).refusal? = none := by decide +kernel
  have hmade := ofParts_accepted .uno haccepted
  have hrender : Generator.render ⟨.uno, {}, haccepted⟩ rover
      = .ok (roverArtifacts {}) := render_rover rfl
  obtain ⟨program, hread, -, -, hruns⟩ :=
    sketch_shown_by_board (Pools.Available.own .uno) hmade hrender
  exact ⟨_, program, hmade, hrender, hread, hruns⟩

end SerialEndpoint
