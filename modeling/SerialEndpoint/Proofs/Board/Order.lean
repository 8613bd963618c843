/-
The order of the command table. A board looks a line up from the front of
its table and finds a slot by its position, so it could depend on the
order in which the components were served. It does not: a board whose
table is in another order shows the same on every run
(`order_immaterial`).

# By way of the line machine

Two boards cannot be compared step by step at once, for their slots are in
different orders. The line machine has no order to it. It asks for the one
command that a line equals, and of the motors it knows only the one that
waits, so it is the same machine for every order (`take_reordered`,
`run_reordered`). Both boards are mirrored by it, and what one machine
mirrors is alike (`Mirrors.alike`): which motors have a slot, and which of
them waits, can be asked by name.

Output that is taken away in the course of a run is compared input by input
(`Mirrors.takenIn_eq`). At each of them both boards have given the same away
so far and mirror the same replies, so what is left to give is the same too.
-/
import SerialEndpoint.Proofs.Board.Mirroring

namespace SerialEndpoint

-- ============================================================= circuits

/-- The same circuit but for the order of its commands. -/
structure Circuit.Reordered (circuit other : Circuit) : Prop where
  commands : other.commands.Perm circuit.commands
  capacity : other.capacity = circuit.capacity
  voltage : other.voltage = circuit.voltage
  ranging : other.ranging = circuit.ranging

/-- Components in another order make such a circuit. -/
theorem circuit_reordered {assignments permuted : List Assignment}
    (hperm : permuted.Perm assignments) (firmware : Firmware) :
    (firmware.circuit assignments).Reordered (firmware.circuit permuted) :=
  ⟨hperm.flatMap_right _, rfl, rfl, rfl⟩

theorem Served.reordered {assignments permuted : List Assignment} (hs : Served assignments)
    (hperm : permuted.Perm assignments) : Served permuted where
  named a ha := hs.named a (hperm.mem_iff.1 ha)
  distinct := (hperm.map _).nodup_iff.2 hs.distinct
  fits a ha := hs.fits a (hperm.mem_iff.1 ha)

theorem Separate.reordered {motors permuted : List (String × Pin)} (h : Separate motors)
    (hperm : permuted.Perm motors) : Separate permuted :=
  ⟨(hperm.map _).nodup_iff.2 h.names, (hperm.map _).nodup_iff.2 h.pins⟩

theorem speedPins_perm {assignments permuted : List Assignment}
    (hperm : permuted.Perm assignments) : (speedPins permuted).Perm (speedPins assignments) :=
  hperm.filterMap _

/-- A line is looked up to the same effect in either order. -/
theorem command?_reordered {assignments permuted : List Assignment} (hs : Served assignments)
    (hperm : permuted.Perm assignments) (firmware : Firmware) (line : List UInt8) :
    (firmware.circuit permuted).command? line = (firmware.circuit assignments).command? line := by
  have hcommands := (circuit_reordered hperm firmware).commands
  refine Option.ext fun command => ?_
  rw [command?_eq_some_iff (hs.reordered hperm) rfl, command?_eq_some_iff hs rfl]
  exact and_congr_left fun _ => hcommands.mem_iff

-- ============================================================= machines

namespace LineMachine

variable {circuit other : Circuit}

theorem act_reordered (h : circuit.Reordered other) (machine : LineMachine) (command : Command) :
    machine.act other command = machine.act circuit command := by
  unfold act
  rw [h.voltage, h.ranging]

/-- A machine takes a line to the same effect in either order: the commands
that equal it are as many, and one only is one and the same. -/
theorem take_reordered (h : circuit.Reordered other) (machine : LineMachine)
    (line : List UInt8) : machine.take other line = machine.take circuit line := by
  cases hwaits : machine.waiting with
  | some motor => rw [take_waiting hwaits, take_waiting hwaits, h.capacity]
  | none =>
      rw [take_idle hwaits, take_idle hwaits, h.capacity]
      have hperm := h.commands.filter fun command =>
        Utf8.encode command.line == keptOfLine circuit.capacity line
      cases hfound : circuit.commands.filter fun command =>
          Utf8.encode command.line == keptOfLine circuit.capacity line with
      | nil =>
          rw [hfound] at hperm
          rw [hperm.eq_nil]
      | cons command rest =>
          rw [hfound] at hperm
          cases rest with
          | nil =>
              rw [hperm.eq_singleton]
              exact act_reordered h _ command
          | cons second rest =>
              have hlength := hperm.length_eq
              split
              · rename_i hone
                rw [hone] at hlength
                simp at hlength
              · rfl

theorem react_reordered (h : circuit.Reordered other) :
    react other = react circuit := by
  funext machine event
  cases event with
  | line bytes => exact take_reordered h machine bytes
  | reading pin raw => rfl
  | range sensor distance => rfl

/-- A machine runs to the same effect in either order. -/
theorem run_reordered (h : circuit.Reordered other) (machine : LineMachine)
    (events : List Event) : machine.run other events = machine.run circuit events := by
  unfold run
  rw [react_reordered h]

end LineMachine

-- =============================================================== boards

/-- Boards that cannot be told apart from outside. -/
structure Alike (board other : Board) : Prop where
  levels : other.levels = board.levels
  duties : other.duties = board.duties
  awaiting : ∀ motor, other.awaiting? motor = board.awaiting? motor
  pending : other.pending = board.pending
  output : other.output = board.output
  dispatched : other.dispatched = board.dispatched
  unmatched : other.unmatched = board.unmatched

section Alike

variable {circuit reordered : Circuit} {assignments permuted : List Assignment}
  {begun taken : List UInt8} {machine : LineMachine} {board other : Board}

/-- Two boards that one machine mirrors, with the motors in either order. -/
theorem Mirrors.alike (hcircuit : circuit.Reordered reordered)
    (hperm : permuted.Perm assignments)
    (h : Mirrors circuit (speedPins assignments) begun taken machine board)
    (h' : Mirrors reordered (speedPins permuted) begun taken machine other) :
    Alike board other where
  levels := h'.levels.trans h.levels.symm
  duties := h'.duties.trans h.duties.symm
  awaiting motor := by
    rw [h'.shows.awaiting, h.shows.awaiting]
    exact if_congr ((speedPins_perm hperm).map _).mem_iff rfl rfl
  pending := by rw [h'.pending, h.pending, hcircuit.capacity]
  output := List.append_cancel_left (h'.output.trans h.output.symm)
  dispatched := h'.dispatched.trans h.dispatched.symm
  unmatched := h'.unmatched.trans h.unmatched.symm

/-- What is taken away from two such boards is the same, input by input. -/
theorem Mirrors.takenIn_eq (hcircuit : circuit.Reordered reordered)
    (hperm : permuted.Perm assignments) (hs : Served assignments)
    (hseparate : Separate (speedPins assignments))
    (hcommands : circuit.commands = commandTable assignments)
    (hcommands' : reordered.commands = commandTable permuted) (inputs : List Input) :
    ∀ {begun taken : List UInt8} {machine : LineMachine} {board other : Board},
      Mirrors circuit (speedPins assignments) begun taken machine board →
      Mirrors reordered (speedPins permuted) begun taken machine other →
      other.takenIn inputs = board.takenIn inputs := by
  induction inputs with
  | nil => exact fun _ _ => rfl
  | cons input rest ih =>
      intro begun taken machine board other h h'
      have htaken : other.takenBy input = board.takenBy input := by
        cases input with
        | take => exact (h.alike hcircuit hperm h').output
        | _ => rfl
      have hstep := h.run hs hseparate hcommands [input]
      have hstep' := h'.run (hs.reordered hperm) (hseparate.reordered (speedPins_perm hperm))
        hcommands' [input]
      have htaken' : other.takenIn [input] = board.takenIn [input] :=
        congrArg (· ++ []) htaken
      rw [LineMachine.run_reordered hcircuit, htaken'] at hstep'
      show other.takenBy input ++ (other.run [input]).takenIn rest
        = board.takenBy input ++ (board.run [input]).takenIn rest
      rw [htaken, ih hstep hstep']

end Alike

/-- Whatever is rendered, a board whose table has the components in another
order looks every line up to the same effect, is alike on every run, and
has given the same bytes away. -/
theorem order_immaterial {generator : Generator} {agent : Agent} {artifacts : Artifacts}
    (havailable : generator.pools.Available) (hrender : generator.render agent = .ok artifacts)
    {permuted : List Assignment} (hperm : permuted.Perm artifacts.assignments)
    (firmware : Firmware) (inputs : List Input) :
    let board := (firmware.circuit artifacts.assignments).start
    let other := (firmware.circuit permuted).start
    (∀ line, other.circuit.command? line = board.circuit.command? line)
      ∧ Alike (board.run inputs) (other.run inputs)
      ∧ other.takenIn inputs = board.takenIn inputs := by
  have hr := rendered_of_render hrender
  have hseparate := hr.separate havailable
  have hcircuit := circuit_reordered hperm firmware
  have hs' := hr.served.reordered hperm
  have htable : (firmware.circuit artifacts.assignments).commands
      = commandTable artifacts.assignments := rfl
  have htable' : (firmware.circuit permuted).commands = commandTable permuted := rfl
  have hstart := start_mirrors hr.served htable
  have hstart' := start_mirrors hs' htable'
  intro board other
  have htaken : other.takenIn inputs = board.takenIn inputs :=
    hstart.takenIn_eq hcircuit hperm hr.served hseparate rfl rfl inputs hstart'
  have hmirrors := hstart.run hr.served hseparate rfl inputs
  have hmirrors' := hstart'.run hs' (hseparate.reordered (speedPins_perm hperm)) rfl inputs
  rw [LineMachine.run_reordered hcircuit, show Board.takenIn _ inputs = _ from htaken]
    at hmirrors'
  exact ⟨command?_reordered hr.served hperm firmware,
    hmirrors.alike hcircuit hperm hmirrors', htaken⟩

/-- The table is in the opposite order, and the name of the switch that is
opened begins with that of another one. -/
theorem order_immaterial_rover :
    let permuted := roverAssignments.reverse
    let inputs := (Utf8.encode "MOTOR_SPEED Left\nSWITCH_").map Input.byte ++
      (Utf8.encode "OPEN S1\nSWITCH_OPEN S12\nVL53L0X_COLLECT Front\n").map Input.byte
    let other := (({} : Firmware).circuit permuted).start.run inputs
    (∃ generator, Generator.ofParts .uno {} = .ok generator
        ∧ generator.render rover = .ok (roverArtifacts {}))
      ∧ permuted.Perm roverAssignments
      ∧ (other.duties 3, other.levels 5, other.levels 6) = (some 0, none, some .low)
      ∧ other.awaiting? "Left" = some false ∧ other.output = Utf8.encode "TIMEOUT\n"
      ∧ (other.dispatched, other.unmatched) = (4, 0) := by
  intro permuted inputs other
  have haccepted := Firmware.default_accepted
  have hrender : Generator.render ⟨.uno, {}, haccepted⟩ rover
      = .ok (roverArtifacts {}) := render_rover rfl
  have hperm : permuted.Perm roverAssignments := List.reverse_perm _
  obtain ⟨-, halike, -⟩ := @order_immaterial _ _ _ (.own .uno) hrender _ hperm {} inputs
  refine ⟨⟨_, ofParts_accepted .uno haccepted, hrender⟩, hperm, ?_⟩
  rw [halike.duties, halike.levels, halike.awaiting, halike.output, halike.dispatched,
    halike.unmatched]
  decide +kernel

end SerialEndpoint
