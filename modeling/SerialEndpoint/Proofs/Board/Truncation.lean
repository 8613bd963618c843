/-
What a board makes of a line that is longer than what it keeps. The board
forgets that bytes were dropped: it looks the kept front of the line up
among its commands as if that were the line.

# Looking up

Bytes invoke a command of the table exactly if they are its line, because no
two commands have the same line (`command?_eq_some_iff`). An idle board looks
up as much of a line as it keeps, provided that no zero is in it
(`feedAll_idle`). The line of a command is plain, so its bytes are its
characters and what is kept of them is a front of the text (`command?_front`).

# Two questions

- A command is recognised exactly if its front, as long as the capacity,
  is a command (`dispatched_iff_front`); with room for the whole line that
  is the command itself.
- An overlong line goes unheard exactly if its front is no command
  (`unheard_iff_front`). Otherwise it does what that command does, whomever
  the line was addressed to (`cut_off_line_opens_other_switch`).

Both are said of the command table, in which the names of the components
stand: whether a capacity is safe depends on which names there are.
-/
import SerialEndpoint.Proofs.Board.Runs
import SerialEndpoint.Proofs.Keymaps

namespace SerialEndpoint

-- ========================================================== looking up

/-- The first characters of a text. -/
def front (n : Nat) (text : String) : String := String.ofList (text.toList.take n)

theorem front_plain {text : String} (h : IsPlain text.toList) (n : Nat) :
    IsPlain (front n text).toList := by
  unfold front
  rw [String.toList_ofList]
  exact fun c hc => h c (List.mem_of_mem_take hc)

theorem encode_front {text : String} (h : IsPlain text.toList) (n : Nat) :
    Utf8.encode (front n text) = (Utf8.encode text).take n := by
  rw [encode_plain (front_plain h n), encode_plain h]
  unfold front
  rw [String.toList_ofList, List.map_take]

/-- Bytes invoke a command of the table exactly if they are its line; no
other command has that line. -/
theorem command?_eq_some_iff {circuit : Circuit} {assignments : List Assignment}
    (hs : Served assignments) (hcommands : circuit.commands = commandTable assignments)
    {kept : List UInt8} {command : Command} :
    circuit.command? kept = some command ↔
      command ∈ commandTable assignments ∧ Utf8.encode command.line = kept := by
  unfold Circuit.command?
  rw [hcommands]
  constructor
  · intro hfind
    have hline := List.find?_some hfind
    rw [beq_iff_eq] at hline
    exact ⟨List.mem_of_find?_eq_some hfind, hline⟩
  · rintro ⟨hmem, hline⟩
    cases hfind : (commandTable assignments).find? fun c => Utf8.encode c.line == kept with
    | none =>
        have hnone := List.find?_eq_none.1 hfind command hmem
        rw [beq_iff_eq] at hnone
        exact absurd hline hnone
    | some other =>
        have hmem' := List.mem_of_find?_eq_some hfind
        have hline' := List.find?_some hfind
        rw [beq_iff_eq] at hline'
        have heq : other.line = command.line := Utf8.encode_injective (hline'.trans hline.symm)
        rw [List.inj_on_of_nodup_map (commandLines_nodup hs) hmem' hmem heq]

/-- What is kept of a plain text invokes a command exactly if the front of
the text is the command's line. -/
theorem command?_front {circuit : Circuit} {assignments : List Assignment}
    (hs : Served assignments) (hcommands : circuit.commands = commandTable assignments)
    {text : String} (hplain : IsPlain text.toList) {n : Nat} {command : Command} :
    circuit.command? ((Utf8.encode text).take n) = some command ↔
      command ∈ commandTable assignments ∧ command.line = front n text := by
  rw [command?_eq_some_iff hs hcommands, ← encode_front hplain]
  constructor
  · rintro ⟨hmem, hbytes⟩
    exact ⟨hmem, Utf8.encode_injective hbytes⟩
  · rintro ⟨hmem, hline⟩
    exact ⟨hmem, congrArg Utf8.encode hline⟩

theorem command?_eq_none_iff {circuit : Circuit} {kept : List UInt8} :
    circuit.command? kept = none ↔
      ∀ c ∈ circuit.commands, Utf8.encode c.line ≠ kept := by
  unfold Circuit.command?
  rw [List.find?_eq_none]
  simp only [beq_iff_eq, ne_eq]

-- ========================================================= an idle board

theorem start_idle (circuit : Circuit) : circuit.start.waiting? = none := by
  unfold Board.waiting?
  rw [List.find?_eq_none]
  intro slot hslot
  obtain ⟨c, -, hc⟩ := List.mem_filterMap.1 hslot
  cases haction : c.action with
  | awaitSpeed pwm =>
      rw [haction] at hc
      cases hc
      exact Bool.false_ne_true
  | _ =>
      rw [haction] at hc
      cases hc

/-- On an idle board a line without zeros is looked up as far as it is
kept. -/
theorem feedAll_idle {board : Board} {line : List UInt8}
    (hline : ∀ b ∈ line, b ≠ lineEnd ∧ b ≠ 0) (hpending : board.pending = [])
    (hidle : board.waiting? = none) :
    board.feedAll (line ++ [lineEnd]) =
      match board.circuit.command? (line.take board.circuit.capacity) with
      | some command => { board with dispatched := board.dispatched + 1 }.act command
      | none => { board with unmatched := board.unmatched + 1 } := by
  have hkept : (line.take board.circuit.capacity).takeWhile (· ≠ 0)
      = line.take board.circuit.capacity := by
    rw [List.takeWhile_eq_self_iff]
    intro b hb
    simpa using (hline b (List.mem_of_mem_take hb)).2
  rw [Board.feedAll_line (fun b hb => (hline b hb).1) hpending, hkept]
  unfold Board.dispatch
  cases board.circuit.command? (line.take board.circuit.capacity) with
  | some command => simp only [hidle]
  | none => simp only [hidle]

theorem act_counts (board : Board) (command : Command) :
    (board.act command).dispatched = board.dispatched
      ∧ (board.act command).unmatched = board.unmatched := by
  unfold Board.act
  cases command.action <;> exact ⟨rfl, rfl⟩

-- ==================================================== exported commands

/-- The lines of the keymaps are lines of the command table. -/
theorem exists_command_of_keymap {assignments : List Assignment} {file : KeymapFile}
    (hfile : file ∈ keymapFiles assignments) {line : String}
    (hline : line ∈ file.keymap.lines) :
    ∃ c ∈ commandTable assignments, c.line = line := by
  obtain ⟨a, ha, -, -, hkeymap⟩ := mem_keymapFiles hfile
  rw [hkeymap] at hline
  obtain ⟨c, hc, heq⟩ := List.mem_map.1 ((ofCommands_lines_perm a).mem_iff.1 hline)
  exact ⟨c, List.mem_flatMap.2 ⟨a, ha, hc⟩, heq⟩

theorem front_of_length_le {n : Nat} {text : String} (h : text.length ≤ n) :
    front n text = text := by
  unfold front
  rw [List.take_of_length_le (by rw [String.length_toList]; exact h), String.ofList_toList]

/-- A fresh board recognises an exported command exactly if the front of
its line, as long as the capacity, is the line of a command. With room
for the whole line it does what the command says. -/
theorem dispatched_iff_front {pools : Pools} {firmware : Firmware}
    {generator : Generator} {agent : Agent} {artifacts : Artifacts}
    (hmade : Generator.ofParts pools firmware = .ok generator)
    (hrender : generator.render agent = .ok artifacts)
    {file : KeymapFile} (hfile : file ∈ artifacts.keymaps)
    {line : String} (hline : line ∈ file.keymap.lines) :
    let start := (generator.firmware.circuit artifacts.assignments).start
    let fed := start.feedAll (Frame.ofMessage line).bytes
    (fed.dispatched = 1 ∧ fed.unmatched = 0 ↔
      ∃ c ∈ commandTable artifacts.assignments,
        c.line = front firmware.accumulatorSize line)
    ∧ (line.length ≤ firmware.accumulatorSize →
        ∃ c ∈ commandTable artifacts.assignments, c.line = line
          ∧ fed = { start with dispatched := 1 }.act c) := by
  obtain ⟨-, rfl, -⟩ := ofParts_ok hmade
  have hr := rendered_of_render hrender
  have hs := hr.served
  rw [hr.keymaps_eq] at hfile
  obtain ⟨own, hown, hownline⟩ := exists_command_of_keymap hfile hline
  have hplain : IsPlain line.toList := hownline ▸ table_plain hs hown
  intro start fed
  have hcommands : start.circuit.commands = commandTable artifacts.assignments := rfl
  have hfed : fed = match start.circuit.command?
        ((Utf8.encode line).take generator.firmware.accumulatorSize) with
      | some command => { start with dispatched := 1 }.act command
      | none => { start with unmatched := 1 } := by
    show start.feedAll (Frame.ofMessage line).bytes = _
    rw [frame_plain hplain]
    exact feedAll_idle (encode_plain_bytes hplain) rfl (start_idle _)
  constructor
  · constructor
    · rintro ⟨hdispatched, -⟩
      cases hfind : start.circuit.command?
          ((Utf8.encode line).take generator.firmware.accumulatorSize) with
      | none =>
          rw [hfed, hfind] at hdispatched
          cases hdispatched
      | some c => exact ⟨c, (command?_front hs hcommands hplain).1 hfind⟩
    · rintro ⟨c, hc, hfront⟩
      have hfind := (command?_front hs hcommands hplain).2 ⟨hc, hfront⟩
      rw [hfed, hfind]
      exact act_counts _ c
  · intro hfits
    have hwhole : own.line = front generator.firmware.accumulatorSize line := by
      rw [hownline, front_of_length_le hfits]
    have hfind := (command?_front hs hcommands hplain).2 ⟨hown, hwhole⟩
    exact ⟨own, hown, hownline, by rw [hfed, hfind]⟩

/-- A switch of the robot on a board that keeps 64 bytes of a line. -/
theorem dispatched_iff_front_rover :
    ∃ generator, Generator.ofParts .uno {} = .ok generator
      ∧ generator.render rover = .ok (roverArtifacts {})
      ∧ ∃ file ∈ (roverArtifacts {}).keymaps, "SWITCH_OPEN S1" ∈ file.keymap.lines
        ∧ ∃ c ∈ commandTable roverAssignments, c.line = "SWITCH_OPEN S1"
          ∧ (({} : Firmware).circuit roverAssignments).start.feedAll
              (Frame.ofMessage "SWITCH_OPEN S1").bytes
            = { (({} : Firmware).circuit roverAssignments).start with dispatched := 1 }.act c := by
  have haccepted : ({} : Firmware).refusal? = none := by decide +kernel
  have hmade := ofParts_accepted .uno haccepted
  have hrender : Generator.render ⟨.uno, {}, haccepted⟩ rover
      = .ok (roverArtifacts {}) := render_rover rfl
  obtain ⟨file, hfile, hline⟩ : ∃ file ∈ (roverArtifacts {}).keymaps,
      "SWITCH_OPEN S1" ∈ file.keymap.lines :=
    ⟨_, .tail _ (.head _), by decide⟩
  exact ⟨_, hmade, hrender, file, hfile, hline,
    (dispatched_iff_front hmade hrender hfile hline).2 (by decide)⟩

/-- On a board that keeps eight bytes of a line the same command goes
unmatched. -/
theorem unmatched_switch_rover :
    let firmware : Firmware := { accumulatorSize := 8 }
    ∃ generator, Generator.ofParts .uno firmware = .ok generator
      ∧ generator.render rover = .ok (roverArtifacts firmware)
      ∧ (∃ file ∈ (roverArtifacts firmware).keymaps,
          "SWITCH_OPEN S1" ∈ file.keymap.lines)
      ∧ ((firmware.circuit roverAssignments).start.feedAll
          (Frame.ofMessage "SWITCH_OPEN S1").bytes).dispatched = 0
      ∧ ((firmware.circuit roverAssignments).start.feedAll
          (Frame.ofMessage "SWITCH_OPEN S1").bytes).unmatched = 1 := by
  intro firmware
  have haccepted : firmware.refusal? = none := by decide +kernel
  exact ⟨_, ofParts_accepted .uno haccepted, render_rover rfl,
    ⟨_, .tail _ (.head _), by decide⟩, by decide, by decide⟩

-- ======================================================= overlong lines

/-- A line that went unheard: it is counted as unmatched, and nothing else
has changed that can be seen of the board. -/
structure Board.Unheard (before after : Board) : Prop where
  levels : after.levels = before.levels
  duties : after.duties = before.duties
  awaiting : ∀ motor, after.awaiting? motor = before.awaiting? motor
  output : after.output = before.output
  dispatched : after.dispatched = before.dispatched
  unmatched : after.unmatched = before.unmatched + 1

/-- On an idle board a line, overlong or not, goes unheard exactly if its
front, as long as the capacity, is the line of no command. If it is that
of a command the board does what that command says. -/
theorem unheard_iff_front {generator : Generator} {agent : Agent}
    {artifacts : Artifacts} (hrender : generator.render agent = .ok artifacts)
    {circuit : Circuit}
    (hcommands : circuit.commands = commandTable artifacts.assignments)
    {board : Board} (hreaches : circuit.Reaches board)
    (hidle : board.waiting? = none) (hpending : board.pending = [])
    {line : List UInt8} (hline : ∀ b ∈ line, b ≠ lineEnd ∧ b ≠ 0) :
    (board.Unheard (board.feedAll (line ++ [lineEnd])) ↔
      ∀ c ∈ commandTable artifacts.assignments,
        Utf8.encode c.line ≠ line.take circuit.capacity)
    ∧ ∀ c ∈ commandTable artifacts.assignments,
        Utf8.encode c.line = line.take circuit.capacity →
          board.feedAll (line ++ [lineEnd])
            = { board with dispatched := board.dispatched + 1 }.act c := by
  have hs := (rendered_of_render hrender).served
  have hcircuit := Board.circuit_of_reaches hreaches
  subst hcircuit
  have hfed := feedAll_idle hline hpending hidle
  have hacts : ∀ c ∈ commandTable artifacts.assignments,
      Utf8.encode c.line = line.take board.circuit.capacity →
        board.feedAll (line ++ [lineEnd])
          = { board with dispatched := board.dispatched + 1 }.act c := by
    intro c hc hfront
    rw [hfed, (command?_eq_some_iff hs hcommands).2 ⟨hc, hfront⟩]
  refine ⟨⟨fun hunheard c hc hfront => ?_, fun hnone => ?_⟩, hacts⟩
  · -- an acting command would have been counted
    have hcount := hunheard.dispatched
    rw [hacts c hc hfront, (act_counts _ c).1] at hcount
    exact Nat.succ_ne_self _ hcount
  · rw [← hcommands] at hnone
    rw [hfed, command?_eq_none_iff.2 hnone]
    exact ⟨rfl, rfl, fun _ => rfl, rfl, rfl, rfl⟩

/-- A line of nine letters on a board that keeps eight. -/
theorem unheard_iff_front_rover :
    let firmware : Firmware := { accumulatorSize := 8 }
    let circuit := firmware.circuit roverAssignments
    let line := List.replicate 9 0x58
    ∃ generator, Generator.ofParts .uno firmware = .ok generator
      ∧ generator.render rover = .ok (roverArtifacts firmware)
      ∧ circuit.Reaches circuit.start ∧ circuit.start.waiting? = none
      ∧ circuit.capacity < line.length
      ∧ circuit.start.Unheard (circuit.start.feedAll (line ++ [lineEnd])) := by
  intro firmware circuit line
  have haccepted : firmware.refusal? = none := by decide +kernel
  have hrender : Generator.render ⟨.uno, firmware, haccepted⟩ rover
      = .ok (roverArtifacts firmware) := render_rover rfl
  have hreaches : circuit.Reaches circuit.start := ⟨[], rfl⟩
  have hidle := start_idle circuit
  have hline : ∀ b ∈ line, b ≠ lineEnd ∧ b ≠ 0 := by
    intro b hb
    rw [List.eq_of_mem_replicate hb]
    decide
  refine ⟨_, ofParts_accepted .uno haccepted, hrender, hreaches, hidle, by decide, ?_⟩
  exact (unheard_iff_front hrender rfl hreaches hidle rfl hline).1.2 (by decide)

/-- On a board that keeps fourteen bytes a command to one switch, cut off,
opens the other. -/
theorem cut_off_line_opens_other_switch :
    let firmware : Firmware := { accumulatorSize := 14 }
    let circuit := firmware.circuit roverAssignments
    let line := Utf8.encode "SWITCH_OPEN S12"
    let after := circuit.start.feedAll (line ++ [lineEnd])
    (∃ generator, Generator.ofParts .uno firmware = .ok generator
        ∧ generator.render rover = .ok (roverArtifacts firmware))
      ∧ circuit.Reaches circuit.start ∧ circuit.start.waiting? = none
      ∧ circuit.start.pending = [] ∧ circuit.capacity < line.length
      ∧ (∀ b ∈ line, b ≠ lineEnd ∧ b ≠ 0)
      ∧ circuit.start.levels 5 = none ∧ after.levels 5 = some .low
      ∧ after.levels 6 = none ∧ after.dispatched = 1 ∧ after.unmatched = 0
      ∧ ¬ circuit.start.Unheard after := by
  intro firmware circuit line after
  have haccepted : firmware.refusal? = none := by decide +kernel
  have hdispatched : after.dispatched = 1 := by decide
  have hbytes : line.all (fun b => b != lineEnd && b != 0) = true := by decide
  have hline : ∀ b ∈ line, b ≠ lineEnd ∧ b ≠ 0 := by
    intro b hb
    simpa using List.all_eq_true.1 hbytes b hb
  refine ⟨⟨_, ofParts_accepted .uno haccepted, render_rover rfl⟩, ⟨[], rfl⟩,
    start_idle circuit, rfl, by decide, hline, rfl, by decide, by decide, hdispatched,
    by decide, ?_⟩
  intro hunheard
  have hcount := hunheard.dispatched
  rw [hdispatched] at hcount
  cases hcount

end SerialEndpoint
