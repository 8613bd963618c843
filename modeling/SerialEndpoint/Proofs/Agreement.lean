/-
The sketch and the keymaps of one rendering agree (`agreement_of_render`).
Both are made from the same assignments, but neither knows of the other: the
sketch is a text, and a keymap is a map that could lose a line to another of
the same key.

# The sketch

The commands of a sketch are read back from its text alone, from the
comparisons in it (`commandTexts`). Only the branches of commands have such a
line, one each, and its quoted text is the command; the form skips what all
other lines begin with. So the commands are the command table, in its order
(`Firmware.commandTexts_sketch`).

# The keymaps

The table is the same list that the keymaps were made of, so what is left is
said of the table: no line stands in it twice, and the lines with the name of
a component are those of that component (`filter_addressee`). Up to its order
these are what the component's keymap holds (`ofCommands_lines_perm`).
-/
import SerialEndpoint.Proofs.Keymaps
import SerialEndpoint.Proofs.Sketch.Program
import SerialEndpoint.Proofs.Sketch.Sections

namespace SerialEndpoint

open Sketch

-- ======================================================= reading back

/-- The quoted texts of all lines of a sketch that compare a received line
with a command, in order. -/
def commandTexts (sketch : String) : List String :=
  ((sourceLines sketch).filterMap commandForm.read?).flatten

namespace Firmware

/-- The branch of a command is read as the command's line. -/
theorem filterMap_commandBranch (firmware : Firmware) {a : Assignment}
    (hn : isComponentName a.name = true) {command : Command}
    (hc : command ∈ a.commands) :
    ((firmware.commandBranch a command).map fun line => line.content.toList).filterMap
        commandForm.read?
      = [[command.line]] := by
  have hplain := line_plain (commands_component a command hc ▸ hn)
  have hfits := quoted_fits hplain
  have hhead : commandForm.read?
      (Line.opening ("if (strcmp(command, \"" ++ command.line ++ "\") == 0)")).content.toList
        = some [command.line] := by
    have hread : commandForm.read? (commandForm.fill [command.line])
        = some [command.line] :=
      Form.read?_fill (by decide) (.cons hfits .nil)
    rw [← hread]
    congr 1
    simp [Line.content, Form.fill, fillParts, commandForm]
  have hrest : ((firmware.actionLines a command.action ++
      [Line.plain "return;", Line.closing]).map fun line => line.content.toList).filterMap
        commandForm.read? = [] := by
    have hbegins : ∀ line ∈ firmware.actionLines a command.action ++
        [Line.plain "return;", Line.closing], line.Begins branchHeads := by
      rw [List.forall_mem_append]
      exact ⟨actionLines_begins firmware hn command.action, by decide⟩
    exact filterMap_skipped hbegins (by decide)
  unfold commandBranch
  rw [List.append_assoc, List.singleton_append, List.map_cons,
    List.filterMap_cons_some hhead, hrest]

/-- The dispatching function is read as the command table. -/
theorem filterMap_dispatch (firmware : Firmware) {assignments : List Assignment}
    (hnamed : ∀ a ∈ assignments, isComponentName a.name = true) :
    ((firmware.dispatch assignments).map fun line => line.content.toList).filterMap
        commandForm.read?
      = (commandTable assignments).map fun c => [c.line] := by
  have hduties : ((assignments.flatMap dutyBranch).map
      fun line => line.content.toList).filterMap commandForm.read? = [] := by
    have hbegins : ∀ line ∈ assignments.flatMap dutyBranch,
        line.Begins branchHeads := by
      rw [List.forall_mem_flatMap]
      exact fun a ha => dutyBranch_begins (hnamed a ha)
    exact filterMap_skipped hbegins (by decide)
  have hbranches : ((assignments.flatMap firmware.componentBranches).map
      fun line => line.content.toList).filterMap commandForm.read?
        = (commandTable assignments).map fun c => [c.line] := by
    unfold commandTable componentBranches
    rw [List.map_flatMap, List.filterMap_flatMap, List.map_flatMap]
    refine List.flatMap_congr fun a ha => ?_
    rw [List.map_flatMap, List.filterMap_flatMap, List.map_eq_flatMap]
    exact List.flatMap_congr fun c hc =>
      filterMap_commandBranch firmware (hnamed a ha) hc
  have hopen : ([Line.opening "void dispatchCommand(const char *command)"].map
      fun line => line.content.toList).filterMap commandForm.read? = [] := by
    decide
  have hclose : ([Line.plain "// unmatched lines are discarded", .closing, .blank].map
      fun line => line.content.toList).filterMap commandForm.read? = [] := by
    decide
  unfold dispatch
  simp only [List.map_append, List.filterMap_append]
  rw [hopen, hduties, hbranches, hclose, List.nil_append, List.nil_append,
    List.append_nil]

/-- The commands read back from a sketch are the lines of the command
table. -/
theorem commandTexts_sketch {firmware : Firmware} {assignments : List Assignment}
    (haccepted : firmware.refusal? = none)
    (hnamed : ∀ a ∈ assignments, isComponentName a.name = true) :
    commandTexts (firmware.sketch assignments)
      = (commandTable assignments).map Command.line := by
  unfold commandTexts
  rw [sourceLines_sketch haccepted hnamed, sketchLines_sections]
  simp only [List.map_append, List.filterMap_append]
  rw [filterMap_skipped (preamble_begins _ _) (by decide),
    filterMap_skipped (globals_begins hnamed) (by decide),
    filterMap_skipped (setupPart_begins haccepted hnamed) (by decide),
    filterMap_skipped loop_begins (by decide),
    filterMap_dispatch firmware hnamed, List.nil_append, List.nil_append,
    List.nil_append, List.append_nil, ← List.flatMap_def, ← List.map_eq_flatMap]

end Firmware

-- ========================================================== agreement

/-- A sketch and keymaps that agree. -/
structure Agreement (artifacts : Artifacts) : Prop where
  /-- The commands of the sketch are the command table, in its order. -/
  table : commandTexts artifacts.sketch
    = (commandTable artifacts.assignments).map Command.line
  /-- No command stands in the sketch twice. -/
  distinct : (commandTexts artifacts.sketch).Nodup
  /-- A component with commands has one keymap, and what carries its name
  in the sketch is what that keymap holds. -/
  shared : ∀ a ∈ artifacts.assignments, a.commands ≠ [] →
    ∃ file, artifacts.keymaps.filter (fun f => f.component = a.name) = [file]
      ∧ ((commandTexts artifacts.sketch).filter fun text => addressee text = a.name).Perm
          file.keymap.lines
  /-- A component without commands has none of either. -/
  bare : ∀ a ∈ artifacts.assignments, a.commands = [] →
    artifacts.keymaps.filter (fun f => f.component = a.name) = []
      ∧ ((commandTexts artifacts.sketch).filter fun text => addressee text = a.name) = []
  /-- Every keymap is that of a component with commands. -/
  owned : ∀ file ∈ artifacts.keymaps,
    ∃ a ∈ artifacts.assignments, a.commands ≠ [] ∧ file.component = a.name

/-- Whatever is rendered, its sketch and its keymaps agree. -/
theorem agreement_of_render {pools : Pools} {firmware : Firmware}
    {generator : Generator} {agent : Agent} {artifacts : Artifacts}
    (hmade : Generator.ofParts pools firmware = .ok generator)
    (hrender : generator.render agent = .ok artifacts) : Agreement artifacts := by
  obtain ⟨-, rfl, haccepted⟩ := ofParts_ok hmade
  have hr := rendered_of_render hrender
  have hs := hr.served
  have htable : commandTexts artifacts.sketch
      = (commandTable artifacts.assignments).map Command.line := by
    rw [hr.sketch_eq]
    exact Firmware.commandTexts_sketch haccepted hs.named
  refine ⟨htable, ?_, fun a ha hne => ?_, fun a ha hnil => ?_, fun file hfile => ?_⟩
  · rw [htable]
    exact commandLines_nodup hs
  · rw [htable, hr.keymaps_eq, filter_addressee hs ha, filter_keymapFiles hs ha]
    unfold Assignment.keymapFile?
    rw [if_neg hne]
    exact ⟨_, rfl, (ofCommands_lines_perm a).symm⟩
  · rw [htable, hr.keymaps_eq, filter_addressee hs ha, filter_keymapFiles hs ha, hnil]
    unfold Assignment.keymapFile?
    rw [if_pos hnil]
    exact ⟨rfl, rfl⟩
  · rw [hr.keymaps_eq] at hfile
    obtain ⟨a, ha, hne, hname, -⟩ := mem_keymapFiles hfile
    exact ⟨a, ha, hne, hname⟩

/-- A component of every kind, with the settings that stand if nothing else
is said. -/
theorem agreement_rover :
    ∃ generator, Generator.ofParts .uno {} = .ok generator
      ∧ generator.render rover = .ok (roverArtifacts {})
      ∧ Agreement (roverArtifacts {}) := by
  have haccepted : ({} : Firmware).refusal? = none := by decide +kernel
  have hmade := ofParts_accepted .uno haccepted
  have hrender : Generator.render ⟨.uno, {}, haccepted⟩ rover
      = .ok (roverArtifacts {}) := render_rover rfl
  exact ⟨_, hmade, hrender, agreement_of_render hmade hrender⟩

end SerialEndpoint
