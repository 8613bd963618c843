/-
The keymaps of an allocation: one for each component that has commands.
-/
import SerialEndpoint.Keymap.Json

namespace SerialEndpoint

/-- The end of every keymap file's name. -/
def keymapFileEnd : String := "_keymap.json"

/-- A keymap ready to be written. -/
structure KeymapFile where
  component : String
  fileName : String
  keymap : Keymap

/-- The file that a component's keymap goes into. -/
def Assignment.keymapFileName (a : Assignment) : String :=
  a.kind.label ++ "_" ++ a.name ++ keymapFileEnd

/-- The keymap of one component, unless it has no commands. -/
def Assignment.keymapFile? (a : Assignment) : Option KeymapFile :=
  if a.commands = [] then none
  else some ⟨a.name, a.keymapFileName, Keymap.ofCommands a.commands⟩

/-- The keymaps of an allocation, in its order. -/
def keymapFiles (assignments : List Assignment) : List KeymapFile :=
  assignments.filterMap Assignment.keymapFile?

end SerialEndpoint
