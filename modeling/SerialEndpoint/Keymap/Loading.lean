/-
Keymaps from files.
-/
import SerialEndpoint.Keymap.Json
import SerialEndpoint.Storage

namespace SerialEndpoint

/-- Why a keymap cannot be loaded. -/
inductive KeymapFault where
  | file (fault : Fault)
  /-- The file is no keymap. -/
  | malformed
deriving DecidableEq

/-- The keymap in a file. -/
def Keymap.load {m : Type → Type} [Monad m] [MonadExceptOf Fault m] [Storage m] (path : String) :
    ExceptT KeymapFault m Keymap := do
  match Keymap.ofJson? (← Storage.reporting KeymapFault.file (Storage.readText path)) with
  | some keymap => pure keymap
  | none => throw .malformed

end SerialEndpoint
