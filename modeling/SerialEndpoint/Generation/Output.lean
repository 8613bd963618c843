/-
Generation with files: reading settings and agents, and writing what is
made for an agent into a directory.
-/
import SerialEndpoint.Agent.Reading
import SerialEndpoint.Settings.Reading
import SerialEndpoint.Generation
import SerialEndpoint.Storage

namespace SerialEndpoint

variable {m : Type → Type} [Monad m] [MonadExceptOf Fault m] [Storage m]

-- ============================================================== reading

/-- The agent that a file defines. -/
def Agent.load (path : String) : ExceptT AgentFault m Agent := do
  let text ← Storage.reporting AgentFault.file (Storage.readText path)
  settled (Agent.ofText text)

/-- The settings that a file gives, with its relative places taken from
the directory it is in. -/
def Settings.load (path : String) : ExceptT SettingsFault m Settings := do
  let text ← Storage.reporting SettingsFault.file (Storage.readText path)
  let settings ← settled (Settings.ofText text)
  let settings := match FilePath.parent? path with
    | some base => settings.placedIn base
    | none => settings
  settled (settings.check.mapError SettingsFault.refused)
  pure settings

-- ============================================================== writing

/-- The files for an agent: the sketch, and the keymaps in order. -/
def Artifacts.files (artifacts : Artifacts) : List (String × String) :=
  (sketchFileName, artifacts.sketch) ::
    artifacts.keymaps.map fun file => (file.fileName, file.keymap.json)

/-- True of the name of a keymap that is not among the new ones. -/
def Artifacts.isStale (artifacts : Artifacts) (name : String) : Bool :=
  keymapFileEnd.toList.isSuffixOf name.toList &&
    !(artifacts.keymaps.any fun file => file.fileName = name)

/-- Writes the files for an agent into a directory, made if it is missing,
and removes the keymaps that are left over there. The places of the files
are the result. -/
def Artifacts.writeTo (artifacts : Artifacts) (dir : String) : m (List String) := do
  Storage.makeDirectories (dir.length + 1) dir
  Storage.replace dir (artifacts.files.map fun file => (file.1, Utf8.encode file.2))
    artifacts.isStale

namespace Generator

/-- Makes everything for an agent and writes it into a directory. -/
def generate (generator : Generator) (agent : Agent) (dir : String) :
    ExceptT GenerationFault m Artifacts := do
  let artifacts ← settled (generator.render agent)
  let _ ← Storage.reporting GenerationFault.file (artifacts.writeTo dir)
  pure artifacts

end Generator

/-- Generates what settings ask for: the agent file is read first. -/
def Settings.generate (settings : Settings) : ExceptT GenerationFault m Artifacts := do
  let agent ← (Agent.load settings.places.agent).adapt GenerationFault.agent
  let generator ← settled (Generator.ofSettings settings)
  generator.generate agent settings.places.output

end SerialEndpoint
