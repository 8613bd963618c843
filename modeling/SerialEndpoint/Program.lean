/-
The program: what a command line does to the files around it, and what it
prints.
-/
import SerialEndpoint.CommandLine
import SerialEndpoint.CommandLine.Help
import SerialEndpoint.Generation.Output
import SerialEndpoint.Link.FollowUp
import SerialEndpoint.Text.Logged

namespace SerialEndpoint

/-- How a run ended: its exit code, what it printed, and the text of its
error as the log has it. -/
structure Outcome where
  exit : Nat
  printed : List String := []
  error : Option String := none
deriving DecidableEq

variable {m : Type → Type} [Monad m] [MonadExceptOf Fault m] [Storage m]

namespace Outcome

/-- A run without errors. -/
def success (printed : List String) : Outcome := { exit := 0, printed }

/-- A run with an error. -/
def failure (error : String) : Outcome := { exit := 1, error := some (Logged.encode error) }

/-- What a step with an outcome or an error comes to. -/
def ofStep (step : ExceptT String m Outcome) : m Outcome := do
  match ← step.run with
  | .ok outcome => pure outcome
  | .error error => pure (failure error)

end Outcome

/-- What is printed about a generation. -/
def Artifacts.report (artifacts : Artifacts) (output : String) : List String :=
  ["Agent '" ++ artifacts.agent ++ "'"] ++
  artifacts.assignments.map (fun a => "  " ++ a.summary) ++
  ["Wrote " ++ sketchFileName ++ " and " ++ toString artifacts.keymaps.length ++
    " keymaps to " ++ output]

/-- Generates from a settings file. -/
def runGenerate (path : String) : m Outcome :=
  Outcome.ofStep do
    let settings ← (Settings.load path).adapt SettingsFault.message
    let artifacts ← settings.generate.adapt GenerationFault.message
    pure (.success (artifacts.report settings.places.output))

/-- Opens the serial line that a task asks for. -/
def runSend (task : CommandLine.SendTask) : m Outcome :=
  Outcome.ofStep do
    let serial ← match task.settings with
      | some path => Settings.serial <$> (Settings.load path).adapt SettingsFault.message
      | none => pure {}
    let cause (fault : Fault) : String := (LinkFault.stream fault).message
    let fault ← Storage.reporting cause (Storage.openLine (task.serial serial).port)
    throw (cause fault)

/-- Runs the program with some arguments. -/
def runProgram (arguments : List String) : m Outcome :=
  match CommandLine.read arguments with
  | .error (.help topic) => pure (.success topic.helpLines)
  | .error .version => pure (.success [CommandLine.version])
  | .error (.fault _) => pure { exit := 2 }
  | .ok invocation =>
    match invocation.task with
    | .generate path => runGenerate path
    | .send task => runSend task

end SerialEndpoint
