/-
Generation: from an agent to everything that is made for it.

A generator holds pools and settings that have been accepted. Rendering
discovers the components, gives them their pins and makes the sketch and
the keymaps from that one allocation, so the two agree; it touches no
file.
-/
import SerialEndpoint.Agent
import SerialEndpoint.Pin.Allocation
import SerialEndpoint.Sketch
import SerialEndpoint.Keymap.Export

namespace SerialEndpoint

-- ============================================================== faults

/-- Why nothing was generated. -/
inductive GenerationFault where
  | agent (fault : AgentFault)
  | exhausted (fault : Exhausted)
  | pools (fault : PoolFault)
  | settings (fault : SettingsFault)
  | file (fault : Fault)
deriving DecidableEq

/-- The message of a fault. -/
def GenerationFault.message : GenerationFault → String
  | agent fault => fault.message
  | exhausted fault => fault.message
  | pools fault => "invalid pin pools: " ++ fault.message
  | settings fault => fault.message
  | file fault => "IO error: " ++ fault.text

-- =========================================================== rendering

/-- Everything that is made for one agent. -/
structure Artifacts where
  agent : String
  assignments : List Assignment
  sketch : String
  keymaps : List KeymapFile

/-- Pools, and settings that can stand in a sketch. -/
structure Generator where
  pools : Pools
  firmware : Firmware
  accepted : firmware.refusal? = none

namespace Generator

/-- The generator for some pools and settings. -/
def ofParts (pools : Pools) (firmware : Firmware) : Except GenerationFault Generator :=
  match h : firmware.refusal? with
  | some refusal => .error (.settings (.refused refusal))
  | none => .ok ⟨pools, firmware, h⟩

/-- The generator for a board and settings; the pools are checked
first. -/
def ofBoard (board : BoardChoice) (firmware : Firmware) : Except GenerationFault Generator :=
  match board.pools with
  | .error fault => .error (.pools fault)
  | .ok pools => ofParts pools firmware

/-- The generator for a settings file. -/
def ofSettings (settings : Settings) : Except GenerationFault Generator :=
  ofBoard settings.board settings.firmware

/-- Makes everything for an agent. -/
def render (generator : Generator) (agent : Agent) : Except GenerationFault Artifacts :=
  match agent.discover with
  | .error fault => .error (.agent fault)
  | .ok registry =>
    match generator.pools.allocate registry.components with
    | .error fault => .error (.exhausted fault)
    | .ok allocation => .ok
      { agent := registry.agent
        assignments := allocation.assignments
        sketch := generator.firmware.sketch allocation.assignments
        keymaps := keymapFiles allocation.assignments }

end Generator

end SerialEndpoint
