/-
Agents: the declared parts of one robot, and which of them the endpoint
knows how to serve.

`Agent.discover` keeps the entries whose kind it recognises, in their
order. A recognised entry needs a name that can stand in a command line
and in an identifier, and that no earlier recognised entry has.
-/
import SerialEndpoint.Component
import SerialEndpoint.Fault

namespace SerialEndpoint

-- ============================================================= agents

/-- One declared component, as an agent file gives it. -/
structure Entry where
  name : String
  /-- The kind's tag; an unknown tag makes the entry one to skip. -/
  tag : String
  pwm : Bool := true
  direction : Bool := true
  ignored : Bool := false
deriving DecidableEq

namespace Entry

/-- A motor with the given switches. -/
def motor (name : String) (pwm direction : Bool) : Entry :=
  { name, tag := "motor", pwm, direction }

/-- A distance sensor. -/
def distanceSensor (name : String) : Entry := { name, tag := "distance_sensor" }

/-- A voltage sensor. -/
def voltageSensor (name : String) : Entry := { name, tag := "voltage_sensor" }

/-- A switch. -/
def switch (name : String) : Entry := { name, tag := "switch" }

/-- A generic component. -/
def generic (name : String) : Entry := { name, tag := "generic" }

/-- The kind that a tag stands for; ASCII letters count in either case. -/
def kind? (entry : Entry) : Option Kind :=
  let tag := String.ofList (entry.tag.toList.map Char.toLower)
  if tag = "motor" then some (.motor entry.pwm entry.direction)
  else if tag = "distance_sensor" ∨ tag = "vl53l0x" then some .distanceSensor
  else if tag = "voltage_sensor" then some .voltageSensor
  else if tag = "switch" then some .switch
  else if tag = "generic" then some (.generic entry.ignored)
  else none

end Entry

/-- A robot's name and its components in the order of declaration. -/
structure Agent where
  name : String
  entries : List Entry := []
deriving DecidableEq

-- ============================================================== names

/-- A letter of ASCII or the underscore. -/
def isNameStart (c : Char) : Bool := c.isAlpha || c == '_'

/-- A letter or a digit of ASCII or the underscore. -/
def isNameChar (c : Char) : Bool := c.isAlphanum || c == '_'

/-- True of a name that can stand in a command line and in an
identifier. -/
def isComponentName (name : String) : Bool :=
  match name.toList with
  | [] => false
  | c :: rest => isNameStart c && rest.all isNameChar

-- ========================================================== discovery

/-- Why an agent cannot be served. -/
inductive AgentFault where
  | file (fault : Fault)
  /-- The agent file is no agent definition. -/
  | malformed
  | noComponents (agent : String)
  | duplicateName (name : String)
  | invalidName (name : String)
deriving DecidableEq

/-- The message of a fault. -/
def AgentFault.message : AgentFault → String
  | file fault => "IO error: " ++ fault.text
  | malformed => "TOML parse error"
  | noComponents agent => "agent '" ++ agent ++ "' declares no recognized components"
  | duplicateName name => "component name '" ++ name ++ "' is declared more than once"
  | invalidName name =>
    "component name '" ++ name ++
      "' must be ASCII letters, digits or '_' and not start with a digit"

/-- The recognised components of an agent, in the order of declaration. -/
structure Registry where
  agent : String
  components : List Component
deriving DecidableEq

/-- The components of some entries, given the names taken before them. -/
def discoverEntries (taken : List String) : List Entry → Except AgentFault (List Component)
  | [] => .ok []
  | entry :: rest =>
    match entry.kind? with
    | none => discoverEntries taken rest
    | some kind =>
      if !isComponentName entry.name then .error (.invalidName entry.name)
      else if entry.name ∈ taken then .error (.duplicateName entry.name)
      else (⟨entry.name, kind⟩ :: ·) <$> discoverEntries (entry.name :: taken) rest

/-- The registry of an agent. Having no recognised component at all is a
fault of its own, reported only when nothing else is wrong. -/
def Agent.discover (agent : Agent) : Except AgentFault Registry :=
  match discoverEntries [] agent.entries with
  | .error fault => .error fault
  | .ok [] => .error (.noComponents agent.name)
  | .ok components => .ok ⟨agent.name, components⟩

end SerialEndpoint
