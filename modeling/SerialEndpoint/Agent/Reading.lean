/-
Agent definitions as TOML.
-/
import SerialEndpoint.Agent
import SerialEndpoint.Toml.Document
import SerialEndpoint.Toml.Fields

namespace SerialEndpoint

open Toml

/-- A component entry: its name and kind, then its switches. -/
def Entry.ofToml? (value : Value) : Option Entry := do
  let fields ← value.fields? ["name", "kind", "pwm", "direction", "generate_ignore"]
  let name ← fields.required? "name" Value.text?
  let tag ← fields.required? "kind" Value.text?
  let pwm ← fields.orDefault? "pwm" Value.flag? true
  let direction ← fields.orDefault? "direction" Value.flag? true
  let ignored ← fields.orDefault? "generate_ignore" Value.flag? false
  pure { name, tag, pwm, direction, ignored }

/-- An agent: its name and its components. -/
def Agent.ofToml? (value : Value) : Option Agent := do
  let fields ← value.fields? ["name", "components"]
  let name ← fields.required? "name" Value.text?
  let entries ← fields.orDefault? "components" (Value.list? Entry.ofToml?) []
  pure { name, entries }

/-- The agent that a TOML text defines. -/
def Agent.ofText (text : String) : Except AgentFault Agent :=
  match (readDocument? text).bind fun root => ofToml? (.table .opened root) with
  | some agent => .ok agent
  | none => .error .malformed

end SerialEndpoint
