/-
Requests: what a device asks of its link, read off its keymap.

A script is a list of requests in the order in which they are made. A
request for which the keymap has no line stands in it as a fault, and
making the requests stops at the first fault of either kind.
-/
import SerialEndpoint.Keymap
import SerialEndpoint.Link

namespace SerialEndpoint

-- ============================================================== faults

/-- Why an operation of a device failed. -/
inductive DeviceFault where
  /-- The keymap has no line for this key. -/
  | missingKey (key : String)
  /-- The reply says nothing that the device can give. -/
  | unreadable (reply : String)
  | link (fault : LinkFault)
deriving DecidableEq

/-- The message of a fault. -/
def DeviceFault.message : DeviceFault → String
  | missingKey key => "keymap has no '" ++ key ++ "' command"
  | unreadable reply => "unreadable reply '" ++ reply ++ "'"
  | link fault => fault.message

-- ============================================================ requests

/-- Something to send. -/
inductive Request where
  | single (line : String)
  /-- Two lines with nothing in between. -/
  | pair (first second : String)
deriving DecidableEq

/-- The lines of a request. -/
def Request.lines : Request → List String
  | single line => [line]
  | pair first second => [first, second]

/-- The line of an operation. -/
def Keymap.line (keymap : Keymap) (operation : Operation) : Except DeviceFault String :=
  match keymap.get? operation with
  | some line => .ok line
  | none => .error (.missingKey operation.key)

/-- The request that sends the line of an operation. -/
def Keymap.request (keymap : Keymap) (operation : Operation) : Except DeviceFault Request :=
  Request.single <$> keymap.line operation

/-- Requests in order, each with what may keep it from being made. -/
abbrev Script := List (Except DeviceFault Request)

-- ============================================================== making

/-- A step of a device on its link. -/
abbrev OnDevice (l : Type) := EStateM DeviceFault l

variable {l : Type} [Link l]

/-- A step of the link as a step of a device. -/
def OnLink.toDevice {α : Type} (step : OnLink l α) : OnDevice l α := fun link =>
  match step link with
  | .ok value link => .ok value link
  | .error fault link => .error (.link fault) link

/-- Makes a request. -/
def Request.make : Request → OnDevice l Unit
  | single line => (Link.send line).toDevice
  | pair first second => do
    let _ ← (Link.sendThen first (.send second)).toDevice

/-- Makes the requests of a script up to the first fault. -/
def Script.make : Script → OnDevice l Unit
  | [] => pure ()
  | .error fault :: _ => throw fault
  | .ok request :: rest => do
    request.make
    make rest

end SerialEndpoint
