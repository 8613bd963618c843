/-
A rehearsal: a link without a board, for trying out devices. It records
what is sent, replies from a list, and fails the sends it is told to.
-/
import SerialEndpoint.Link

namespace SerialEndpoint

/-- What a receive of a rehearsal gives. -/
inductive Reply where
  | text (text : String)
  /-- Neither a message nor a fault. -/
  | nothing
  | fault (fault : LinkFault)
deriving DecidableEq

/-- A link that follows a script. -/
structure Rehearsal where
  /-- What the receives give; after them the link is closed. -/
  replies : List Reply := []
  /-- Which sends fail, counted from one. -/
  failing : List Nat := []
  /-- How many sends there were. -/
  attempts : Nat := 0
  /-- The messages of the sends that did not fail. -/
  sent : List String := []
deriving DecidableEq

namespace Rehearsal

/-- Records a message, unless this send is to fail. -/
def send (message : String) : OnLink Rehearsal Unit := do
  let link ← get
  let next := { link with attempts := link.attempts + 1 }
  if next.attempts ∈ link.failing then
    set next
    throw .closed
  else set { next with sent := link.sent ++ [message] }

/-- The next reply. -/
def reply : OnLink Rehearsal (Option String) := do
  let link ← get
  match link.replies with
  | [] => throw .closed
  | first :: rest =>
    set { link with replies := rest }
    match first with
    | .text text => pure (some text)
    | .nothing => pure none
    | .fault fault => throw fault

instance : Link Rehearsal where
  send := send
  receive := do
    match ← reply with
    | some text => pure text
    | none => throw .closed
  sendThen message followUp := do
    send message
    match followUp with
    | .send next =>
      send next
      pure none
    | .receive => reply

end Rehearsal

end SerialEndpoint
