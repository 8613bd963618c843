/-
Links: what the devices on the host need in order to talk to a board.

A link may fail in every operation, and it keeps what it became all the
same, so operations are steps of a state machine with faults.
-/
import SerialEndpoint.Link.FollowUp

namespace SerialEndpoint

/-- A step on a link: it changes the link, and it may fail. -/
abbrev OnLink (l : Type) := EStateM LinkFault l

/-- A channel for messages. -/
class Link (l : Type) where
  /-- Sends a message. -/
  send : String → OnLink l Unit
  /-- Receives a message. -/
  receive : OnLink l String
  /-- Sends a message and does what follows it, with nothing in between;
  a receive has a reply. -/
  sendThen : String → FollowUp → OnLink l (Option String)

end SerialEndpoint
