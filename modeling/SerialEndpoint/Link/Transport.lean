/-
The transport: a link over one byte stream, a line for each message.

The transport keeps the bytes of a line that is begun, whatever ends the
read; only a complete line, or the end of the stream, takes them. Its
statistics count every write and every read once, by how it ended. An
operation with a follow-up is one step, so no other client comes between
its halves.
-/
import SerialEndpoint.Link
import SerialEndpoint.Link.Frame
import SerialEndpoint.Link.Outlet
import SerialEndpoint.Text.Utf8

namespace SerialEndpoint

-- ========================================================== statistics

/-- What went over a stream so far. The counts are taken not to reach
2 ^ 64, where a counter of the machine has its end. -/
structure Stats where
  bytesSent : Nat := 0
  bytesReceived : Nat := 0
  messagesSent : Nat := 0
  messagesReceived : Nat := 0
  /-- Characters that could not be sent as they are. -/
  replaced : Nat := 0
  errors : Nat := 0
  timeouts : Nat := 0
deriving DecidableEq

namespace Stats

/-- Counts a frame sent. -/
def sent (stats : Stats) (frame : Frame) : Stats :=
  { stats with
    messagesSent := stats.messagesSent + 1
    bytesSent := stats.bytesSent + frame.bytes.length
    replaced := stats.replaced + frame.replaced }

/-- Counts a line received; its line end counts too. -/
def received (stats : Stats) (line : List UInt8) : Stats :=
  { stats with
    messagesReceived := stats.messagesReceived + 1
    bytesReceived := stats.bytesReceived + line.length + 1 }

/-- Counts a failure. -/
def failed (stats : Stats) : Stats := { stats with errors := stats.errors + 1 }

/-- Counts a wait in vain. -/
def timedOut (stats : Stats) : Stats := { stats with timeouts := stats.timeouts + 1 }

end Stats

-- ============================================================ transport

/-- A link over a stream with a peer at its far end. -/
structure Transport (π : Type) where
  peer : π
  /-- How long a write or a read may take. -/
  limit : Duration
  inbox : List Arrival := []
  /-- The bytes of the line that is begun. -/
  begun : List UInt8 := []
  /-- Every byte the stream has taken. -/
  written : List UInt8 := []
  stats : Stats := {}

namespace Transport

variable {π : Type} [Peer π]

/-- The transport as messages show it. -/
def text (transport : Transport π) : String :=
  "SerialTransport \x7b read_timeout: " ++ transport.limit.text ++ " \x7d"

/-- Sends a message as a frame. -/
def send (message : String) : OnLink (Transport π) Unit := do
  let transport ← get
  let frame := Frame.ofMessage message
  let answer := Peer.offer transport.peer frame.bytes
  let next := { transport with
    peer := answer.peer
    inbox := transport.inbox ++ answer.arrivals
    written := transport.written ++ answer.uptake.taken frame.bytes }
  match answer.uptake with
  | .whole => set { next with stats := transport.stats.sent frame }
  | .cut _ (.failed fault) =>
    set { next with stats := transport.stats.failed }
    throw (.stream fault)
  | .cut _ .blocked =>
    set { next with stats := transport.stats.timedOut }
    throw (.timeout transport.limit)

/-- Receives a line. The end of the stream ends a line that is begun. -/
def receive : OnLink (Transport π) String := do
  let transport ← get
  let reading := readLine transport.begun transport.inbox
  let next := { transport with begun := reading.begun, inbox := reading.inbox }
  match reading.outcome with
  | .line bytes =>
    set { next with stats := transport.stats.received bytes }
    pure (Utf8.decodeLossy bytes)
  | .theEnd =>
    if reading.begun = [] then
      set { next with stats := transport.stats.failed }
      throw .closed
    else
      set { next with begun := [], stats := transport.stats.received reading.begun }
      pure (Utf8.decodeLossy reading.begun)
  | .failure fault =>
    set { next with stats := transport.stats.failed }
    throw (.stream fault)
  | .silence =>
    set { next with stats := transport.stats.timedOut }
    throw (.timeout transport.limit)

/-- Does what follows a message; a receive has a reply. -/
def follow : FollowUp → OnLink (Transport π) (Option String)
  | .send message => do
    send message
    pure none
  | .receive => some <$> receive

/-- Sends a message and does what follows it. -/
def sendThen (message : String) (followUp : FollowUp) : OnLink (Transport π) (Option String) := do
  send message
  follow followUp

/-- Receives a message and does what follows it. -/
def receiveThen (followUp : FollowUp) : OnLink (Transport π) (String × Option String) := do
  let received ← receive
  let reply ← follow followUp
  pure (received, reply)

/-- Sends a message and does what follows it, given by name. A name that
means nothing fails before anything is sent. -/
def sendThenNamed (message name : String) (argument : Option String) :
    OnLink (Transport π) (Option String) :=
  match FollowUp.named name argument with
  | .ok followUp => sendThen message followUp
  | .error fault => throw fault

/-- The transport with fresh statistics. -/
def restarted (transport : Transport π) : Transport π := { transport with stats := {} }

/-- Puts arrivals behind those in the inbox. -/
def arriving (transport : Transport π) (arrivals : List Arrival) : Transport π :=
  { transport with inbox := transport.inbox ++ arrivals }

instance : Link (Transport π) where
  send := send
  receive := receive
  sendThen := sendThen

end Transport

end SerialEndpoint
