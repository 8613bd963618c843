/-
Clients that share one transport. Any number of them may call at any time;
each call is an exchange of one or two halves, and a client needs the lock
of the link for the whole of it. Whichever way an exchange ends, the lock is
given back in the step that ends it.

# What a step is

What a client does under the lock is cut into the steps in which others may
observe it: chunks of a frame that the stream takes, the flush behind it, a
line that is read. Every one of them may fail or run out of time. A chunk may
be of any length, so nothing is assumed of how the stream takes a frame, and
two chunks need not be next to each other in a run. A read is one step, for
while a client waits for a line nothing of it can be observed; what comes in
meanwhile has come in before that step.

The far end moves by itself. A `World` says what it may do given all that was
written, and a move of it is a step like any other.

# What is recorded

`Shared.turns` is no part of the transport. It records for each acquisition
whose turn it was and for which exchange, which bytes the stream took in it,
and how it ended. What there is to say about atomicity is said by comparing
the turns with what was written.
-/
import Mathlib.Logic.Relation
import SerialEndpoint.Proofs.Board.Slots
import SerialEndpoint.Proofs.Link.Operations

namespace SerialEndpoint

-- ============================================================ exchanges

/-- What a client can ask of a transport. -/
inductive Exchange where
  | send (message : String)
  | receive
  | sendThen (message : String) (followUp : FollowUp)
  | receiveThen (followUp : FollowUp)
  | sendThenNamed (message name : String) (argument : Option String)
deriving DecidableEq

/-- One half of an exchange. -/
inductive Half where
  | write (message : String)
  | read
deriving DecidableEq

/-- The half that a follow-up is. -/
def FollowUp.half : FollowUp → Half
  | send message => .write message
  | receive => .read

/-- The halves of an exchange in order. A name that means nothing is a
fault before the lock is asked for. -/
def Exchange.halves : Exchange → Except LinkFault (List Half)
  | send message => .ok [.write message]
  | receive => .ok [.read]
  | sendThen message followUp => .ok [.write message, followUp.half]
  | receiveThen followUp => .ok [.read, followUp.half]
  | sendThenNamed message name argument =>
    (fun followUp => [.write message, followUp.half]) <$> FollowUp.named name argument

/-- The bytes that some halves put on the stream. -/
def bytesOf (halves : List Half) : List UInt8 :=
  halves.flatMap fun
    | .write message => (Frame.ofMessage message).bytes
    | .read => []

theorem bytesOf_write (message : String) (halves : List Half) :
    bytesOf (.write message :: halves) = (Frame.ofMessage message).bytes ++ bytesOf halves :=
  List.flatMap_cons

/-- Why a frame was not sent to its end, as the client is told. -/
def Cut.fault (limit : Duration) : Cut → LinkFault
  | failed fault => .stream fault
  | blocked => .timeout limit

/-- Counts a frame that was not sent to its end. -/
def Cut.count (stats : Stats) : Cut → Stats
  | failed _ => stats.failed
  | blocked => stats.timedOut

-- =============================================================== states

/-- How an exchange ended: with what was heard, or with a fault. -/
abbrev Ending := Except LinkFault (List String)

/-- Where a client is. With the lock it is in a turn, and knows the number
of its turn, what it has heard and the halves that are left. -/
inductive Phase where
  | resting
  /-- Waits for the lock. -/
  | waiting (exchange : Exchange)
  /-- Has the lock, between two halves. -/
  | turning (number : Nat) (heard : List String) (halves : List Half)
  /-- Has the lock and writes a message, of whose frame some bytes are
  left. -/
  | writing (number : Nat) (heard : List String) (message : String) (left : List UInt8)
    (halves : List Half)
  /-- Has the lock, and a half has failed. -/
  | failing (number : Nat) (fault : LinkFault)
deriving DecidableEq

/-- The number of a client's turn, if it is in one. -/
def Phase.number? : Phase → Option Nat
  | turning number _ _ => some number
  | writing number _ _ _ _ => some number
  | failing number _ => some number
  | _ => none

/-- How a turn ends that has nothing left to do. -/
def Phase.outcome? : Phase → Option (Nat × Ending)
  | turning number heard [] => some (number, .ok heard)
  | failing number fault => some (number, .error fault)
  | _ => none

/-- What is known of a turn: whose it was and for what, the bytes that the
stream took in it, and how it ended. -/
structure Turn (κ : Type) where
  client : κ
  exchange : Exchange
  sent : List UInt8 := []
  outcome? : Option Ending := none

/-- A transport among clients. -/
structure Shared (κ π : Type) where
  link : Transport π
  /-- Who has the lock. -/
  holder : Option κ := none
  phase : κ → Phase := fun _ => .resting
  /-- The turns in the order in which the lock was acquired. -/
  turns : List (Turn κ) := []

namespace Shared

variable {κ π : Type} [DecidableEq κ]

/-- The state with a client in another phase. -/
def become (s : Shared κ π) (client : κ) (phase : Phase) : Shared κ π :=
  { s with phase := overlay s.phase client phase }

/-- The state once a client has acquired the lock. -/
def acquired (s : Shared κ π) (client : κ) (exchange : Exchange) (halves : List Half) :
    Shared κ π where
  link := s.link
  holder := some client
  phase := overlay s.phase client (.turning s.turns.length [] halves)
  turns := s.turns ++ [{ client, exchange }]

/-- The state once the stream has taken some bytes in a turn. -/
def took (s : Shared κ π) (number : Nat) (chunk : List UInt8) : Shared κ π :=
  { s with
    link := { s.link with written := s.link.written ++ chunk }
    turns := s.turns.modify number fun turn => { turn with sent := turn.sent ++ chunk } }

/-- The state once a client has ended its turn and given back the lock. -/
def released (s : Shared κ π) (client : κ) (number : Nat) (outcome : Ending) : Shared κ π where
  link := s.link
  holder := none
  phase := overlay s.phase client .resting
  turns := s.turns.modify number fun turn => { turn with outcome? := some outcome }

/-- The state with other statistics. -/
def counted (s : Shared κ π) (stats : Stats) : Shared κ π :=
  { s with link := { s.link with stats } }

end Shared

-- ================================================================ steps

/-- What the far end of a stream may do, given all that was written: it
becomes another one and sends something. -/
abbrev World (π : Type) := List UInt8 → π → List Arrival → π → Prop

variable {κ π : Type} [DecidableEq κ]

/-- One step of one client, or of the far end. -/
inductive Step (world : World π) : Shared κ π → Shared κ π → Prop where
  | call {s : Shared κ π} {client : κ} {exchange : Exchange} {halves : List Half}
      (hphase : s.phase client = .resting) (hhalves : exchange.halves = .ok halves) :
      Step world s (s.become client (.waiting exchange))
  /-- A call that fails before the lock is asked for. -/
  | refuse {s : Shared κ π} {client : κ} {exchange : Exchange} {fault : LinkFault}
      (hphase : s.phase client = .resting) (hhalves : exchange.halves = .error fault) :
      Step world s s
  | acquire {s : Shared κ π} {client : κ} {exchange : Exchange} {halves : List Half}
      (hphase : s.phase client = .waiting exchange) (hhalves : exchange.halves = .ok halves)
      (hfree : s.holder = none) : Step world s (s.acquired client exchange halves)
  | begin {s : Shared κ π} {client : κ} {number : Nat} {heard : List String} {message : String}
      {halves : List Half}
      (hphase : s.phase client = .turning number heard (.write message :: halves)) :
      Step world s
        (s.become client (.writing number heard message (Frame.ofMessage message).bytes halves))
  /-- The stream takes a chunk of a frame. -/
  | take {s : Shared κ π} {client : κ} {number : Nat} {heard : List String} {message : String}
      {chunk left : List UInt8} {halves : List Half}
      (hphase : s.phase client = .writing number heard message (chunk ++ left) halves) :
      Step world s ((s.took number chunk).become client (.writing number heard message left halves))
  | flush {s : Shared κ π} {client : κ} {number : Nat} {heard : List String} {message : String}
      {halves : List Half} (hphase : s.phase client = .writing number heard message [] halves) :
      Step world s ((s.counted (s.link.stats.sent (Frame.ofMessage message))).become client
        (.turning number heard halves))
  /-- A write or a flush fails, or the time is over. -/
  | cut {s : Shared κ π} {client : κ} {number : Nat} {heard : List String} {message : String}
      {left : List UInt8} {halves : List Half} (reason : Cut)
      (hphase : s.phase client = .writing number heard message left halves) :
      Step world s ((s.counted (reason.count s.link.stats)).become client
        (.failing number (reason.fault s.link.limit)))
  | read {s : Shared κ π} {client : κ} {number : Nat} {heard : List String} {text : String}
      {halves : List Half} {link : Transport π}
      (hphase : s.phase client = .turning number heard (.read :: halves))
      (hread : Transport.receive s.link = .ok text link) :
      Step world s (Shared.become { s with link } client (.turning number (heard ++ [text]) halves))
  | readFails {s : Shared κ π} {client : κ} {number : Nat} {heard : List String}
      {fault : LinkFault} {halves : List Half} {link : Transport π}
      (hphase : s.phase client = .turning number heard (.read :: halves))
      (hread : Transport.receive s.link = .error fault link) :
      Step world s (Shared.become { s with link } client (.failing number fault))
  | release {s : Shared κ π} {client : κ} {number : Nat} {outcome : Ending}
      (hphase : (s.phase client).outcome? = some (number, outcome)) :
      Step world s (s.released client number outcome)
  | world {s : Shared κ π} {arrivals : List Arrival} {peer : π}
      (hworld : world s.link.written s.link.peer arrivals peer) :
      Step world s { s with link := { s.link with peer, inbox := s.link.inbox ++ arrivals } }

/-- Any number of steps in any order. -/
abbrev Steps (world : World π) : Shared κ π → Shared κ π → Prop :=
  Relation.ReflTransGen (Step world)

end SerialEndpoint
