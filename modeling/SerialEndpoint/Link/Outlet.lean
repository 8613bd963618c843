/-
The outlet: the sending side of a stream, and the peer behind it.

A frame is offered as a whole. The stream takes all of it, or it takes
the first bytes only and then fails or blocks until the time is over; a
failure to flush comes when everything is taken. `Outlet` is a stream
with limits and with faults in store.
-/
import SerialEndpoint.Link.Inbox

namespace SerialEndpoint

-- =============================================================== offers

/-- Why a frame was not sent to its end. -/
inductive Cut where
  | failed (fault : Fault)
  /-- The stream took nothing more before the time was over. -/
  | blocked
deriving DecidableEq

/-- How much of a frame was taken. -/
inductive Uptake where
  | whole
  | cut (taken : Nat) (reason : Cut)
deriving DecidableEq

/-- The bytes of a frame that were taken. -/
def Uptake.taken (frame : List UInt8) : Uptake → List UInt8
  | whole => frame
  | cut taken _ => frame.take taken

/-- An answered offer: how much was taken, what comes in because of it,
and the peer after it. -/
structure Answer (π : Type) where
  uptake : Uptake
  arrivals : List Arrival
  peer : π

/-- The far end of a stream. -/
class Peer (π : Type) where
  /-- Offers the bytes of a frame. -/
  offer : π → List UInt8 → Answer π

-- ============================================================== outlets

/-- A stream with limits and faults in store. -/
structure Outlet where
  /-- The most bytes one write takes; a stream that takes none fails. -/
  largest : Option Nat := none
  /-- How many bytes are taken before writes block. -/
  room : Option Nat := none
  /-- The fault of the next write. -/
  writeFault : Option Fault := none
  /-- The fault of the next flush. -/
  flushFault : Option Fault := none
deriving DecidableEq

namespace Outlet

/-- Writes a frame and flushes it. A write cut short is repeated; a flush
is not. -/
def write (outlet : Outlet) (frame : List UInt8) : Uptake × Outlet :=
  let next := { outlet with writeFault := none }
  match outlet.writeFault.filter fun fault => fault.kind ≠ .interrupted with
  | some fault => (.cut 0 (.failed fault), next)
  | none =>
    let fits := match outlet.room with
      | some room => frame.length ≤ room
      | none => true
    if outlet.room = some 0 then (.cut 0 .blocked, next)
    else if outlet.largest = some 0 then (.cut 0 (.failed .nothingTaken), next)
    else if !fits then (.cut (outlet.room.getD 0) .blocked, { next with room := some 0 })
    else
      let next := { next with room := outlet.room.map (· - frame.length), flushFault := none }
      match outlet.flushFault with
      | some fault => (.cut frame.length (.failed fault), next)
      | none => (.whole, next)

end Outlet

/-- An outlet alone is a peer that never answers. -/
instance : Peer Outlet where
  offer outlet frame :=
    let (uptake, outlet) := outlet.write frame
    ⟨uptake, [], outlet⟩

end SerialEndpoint
