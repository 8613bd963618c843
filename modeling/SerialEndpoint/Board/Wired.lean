/-
A board at the far end of a stream: every byte that the stream takes is
fed to the board at once, and what the board writes comes in as one
chunk.
-/
import SerialEndpoint.Board
import SerialEndpoint.Link.Outlet

namespace SerialEndpoint

/-- A board behind an outlet. -/
structure WiredBoard where
  outlet : Outlet := {}
  board : Board

instance : Peer WiredBoard where
  offer wired frame :=
    let (uptake, outlet) := wired.outlet.write frame
    let board := wired.board.feedAll (uptake.taken frame)
    let arrivals := if board.output = [] then [] else [Arrival.chunk board.output]
    ⟨uptake, arrivals, ⟨outlet, board.drained⟩⟩

end SerialEndpoint
