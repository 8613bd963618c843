/-
A board at the far end of a transport that clients share. It takes the
bytes of the stream one by one and whenever it likes; what it writes comes
in later still, in chunks of any size; and what its sensors see may change
between any two moves (`Remote.Moves`).

# The invariant

None of this matters to what the board makes of a line. Apart from its
sensors and its output, which `Board.core` leaves out, the board is what the
bytes it has taken make of a board that was just switched on. `Fed` says this
of the board as it is and of the board as it was before each byte, for a
remote keeps all of these. So a position in the stream has a board of its
own, whenever the board gets there.

It is kept for three reasons. A client only adds bytes behind those that were
taken (`Fed.more`). A move that takes a byte takes the next one of the stream,
and boards with the same core take it alike (`Fed.take`). Every other move
changes the sensors or the output alone (`Fed.become`). A step is one of
these by `step_far`, so `steps_fed` has it for all runs.

# A prompt board

The moves allow a board to be as slow as it likes, so a run in which it is
prompt is one of many. `Remote.answering` shows that there is one: a board
that takes a frame at once and sends what it has written then makes the moves
that an operation of the transport expects of it.
-/
import SerialEndpoint.Proofs.Board.Rest
import SerialEndpoint.Proofs.Link.Alone

namespace SerialEndpoint

-- ============================================================== remotes

/-- A board at the far end of a stream, and the board as it was before each
byte it has taken. -/
structure Remote where
  board : Board
  seen : List Board := []

namespace Remote

/-- Takes a byte. -/
def take (remote : Remote) (byte : UInt8) : Remote where
  board := remote.board.feed byte
  seen := remote.seen ++ [remote.board]

/-- The same board with other things about it. -/
def become (remote : Remote) (board : Board) : Remote := { remote with board }

/-- What a remote board may do, given all that was written. -/
inductive Moves : List UInt8 → Remote → List Arrival → Remote → Prop where
  | take {written : List UInt8} {remote : Remote} {byte : UInt8}
      (hbyte : written[remote.seen.length]? = some byte) :
      Moves written remote [] (remote.take byte)
  | deliver {written : List UInt8} {remote : Remote} {chunk rest : List UInt8}
      (houtput : remote.board.output = chunk ++ rest) (hchunk : chunk ≠ []) :
      Moves written remote [.chunk chunk] (remote.become { remote.board with output := rest })
  | reading {written : List UInt8} {remote : Remote} (pin : UInt8) (raw : UInt16) :
      Moves written remote [] (remote.become (remote.board.setReading pin raw))
  | range {written : List UInt8} {remote : Remote} (sensor : String)
      (distance : Option UInt16) :
      Moves written remote [] (remote.become (remote.board.setRange sensor distance))

/-- The board once it has taken all that was written. -/
def settled (remote : Remote) (written : List UInt8) : Board :=
  remote.board.feedAll (written.drop remote.seen.length)

/-- A transport to a board that was just switched on. -/
def switchedOn (circuit : Circuit) (limit : Duration) : Transport Remote where
  peer := { board := circuit.start }
  limit

end Remote

-- =============================================================== feeding

/-- A remote board goes by what was written: it is what the bytes it has
taken make of a board just switched on, and so it was before each of
them. -/
structure Fed (circuit : Circuit) (written : List UInt8) (remote : Remote) : Prop where
  taken : remote.seen.length ≤ written.length
  board : remote.board.core
    = (circuit.start.feedAll (written.take remote.seen.length)).core
  seen {i : Nat} {b : Board} (h : remote.seen[i]? = some b) :
    b.core = (circuit.start.feedAll (written.take i)).core

section Feeding

variable {circuit : Circuit} {written : List UInt8} {remote : Remote}

/-- Whatever is written later makes no difference to bytes taken before. -/
theorem Fed.more (h : Fed circuit written remote) (more : List UInt8) :
    Fed circuit (written ++ more) remote where
  taken := by
    rw [List.length_append]
    exact Nat.le_add_right_of_le h.taken
  board := by
    rw [List.take_append_of_le_length h.taken]
    exact h.board
  seen {i b} hseen := by
    have hi : i < remote.seen.length := (List.getElem?_eq_some_iff.1 hseen).1
    rw [List.take_append_of_le_length (hi.le.trans h.taken)]
    exact h.seen hseen

theorem Fed.become (h : Fed circuit written remote) {board : Board}
    (hcore : board.core = remote.board.core) : Fed circuit written (remote.become board) :=
  ⟨h.taken, hcore.trans h.board, h.seen⟩

theorem Fed.take (h : Fed circuit written remote) {byte : UInt8}
    (hbyte : written[remote.seen.length]? = some byte) :
    Fed circuit written (remote.take byte) := by
  obtain ⟨hlt, hget⟩ := List.getElem?_eq_some_iff.1 hbyte
  have hlength : (remote.take byte).seen.length = remote.seen.length + 1 :=
    List.length_append
  refine ⟨hlength ▸ hlt, ?_, fun {i b} hseen => ?_⟩
  · rw [hlength, List.take_add_one, hbyte, Board.feedAll_append]
    exact Board.core_feed_congr h.board byte
  · change (remote.seen ++ [remote.board])[i]? = some b at hseen
    rw [List.getElem?_append] at hseen
    split at hseen
    · exact h.seen hseen
    · rename_i hge
      obtain ⟨hzero, rfl⟩ : i - remote.seen.length = 0 ∧ remote.board = b := by
        simpa [List.getElem?_singleton] using hseen
      have hi : i = remote.seen.length := by omega
      rw [hi]
      exact h.board

theorem Fed.moves (h : Fed circuit written remote) {arrivals : List Arrival}
    {remote' : Remote} (hmove : Remote.Moves written remote arrivals remote') :
    Fed circuit written remote' := by
  cases hmove with
  | take hbyte => exact h.take hbyte
  | deliver houtput hchunk => exact h.become rfl
  | reading pin raw => exact h.become rfl
  | range sensor distance => exact h.become rfl

/-- What stands in a list stands in longer ones. -/
theorem getElem?_of_front {α : Type} {front whole : List α} (h : front <+: whole) {i : Nat}
    {a : α} (ha : front[i]? = some a) : whole[i]? = some a := by
  obtain ⟨rest, rfl⟩ := h
  rw [List.getElem?_append_left (List.getElem?_eq_some_iff.1 ha).1, ha]

theorem moves_seen {arrivals : List Arrival} {remote' : Remote}
    (hmove : Remote.Moves written remote arrivals remote') : remote.seen <+: remote'.seen := by
  cases hmove with
  | take hbyte => exact List.prefix_append ..
  | _ => exact List.prefix_rfl

/-- A board that has taken all bytes is what they make of it. -/
theorem Fed.settled (h : Fed circuit written remote) :
    (remote.settled written).core = (circuit.start.feedAll written).core := by
  unfold Remote.settled
  rw [Board.core_feedAll_congr h.board, ← Board.feedAll_append, List.take_append_drop]

theorem switchedOn_fed (circuit : Circuit) (limit : Duration) :
    Fed circuit (Remote.switchedOn circuit limit).written
      (Remote.switchedOn circuit limit).peer :=
  ⟨Nat.le_refl _, rfl, fun h => by cases h⟩

end Feeding

-- ================================================================= runs

section Runs

variable {κ π : Type} [DecidableEq κ] {world : World π} {s s' : Shared κ π}

/-- To the far end a step of a client is some bytes more; else it is a move
of its own. -/
theorem step_far (hstep : Step world s s') :
    (∃ more, s'.link.written = s.link.written ++ more ∧ s'.link.peer = s.link.peer)
      ∨ (s'.link.written = s.link.written
        ∧ ∃ arrivals, world s.link.written s.link.peer arrivals s'.link.peer) := by
  have hsame : ∀ link : Transport π, link.written = s.link.written → link.peer = s.link.peer →
      ∃ more, link.written = s.link.written ++ more ∧ link.peer = s.link.peer :=
    fun _ hwritten hpeer => ⟨[], by rw [hwritten, List.append_nil], hpeer⟩
  cases hstep with
  | take hphase => exact .inl ⟨_, rfl, rfl⟩
  | @read _ _ _ _ _ after hphase hread =>
      have hkeeps := Transport.receive_keeps s.link
      rw [hread] at hkeeps
      exact .inl (hsame after hkeeps.2 hkeeps.1)
  | @readFails _ _ _ _ _ after hphase hread =>
      have hkeeps := Transport.receive_keeps s.link
      rw [hread] at hkeeps
      exact .inl (hsame after hkeeps.2 hkeeps.1)
  | world hworld => exact .inr ⟨rfl, _, hworld⟩
  | _ => exact .inl (hsame _ rfl rfl)

variable {circuit : Circuit} {t t' : Shared κ Remote}

theorem step_fed (hstep : Step Remote.Moves t t')
    (h : Fed circuit t.link.written t.link.peer) :
    Fed circuit t'.link.written t'.link.peer := by
  rcases step_far hstep with ⟨more, hwritten, hpeer⟩ | ⟨hwritten, arrivals, hmove⟩
  · rw [hwritten, hpeer]
    exact h.more more
  · rw [hwritten]
    exact h.moves hmove

/-- However the steps interleave, the board goes by what was written. -/
theorem steps_fed (hsteps : Steps Remote.Moves t t')
    (h : Fed circuit t.link.written t.link.peer) :
    Fed circuit t'.link.written t'.link.peer := by
  induction hsteps with
  | refl => exact h
  | tail _ hstep ih => exact step_fed hstep ih

/-- What was written and what the board has seen only grow. -/
theorem steps_extend (hsteps : Steps Remote.Moves t t') :
    t.link.written <+: t'.link.written ∧ t.link.peer.seen <+: t'.link.peer.seen := by
  induction hsteps with
  | refl => exact ⟨List.prefix_rfl, List.prefix_rfl⟩
  | tail _ hstep ih =>
      rcases step_far hstep with ⟨more, hwritten, hpeer⟩ | ⟨hwritten, arrivals, hmove⟩
      · rw [hwritten, hpeer]
        exact ⟨ih.1.trans (List.prefix_append ..), ih.2⟩
      · rw [hwritten]
        exact ⟨ih.1, ih.2.trans (moves_seen hmove)⟩

end Runs

-- ======================================================= a prompt answer

namespace Remote

/-- Takes some bytes in order. -/
def takeAll (remote : Remote) (bytes : List UInt8) : Remote := bytes.foldl take remote

/-- A remote board in no hurry may still be prompt: it takes a frame at
once and sends what it has written. -/
instance : Peer Remote where
  offer remote frame :=
    let after := remote.takeAll frame
    let arrivals := if after.board.output = [] then [] else [Arrival.chunk after.board.output]
    ⟨.whole, arrivals, after.become after.board.drained⟩

theorem takeAll_seen (bytes : List UInt8) (remote : Remote) :
    (remote.takeAll bytes).seen.length = remote.seen.length + bytes.length := by
  induction bytes generalizing remote with
  | nil => rfl
  | cons byte rest ih =>
      show ((remote.take byte).takeAll rest).seen.length = _
      rw [ih]
      show (remote.seen ++ [remote.board]).length + rest.length = _
      rw [List.length_append, List.length_singleton, List.length_cons]
      omega

theorem moved_takeAll {bytes : List UInt8} :
    ∀ {written : List UInt8} {start remote : Remote},
      remote.seen.length = written.length →
      Moved Moves (written ++ bytes) start [] remote →
      Moved Moves (written ++ bytes) start [] (remote.takeAll bytes) := by
  induction bytes with
  | nil => exact fun _ h => h
  | cons byte rest ih =>
      intro written start remote hlength h
      have hbyte : (written ++ byte :: rest)[remote.seen.length]? = some byte := by
        rw [hlength, List.getElem?_append_right (Nat.le_refl _), Nat.sub_self]
        rfl
      have htaken : Moved Moves (written ++ byte :: rest) start ([] ++ []) (remote.take byte) :=
        h.tail (.take hbyte)
      have hsplit : written ++ byte :: rest = (written ++ [byte]) ++ rest := by
        rw [List.append_assoc]
        rfl
      have hnext : (remote.take byte).seen.length = (written ++ [byte]).length := by
        show (remote.seen ++ [remote.board]).length = _
        rw [List.length_append, List.length_append, hlength]
        rfl
      rw [hsplit] at htaken ⊢
      exact ih hnext htaken

/-- A prompt answer is made of moves. -/
theorem answering :
    Answering Moves fun written remote => remote.seen.length = written.length where
  moves {written remote} hlength frame := by
    intro answer
    have htaken : Moved Moves (written ++ frame) remote [] (remote.takeAll frame) :=
      moved_takeAll hlength .refl
    show Moved Moves (written ++ frame) remote
      (if (remote.takeAll frame).board.output = [] then [] else _) _
    split
    · rename_i hsilent
      have hdrained : (remote.takeAll frame).become (remote.takeAll frame).board.drained
          = remote.takeAll frame := by
        unfold become Board.drained
        rw [← hsilent]
      rw [show answer.peer = remote.takeAll frame from hdrained]
      exact htaken
    · rename_i hspeaks
      exact htaken.tail (.deliver (List.append_nil _).symm hspeaks)
  stands {written remote} hlength frame := by
    intro answer
    show (remote.takeAll frame).seen.length = (written ++ frame).length
    rw [takeAll_seen, List.length_append, hlength]

end Remote

end SerialEndpoint
