/-
What the operations of a transport do, as equations. A send offers one
frame to the far end and keeps what was taken of it (`send_run`); a
receive reads one line and touches neither the far end nor what was
written (`receive_run`, `receive_keeps`).

All that is said of the bytes on the stream is `Writes`: a step adds a
front of certain bytes to what was written, and all of them if it
succeeds. A send writes its frame (`writes_send`). Steps one after the
other write what each of them writes (`writes_bind`), for a step that fails
is the last one, and what it has put on the stream is a front of all the
bytes.
-/
import SerialEndpoint.Link.Transport

namespace SerialEndpoint

/-- What a step leaves behind, whether or not it succeeds. -/
def stateAfter {ε σ α : Type} : EStateM.Result ε σ α → σ
  | .ok _ state => state
  | .error _ state => state

theorem bind_run {ε σ α β : Type} (x : EStateM ε σ α) (f : α → EStateM ε σ β) (s : σ) :
    (x >>= f) s = match x s with
      | .ok a s => f a s
      | .error e s => .error e s := rfl

namespace Transport

variable {π : Type}

-- ============================================================= sending

section Sending

variable [Peer π]

/-- A transport after a frame was offered to its far end. -/
def offered (transport : Transport π) (frame : List UInt8) : Transport π :=
  let answer := Peer.offer transport.peer frame
  { transport with
    peer := answer.peer
    inbox := transport.inbox ++ answer.arrivals
    written := transport.written ++ answer.uptake.taken frame }

theorem send_run (message : String) (transport : Transport π) :
    send message transport =
      let frame := Frame.ofMessage message
      let next := transport.offered frame.bytes
      match (Peer.offer transport.peer frame.bytes).uptake with
      | .whole => .ok () { next with stats := transport.stats.sent frame }
      | .cut _ (.failed fault) =>
        .error (.stream fault) { next with stats := transport.stats.failed }
      | .cut _ .blocked =>
        .error (.timeout transport.limit) { next with stats := transport.stats.timedOut } := by
  rw [send, bind_run]
  dsimp only [get, getThe, MonadStateOf.get, EStateM.get]
  unfold offered
  obtain ⟨uptake, arrivals, peer⟩ := Peer.offer transport.peer (Frame.ofMessage message).bytes
  rcases uptake with _ | ⟨taken, fault | _⟩ <;> rfl

/-- However a send ends, the frame was offered. -/
theorem stateAfter_send (message : String) (transport : Transport π) :
    ∃ stats, stateAfter (send message transport)
      = { transport.offered (Frame.ofMessage message).bytes with stats } := by
  rw [send_run]
  simp only
  rcases (Peer.offer transport.peer (Frame.ofMessage message).bytes).uptake with
    _ | ⟨taken, fault | _⟩
  · exact ⟨_, rfl⟩
  · exact ⟨_, rfl⟩
  · exact ⟨_, rfl⟩

-- ======================================================= bytes written

/-- A step that adds a front of some bytes to what was written, and all of
them if it succeeds. -/
def Writes {ε α : Type} (step : EStateM ε (Transport π) α) (bytes : List UInt8) : Prop :=
  ∀ transport, ∃ taken, taken <+: bytes
    ∧ (stateAfter (step transport)).written = transport.written ++ taken
    ∧ ∀ value after, step transport = .ok value after → taken = bytes

/-- A send writes its frame. -/
theorem writes_send (message : String) :
    Writes (send message : OnLink (Transport π) Unit) (Frame.ofMessage message).bytes := by
  intro transport
  rw [send_run]
  simp only [offered]
  obtain ⟨uptake, arrivals, peer⟩ := Peer.offer transport.peer (Frame.ofMessage message).bytes
  rcases uptake with _ | ⟨taken, fault | _⟩
  · exact ⟨_, List.prefix_rfl, rfl, fun _ _ _ => rfl⟩
  · exact ⟨_, List.take_prefix taken _, rfl, fun _ _ h => by cases h⟩
  · exact ⟨_, List.take_prefix taken _, rfl, fun _ _ h => by cases h⟩

omit [Peer π] in
theorem writes_pure {ε α : Type} (a : α) :
    Writes (pure a : EStateM ε (Transport π) α) [] :=
  fun _ => ⟨[], List.prefix_rfl, (List.append_nil _).symm, fun _ _ _ => rfl⟩

omit [Peer π] in
/-- Steps one after the other write one after the other; a step that fails
is the last one. -/
theorem writes_bind {ε α β : Type} {x : EStateM ε (Transport π) α}
    {f : α → EStateM ε (Transport π) β} {bytes more : List UInt8} (hx : Writes x bytes)
    (hf : ∀ a, Writes (f a) more) : Writes (x >>= f) (bytes ++ more) := by
  intro transport
  obtain ⟨taken, hfront, hwritten, hwhole⟩ := hx transport
  rw [bind_run]
  cases hrun : x transport with
  | ok a between =>
      rw [hrun] at hwritten
      obtain ⟨taken', hfront', hwritten', hwhole'⟩ := hf a between
      refine ⟨bytes ++ taken', (List.prefix_append_right_inj bytes).2 hfront', ?_,
        fun value after hok => by rw [hwhole' value after hok]⟩
      simp only
      rw [hwritten', show between.written = _ from hwritten, hwhole a between hrun,
        List.append_assoc]
  | error fault between =>
      rw [hrun] at hwritten
      exact ⟨taken, hfront.trans (List.prefix_append ..), hwritten, fun _ _ h => by cases h⟩

end Sending

-- =========================================================== receiving

theorem receive_run (transport : Transport π) :
    receive transport =
      let reading := readLine transport.begun transport.inbox
      let next := { transport with begun := reading.begun, inbox := reading.inbox }
      match reading.outcome with
      | .line bytes =>
        .ok (Utf8.decodeLossy bytes) { next with stats := transport.stats.received bytes }
      | .theEnd =>
        if reading.begun = [] then .error .closed { next with stats := transport.stats.failed }
        else .ok (Utf8.decodeLossy reading.begun)
          { next with begun := [], stats := transport.stats.received reading.begun }
      | .failure fault => .error (.stream fault) { next with stats := transport.stats.failed }
      | .silence =>
        .error (.timeout transport.limit) { next with stats := transport.stats.timedOut } := by
  rw [receive, bind_run]
  dsimp only [get, getThe, MonadStateOf.get, EStateM.get]
  cases (readLine transport.begun transport.inbox).outcome with
  | theEnd =>
      simp only
      split
      · rfl
      · rfl
  | _ => rfl

/-- Whatever is received, the far end stays as it is, and so does what was
written. -/
theorem receive_keeps (transport : Transport π) :
    (stateAfter (receive transport)).peer = transport.peer
      ∧ (stateAfter (receive transport)).written = transport.written := by
  rw [receive_run]
  simp only
  cases (readLine transport.begun transport.inbox).outcome with
  | theEnd =>
      simp only
      split
      · exact ⟨rfl, rfl⟩
      · exact ⟨rfl, rfl⟩
  | _ => exact ⟨rfl, rfl⟩

-- ========================================================== follow-ups

variable [Peer π]

theorem sendThen_send_run (first second : String) (transport : Transport π) :
    sendThen first (.send second) transport = match send first transport with
      | .ok () between => match send second between with
        | .ok () after => .ok none after
        | .error fault after => .error fault after
      | .error fault between => .error fault between := by
  rw [sendThen, bind_run]
  cases send first transport with
  | error fault between => rfl
  | ok done between =>
      simp only [follow]
      rw [bind_run]
      cases send second between <;> rfl

theorem sendThen_receive_run (message : String) (transport : Transport π) :
    sendThen message .receive transport = match send message transport with
      | .ok () between => match receive between with
        | .ok reply after => .ok (some reply) after
        | .error fault after => .error fault after
      | .error fault between => .error fault between := by
  rw [sendThen, bind_run]
  cases send message transport with
  | error fault between => rfl
  | ok done between =>
      simp only [follow]
      show EStateM.map some receive between = _
      unfold EStateM.map
      cases receive between <;> rfl

/-- A send with another one behind it writes both frames. -/
theorem writes_sendThen (first second : String) :
    Writes (sendThen first (.send second) : OnLink (Transport π) (Option String))
      ((Frame.ofMessage first).bytes ++ (Frame.ofMessage second).bytes) := by
  refine writes_bind (writes_send first) fun _ => ?_
  rw [← List.append_nil (Frame.ofMessage second).bytes]
  exact writes_bind (writes_send second) fun _ => writes_pure none

end Transport

end SerialEndpoint
