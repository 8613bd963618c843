/-
Clients that ask a peer, each waiting for its reply a limited time. The
peer answers every request it receives with one line and writes nothing
else, but it takes its time: an answer may come when the client that asked
has given up (`Responds`). Nothing on the line says which request a reply is
for.

# The invariant

`Corresponds` ties a link to what has passed between the peer and its
clients: the peer has received what was written, and what it has sent is the
lines that were heard and then the bytes that are unread. The transport keeps
what comes late for the next receive, and this is why no line is ever left
out:

- a send offers bytes to the peer, and what arrives in return is unread from
  then on (`Corresponds.send`);
- a receive cuts one line off the bytes that are unread and hears it, or it
  leaves them all (`Corresponds.receive`).

A request does both, whether or not it succeeds (`Corresponds.ask`), so by
induction any number of them keep it (`Corresponds.askEach`).

# Counting

The lines that were heard are lines of what the peer has sent, and therefore
its first answers (`Corresponds.front`). The next one to be heard is the
answer with their number, and since the peer has one answer for each request,
it belongs to the request with that number (`Corresponds.reply`). It is the
request that was just made exactly if as many lines were heard as there were
requests before it (`reply_in_turn`).

Where every call before has had its reply, the lines that they wrote are
lines of their own and as many as the replies (`askEach_succeeded`). There
are never more replies than requests (`Corresponds.length_le`), so all of
these lines were requests, and the next reply is for the line of this call.
-/
import SerialEndpoint.Proofs.Link.Receiving
import SerialEndpoint.Proofs.Link.Sending

namespace SerialEndpoint

-- ================================================================ peers

/-- What has passed between a peer and its clients: the bytes it has
received, its answers so far, and the bytes it has sent. -/
structure Correspondence where
  received : List UInt8 := []
  answers : List (List UInt8) := []
  sent : List UInt8 := []
deriving DecidableEq

/-- The requests in some bytes: those of the lines that have ended which
are requests. -/
def requestsIn (isRequest : List UInt8 → Bool) (bytes : List UInt8) : List (List UInt8) :=
  (endedLines bytes).filter isRequest

/-- The line that a frame ends is the only one that it may add to the
requests. -/
theorem requestsIn_frame (isRequest : List UInt8 → Bool) (written : List UInt8)
    (message : String) :
    requestsIn isRequest (written ++ (Frame.ofMessage message).bytes)
      = requestsIn isRequest written
        ++ [unfinished written ++ message.toList.map sentByte].filter isRequest := by
  unfold requestsIn
  rw [(endedLines_frame written message).1, List.filter_append]

/-- A peer that answers each request it receives with one line, in the order
of the requests and in its own time, and writes nothing else. -/
structure Responds {π : Type} [Peer π] (isRequest : List UInt8 → Bool)
    (passed : π → Correspondence) : Prop where
  received (peer : π) (frame : List UInt8) :
    let answer := Peer.offer peer frame
    (passed answer.peer).received = (passed peer).received ++ answer.uptake.taken frame
  sent (peer : π) (frame : List UInt8) :
    let answer := Peer.offer peer frame
    (passed answer.peer).sent = (passed peer).sent ++ bytesIn answer.arrivals
  one_each (peer : π) :
    (passed peer).answers.length = (requestsIn isRequest (passed peer).received).length
  one_line (peer : π) : ∀ line ∈ (passed peer).answers, lineEnd ∉ line
  nothing_else (peer : π) : (passed peer).sent <+: (passed peer).answers.flatMap withEnd
  /-- It does not end the stream. -/
  stays (peer : π) (frame : List UInt8) :
    (Peer.offer peer frame).arrivals.any Arrival.isEnd = false

-- ================================================================ links

variable {π : Type}

/-- A link and what was heard on it, against what has passed: the peer has
received what was written, and what it has sent is the lines that were
heard and the bytes that are unread. -/
structure Corresponds (passed : π → Correspondence) (link : Transport π)
    (lines : List (List UInt8)) : Prop where
  received : (passed link.peer).received = link.written
  sent : (passed link.peer).sent = lines.flatMap withEnd ++ link.unread
  lines : ∀ line ∈ lines, lineEnd ∉ line
  begun : lineEnd ∉ link.begun
  stays : link.inbox.any Arrival.isEnd = false

section Links

variable {passed : π → Correspondence} {link : Transport π} {lines : List (List UInt8)}

/-- A receive hears one line more, or none. -/
theorem Corresponds.receive (h : Corresponds passed link lines) :
    (∃ line after, Transport.receive link = .ok (Utf8.decodeLossy line) after
        ∧ Corresponds passed after (lines ++ [line]))
      ∨ ∃ fault after, Transport.receive link = .error fault after
        ∧ Corresponds passed after lines := by
  have hreads := readLine_reads link.begun link.inbox
  rw [Transport.receive_run]
  generalize readLine link.begun link.inbox = reading at hreads
  obtain ⟨outcome, begun, inbox⟩ := reading
  have hgoes : outcome ≠ .theEnd := by
    intro hend
    have hmet := hreads.met hend
    rw [h.stays] at hmet
    cases hmet
  have hstays : inbox.any Arrival.isEnd = false := by
    rcases hreads.remains with hend | hsame
    · exact absurd hend hgoes
    · exact hsame.trans h.stays
  -- the bytes that the peer has sent, cut where the read has cut them
  have hsent : (passed link.peer).sent
      = lines.flatMap withEnd ++ (outcome.delivered ++ (begun ++ bytesIn inbox)) := by
    rw [hreads.bytes]
    exact h.sent
  have hopen := hreads.begun h.begun
  cases outcome with
  | line bytes =>
      obtain ⟨-, hline⟩ := hreads.line rfl
      refine .inl ⟨bytes, _, rfl, h.received, ?_, ?_, hopen, hstays⟩
      · rw [List.flatMap_append, List.flatMap_singleton, List.append_assoc]
        exact hsent
      · intro l hl
        rcases List.mem_append.1 hl with hl | hl
        · exact h.lines l hl
        · rw [List.mem_singleton.1 hl]
          exact hline h.begun
  | failure fault => exact .inr ⟨_, _, rfl, h.received, hsent, h.lines, hopen, hstays⟩
  | silence => exact .inr ⟨_, _, rfl, h.received, hsent, h.lines, hopen, hstays⟩
  | theEnd => exact absurd rfl hgoes

variable [Peer π]

/-- Sends a request and waits for a line. -/
def Exchange.ask (message : String) : Exchange := .sendThen message .receive

theorem ask_run (message : String) (link : Transport π) :
    (Exchange.ask message).perform link = match Transport.send message link with
      | .ok () between => match Transport.receive between with
        | .ok reply after => .ok [reply] after
        | .error fault after => .error fault after
      | .error fault after => .error fault after := by
  rw [Exchange.ask, Exchange.perform, map_run, Transport.sendThen_receive_run]
  cases Transport.send message link with
  | error fault after => rfl
  | ok done between =>
      simp only
      cases Transport.receive between <;> rfl

/-- A request that has its reply was written whole. -/
theorem ask_succeeded {message : String} {link after : Transport π} {heard : List String}
    (h : (Exchange.ask message).perform link = .ok heard after) :
    ∃ reply, heard = [reply] ∧ after.written = link.written ++ (Frame.ofMessage message).bytes := by
  obtain ⟨taken, -, hwritten, hwhole⟩ := Transport.writes_send message link
  rw [ask_run] at h
  cases hsend : Transport.send message link with
  | error fault between =>
      rw [hsend] at h
      cases h
  | ok done between =>
      rw [hsend] at h hwritten
      rw [hwhole () between hsend] at hwritten
      have hkeeps := (Transport.receive_keeps between).2
      cases hreceive : Transport.receive between with
      | error fault later =>
          simp only [hreceive] at h
          cases h
      | ok reply later =>
          simp only [hreceive] at h
          rw [hreceive] at hkeeps
          cases h
          exact ⟨reply, rfl, hkeeps.trans hwritten⟩

theorem ask_of_sendThen {message reply : String} {link after : Transport π}
    (h : Transport.sendThen message .receive link = .ok (some reply) after) :
    (Exchange.ask message).perform link = .ok [reply] after := by
  rw [Exchange.ask, Exchange.perform, map_run, h]
  rfl

/-- Where every request has its reply, each of them is a line of its own and
one text was heard for it. -/
theorem askEach_succeeded (messages : List String) :
    ∀ {link : Transport π}, unfinished link.written = [] →
      let run := callEach (messages.map Exchange.ask) link
      (∀ ending ∈ run.1, ∃ heard, ending = .ok heard) →
      endedLines run.2.written
          = endedLines link.written ++ messages.map (fun m => m.toList.map sentByte)
        ∧ unfinished run.2.written = [] ∧ (run.1.flatMap heardIn).length = messages.length := by
  induction messages with
  | nil => exact fun hstart _ => ⟨(List.append_nil _).symm, hstart, rfl⟩
  | cons message rest ih =>
      intro link hstart run hall
      obtain ⟨heard, hending⟩ := hall _ (List.mem_cons_self ..)
      cases hfirst : (Exchange.ask message).perform link with
      | error fault after =>
          rw [hfirst] at hending
          cases hending
      | ok texts after =>
          obtain ⟨reply, rfl, hwritten⟩ := ask_succeeded hfirst
          -- nothing was unfinished, so the frame is a line of its own
          obtain ⟨hended, hleft⟩ := endedLines_frame link.written message
          rw [hstart, ← hwritten] at hended
          rw [← hwritten] at hleft
          have hrun : run = (.ok [reply] :: (callEach (rest.map Exchange.ask) after).1,
              (callEach (rest.map Exchange.ask) after).2) := by
            unfold run
            rw [List.map_cons, callEach, hfirst]
            rfl
          rw [hrun] at hall ⊢
          obtain ⟨hrest, hopen, hcount⟩ := ih hleft fun ending hmem =>
            hall ending (List.mem_cons_of_mem _ hmem)
          refine ⟨?_, hopen, ?_⟩
          · rw [hrest, hended, List.append_assoc]
            rfl
          · rw [List.flatMap_cons, List.length_append, hcount]
            exact Nat.add_comm ..

variable {isRequest : List UInt8 → Bool} (hresponds : Responds isRequest passed)

include hresponds

/-- A send, whether or not it succeeds, hears nothing. -/
theorem Corresponds.send (h : Corresponds passed link lines) (message : String) :
    Corresponds passed (stateAfter (Transport.send message link)) lines := by
  obtain ⟨stats, hafter⟩ := Transport.stateAfter_send message link
  rw [hafter]
  constructor
  case received =>
    show (passed (Peer.offer link.peer _).peer).received = _
    rw [hresponds.received, h.received]
    rfl
  case sent =>
    show (passed (Peer.offer link.peer _).peer).sent = _
    rw [hresponds.sent, h.sent]
    unfold Transport.unread Transport.offered
    simp only [bytesIn_append, List.append_assoc]
  case lines => exact h.lines
  case begun => exact h.begun
  case stays =>
    show (link.inbox ++ (Peer.offer link.peer _).arrivals).any Arrival.isEnd = false
    rw [List.any_append, h.stays, hresponds.stays, Bool.false_or]

/-- A request hears one line more, or none. -/
theorem Corresponds.ask (h : Corresponds passed link lines) (message : String) :
    let result := (Exchange.ask message).perform link
    ∃ more, heardIn (endingOf result) = more.map Utf8.decodeLossy
      ∧ Corresponds passed (stateAfter result) (lines ++ more) := by
  intro result
  have hresult : result = _ := ask_run message link
  have hsent := h.send hresponds message
  cases hsend : Transport.send message link with
  | error fault after =>
      rw [hsend] at hresult hsent
      rw [hresult]
      exact ⟨[], rfl, by rw [List.append_nil]; exact hsent⟩
  | ok done between =>
      rw [hsend] at hresult hsent
      simp only at hresult
      rcases hsent.receive with ⟨line, after, hreceive, hheard⟩ | ⟨fault, after, hreceive, hheld⟩
      · rw [show Transport.receive between = _ from hreceive] at hresult
        rw [hresult]
        exact ⟨[line], rfl, hheard⟩
      · rw [show Transport.receive between = _ from hreceive] at hresult
        rw [hresult]
        exact ⟨[], rfl, by rw [List.append_nil]; exact hheld⟩

/-- Requests, one after the other, hear lines one after the other. -/
theorem Corresponds.askEach (messages : List String) :
    ∀ {link : Transport π} {lines : List (List UInt8)}, Corresponds passed link lines →
      let run := callEach (messages.map Exchange.ask) link
      ∃ more, run.1.flatMap heardIn = more.map Utf8.decodeLossy
        ∧ Corresponds passed run.2 (lines ++ more) := by
  induction messages with
  | nil => exact fun h => ⟨[], rfl, by rw [List.append_nil]; exact h⟩
  | cons message rest ih =>
      intro link lines h run
      obtain ⟨more, hheard, hfirst⟩ := h.ask hresponds message
      obtain ⟨later, hlater, hrest⟩ := ih hfirst
      refine ⟨more ++ later, ?_, ?_⟩
      · rw [List.map_append, ← hheard, ← hlater]
        rfl
      · rw [← List.append_assoc]
        exact hrest

/-- The lines that were heard are the peer's first answers. -/
theorem Corresponds.front (h : Corresponds passed link lines) :
    lines <+: (passed link.peer).answers := by
  refine prefix_of_withEnd h.lines (hresponds.one_line link.peer) ?_
  have hall := hresponds.nothing_else link.peer
  rw [h.sent] at hall
  exact (List.prefix_append ..).trans hall

/-- There are no more lines heard than there are requests among the bytes
written. -/
theorem Corresponds.length_le (h : Corresponds passed link lines) :
    lines.length ≤ (requestsIn isRequest link.written).length := by
  rw [← h.received, ← hresponds.one_each]
  exact (h.front hresponds).length_le

/-- The reply to a request is the peer's next answer, and there is a request
that it answers. -/
theorem Corresponds.reply (h : Corresponds passed link lines) {message reply : String}
    {after : Transport π}
    (hreply : Transport.sendThen message .receive link = .ok (some reply) after) :
    ∃ request answer, (requestsIn isRequest after.written)[lines.length]? = some request
      ∧ (passed after.peer).answers[lines.length]? = some answer
      ∧ reply = Utf8.decodeLossy answer := by
  have hcall := ask_of_sendThen hreply
  obtain ⟨more, hmore, hafter⟩ := h.ask hresponds message
  rw [hcall] at hmore hafter
  obtain ⟨answer, rfl, hdecoded⟩ := List.map_eq_singleton_iff.1 hmore.symm
  replace hafter : Corresponds passed after (lines ++ [answer]) := hafter
  have hmany := hafter.length_le hresponds
  rw [List.length_append, List.length_singleton] at hmany
  have hanswered : (passed after.peer).answers[lines.length]? = some answer := by
    obtain ⟨rest, hrest⟩ := hafter.front hresponds
    rw [← hrest]
    simp
  exact ⟨_, answer, List.getElem?_eq_getElem (by omega), hanswered, hdecoded.symm⟩

/-- Clients ask a peer, one after the other, and then one is asked that has
a reply. The reply is the peer's answer to the first request whose answer
nobody has heard: to the line that this call has ended, if the answers to
all requests before it have been heard; otherwise to one of those. -/
theorem reply_in_turn {link : Transport π} (hfresh : passed link.peer = {})
    (hwritten : link.written = []) (hinbox : link.inbox = []) (hbegun : link.begun = [])
    (earlier : List String) {message reply : String} {after : Transport π}
    (hreply : Transport.sendThen message .receive
      (callEach (earlier.map Exchange.ask) link).2 = .ok (some reply) after) :
    let run := callEach (earlier.map Exchange.ask) link
    let heard := run.1.flatMap heardIn
    let asked := requestsIn isRequest run.2.written
    let line := message.toList.map sentByte
    ∃ request answer, (requestsIn isRequest after.written)[heard.length]? = some request
      ∧ (passed after.peer).answers[heard.length]? = some answer
      ∧ reply = Utf8.decodeLossy answer
      ∧ heard.length ≤ asked.length
      ∧ (heard.length = asked.length → request = unfinished run.2.written ++ line)
      ∧ (heard.length < asked.length → asked[heard.length]? = some request)
      ∧ ((∀ ending ∈ run.1, ∃ texts, ending = .ok texts) → request = line) := by
  intro run heard asked line
  have hstart : Corresponds passed link [] := by
    constructor
    case received => rw [hfresh, hwritten]
    case sent =>
      unfold Transport.unread
      rw [hfresh, hbegun, hinbox]
      rfl
    case lines => exact fun _ hline => absurd hline List.not_mem_nil
    case begun => exact hbegun ▸ List.not_mem_nil
    case stays =>
      rw [hinbox]
      rfl
  obtain ⟨lines, hheard, hbefore⟩ := hstart.askEach hresponds earlier
  rw [List.nil_append] at hbefore
  have hlength : heard.length = lines.length := by
    rw [show heard = _ from hheard, List.length_map]
  have hfew := hbefore.length_le hresponds
  obtain ⟨request, answer, hrequest, hanswer, hdecoded⟩ := hbefore.reply hresponds hreply
  rw [← hlength] at hfew hrequest hanswer
  -- the call adds one line to those that were written
  obtain ⟨-, -, hframe⟩ := ask_succeeded (ask_of_sendThen hreply)
  rw [hframe, requestsIn_frame] at hrequest
  have hown : heard.length = asked.length → request = unfinished run.2.written ++ line := by
    intro hall
    rw [hall, List.getElem?_append_right (Nat.le_refl _)] at hrequest
    have hmem := List.mem_of_getElem? hrequest
    exact List.mem_singleton.1 (List.mem_filter.1 hmem).1
  refine ⟨request, answer, ?_, hanswer, hdecoded, hfew, hown, ?_, ?_⟩
  · rw [hframe, requestsIn_frame]
    exact hrequest
  · intro hearlier
    rw [List.getElem?_append_left hearlier] at hrequest
    exact hrequest
  · intro hall
    have hempty : unfinished link.written = [] := by
      rw [hwritten]
      rfl
    obtain ⟨hended, hopen, hcount⟩ := askEach_succeeded earlier hempty hall
    have hasked : asked.length ≤ heard.length := by
      rw [show heard.length = _ from hcount]
      unfold asked requestsIn
      rw [hended, hwritten]
      refine (List.length_filter_le ..).trans ?_
      rw [List.length_append, List.length_map]
      exact (Nat.zero_add _).le
    rw [hown (Nat.le_antisymm hfew hasked), show unfinished run.2.written = _ from hopen]
    rfl

end Links

-- =========================================================== a slow peer

/-- A peer with two sensors. It is known beforehand which of its answers it
sends at once; the others it keeps until it sends again. -/
structure Slow where
  haste : List Bool
  /-- What it has received and answered. -/
  settled : List UInt8 := []
  /-- What it has received since. -/
  recent : List UInt8 := []

namespace Slow

def isCollect (line : List UInt8) : Bool :=
  line == Utf8.encode "VOLTAGE_SENSOR_COLLECT Battery"
    || line == Utf8.encode "VL53L0X_COLLECT Front"

def reading (request : List UInt8) : List UInt8 :=
  if request = Utf8.encode "VOLTAGE_SENSOR_COLLECT Battery" then Utf8.encode "11.942"
  else Utf8.encode "412"

/-- The answers to the requests in some bytes. -/
def answersTo (bytes : List UInt8) : List (List UInt8) :=
  (requestsIn isCollect bytes).map reading

instance : Peer Slow where
  offer peer frame :=
    let recent := peer.recent ++ frame
    if peer.haste.headD true then
      let due := (answersTo (peer.settled ++ recent)).drop (answersTo peer.settled).length
      ⟨.whole, putBack (due.flatMap withEnd) [], ⟨peer.haste.tail, peer.settled ++ recent, []⟩⟩
    else ⟨.whole, [], ⟨peer.haste.tail, peer.settled, recent⟩⟩

def passed (peer : Slow) : Correspondence where
  received := peer.settled ++ peer.recent
  answers := answersTo (peer.settled ++ peer.recent)
  sent := (answersTo peer.settled).flatMap withEnd

theorem answersTo_prefix (bytes more : List UInt8) :
    answersTo bytes <+: answersTo (bytes ++ more) := by
  unfold answersTo requestsIn
  rw [(endedLines_append bytes more).1, List.filter_append, List.map_append]
  exact List.prefix_append ..

/-- The answers that are due are those that were not sent. -/
theorem answersTo_append_drop (bytes more : List UInt8) :
    answersTo bytes ++ (answersTo (bytes ++ more)).drop (answersTo bytes).length
      = answersTo (bytes ++ more) := by
  obtain ⟨rest, hrest⟩ := answersTo_prefix bytes more
  rw [← hrest, List.drop_left]

theorem responds : Responds isCollect passed where
  received peer frame := by
    simp only [Peer.offer]
    split
    · exact (List.append_nil _).trans (List.append_assoc ..).symm
    · exact (List.append_assoc ..).symm
  sent peer frame := by
    simp only [Peer.offer]
    split
    · have hdue := congrArg (List.flatMap withEnd)
        (answersTo_append_drop peer.settled (peer.recent ++ frame))
      rw [List.flatMap_append] at hdue
      simp only [passed, bytesIn_putBack, List.append_nil]
      rw [← hdue]
      exact congrArg _ (List.append_nil _).symm
    · exact (List.append_nil _).symm
  one_each peer := List.length_map reading
  one_line peer := by
    intro line hline
    obtain ⟨request, -, rfl⟩ := List.mem_map.1 hline
    unfold reading
    split
    · decide
    · decide
  nothing_else peer := by
    obtain ⟨rest, hrest⟩ := answersTo_prefix peer.settled peer.recent
    refine ⟨rest.flatMap withEnd, ?_⟩
    show (answersTo _).flatMap withEnd ++ _ = (answersTo _).flatMap withEnd
    rw [← List.flatMap_append, hrest]
  stays peer frame := by
    simp only [Peer.offer]
    split
    · exact any_isEnd_putBack _ []
    · rfl

end Slow

theorem sendThen_of_ending {π : Type} [Peer π] {message reply : String} {link : Transport π}
    (h : endingOf ((Exchange.ask message).perform link) = .ok [reply]) :
    ∃ after, Transport.sendThen message .receive link = .ok (some reply) after := by
  rw [Exchange.ask, Exchange.perform, map_run] at h
  cases hsend : Transport.sendThen message .receive link with
  | error fault after =>
      rw [hsend] at h
      cases h
  | ok reply? after =>
      rw [hsend] at h
      injection h with hheard
      exact ⟨after, by rw [Option.toList_eq_singleton_iff.1 hheard]⟩

/-- A call that is no request hears the late answer to the one before it;
so the third call hears its own. -/
theorem reply_in_turn_slow :
    let link : Transport Slow := { peer := ⟨[false], [], []⟩, limit := ⟨1000⟩ }
    let run := callEach (["VOLTAGE_SENSOR_COLLECT Battery", "MOTOR_BRAKE_HOLD M1"].map .ask) link
    run.1 = [.error (.timeout ⟨1000⟩), .ok ["11.942"]]
      ∧ ∃ after, Transport.sendThen "VL53L0X_COLLECT Front" .receive run.2 = .ok (some "412") after
        ∧ (requestsIn Slow.isCollect after.written)[1]?
          = some (Utf8.encode "VL53L0X_COLLECT Front") := by
  intro link run
  have hrun : run.1 = [.error (.timeout ⟨1000⟩), .ok ["11.942"]] := by decide +kernel
  obtain ⟨after, hreply⟩ : ∃ after,
      Transport.sendThen "VL53L0X_COLLECT Front" .receive run.2 = .ok (some "412") after := by
    apply sendThen_of_ending
    decide +kernel
  obtain ⟨request, answer, hrequest, -, -, -, hown, -⟩ :=
    @reply_in_turn _ _ _ _ Slow.responds link rfl rfl rfl rfl _ _ _ _ hreply
  have hasked : (requestsIn Slow.isCollect run.2.written).length = 1 := by decide +kernel
  have hpiece : unfinished run.2.written = [] := by decide +kernel
  have hheard : (run.1.flatMap heardIn).length = 1 := by rw [hrun]; rfl
  refine ⟨hrun, after, hreply, ?_⟩
  rw [← hheard, show _ = some request from hrequest, hown (hheard.trans hasked.symm),
    show unfinished _ = [] from hpiece]
  rfl

/-- The battery's voltage comes late, and is heard as the distance in
front. -/
theorem late_answer_heard_next :
    let link : Transport Slow := { peer := ⟨[false], [], []⟩, limit := ⟨1000⟩ }
    let first := Transport.sendThen "VOLTAGE_SENSOR_COLLECT Battery" .receive link
    let second := Transport.sendThen "VL53L0X_COLLECT Front" .receive (stateAfter first)
    Responds Slow.isCollect Slow.passed ∧ first = .error (.timeout ⟨1000⟩) (stateAfter first)
      ∧ second = .ok (some "11.942") (stateAfter second)
      ∧ requestsIn Slow.isCollect (stateAfter second).written
        = [Utf8.encode "VOLTAGE_SENSOR_COLLECT Battery", Utf8.encode "VL53L0X_COLLECT Front"]
      ∧ (stateAfter second).peer.passed.answers = [Utf8.encode "11.942", Utf8.encode "412"] := by
  intro link first second
  obtain ⟨after, hsecond⟩ : ∃ after, second = .ok (some "11.942") after := by
    apply sendThen_of_ending
    decide +kernel
  refine ⟨Slow.responds, rfl, ?_, ?_, ?_⟩
  · rw [hsecond]
    rfl
  · decide +kernel
  · decide +kernel

end SerialEndpoint
